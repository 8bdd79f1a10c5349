import JavaLint.Program.Run
import Mathlib.Algebra.GroupWithZero.Nat
import Mathlib.Data.List.Forall2
import Mathlib.Logic.Relation

/-!
# Every file is accounted for

The files that a program checks are handed to workers. Each file has a place for its outcome, and a
worker that has finished with a file puts the outcome there. In whatever order they finish, the
outcomes stand in the order of the files in the end (`Program.Finishes.outcomes_eq`).

What is printed and counted of the files is told by their outcomes (`Program.Accounts`): a line for
each report of each file with an outcome, in its own order, with the path, the position, the rule
and what it says (`Program.IsReportLine`); the number of reports, of errors and of warnings; the
number of files without an outcome; and the exit status. Files without an outcome neither hide nor
change what is printed and counted of the others. Main statement: a program accounts for all files
in this way, whatever their outcomes are (`Program.check_accounts`).
-/

namespace JavaLint

open JavaLint.Files JavaLint.Text

/-! ### Counting by severity -/

namespace LintResult

/-- No severity is graver than `error`. -/
theorem countAt_error (r : LintResult) : r.countAt .error = r.countAtLeast .error := by
  refine List.countP_congr fun m _ => ?_
  cases hs : m.severity <;> decide

/-- What is as grave as a warning is a warning or an error. -/
theorem countAt_warning_add (r : LintResult) :
    r.countAt .warning + r.countAtLeast .error = r.countAtLeast .warning := by
  unfold countAt countAtLeast
  induction r.messages with
  | nil => rfl
  | cons m ms ih =>
    have hone : (if m.severity == .warning then 1 else 0) +
        (if decide (Severity.rank .error ≤ m.severity.rank) then 1 else 0) =
          if decide (Severity.rank .warning ≤ m.severity.rank) then 1 else 0 := by
      cases m.severity <;> rfl
    simp only [List.countP_cons]
    omega

end LintResult

namespace Program

/-! ### Workers -/

section Workers

variable {α β : Type} {work : α → β} {files : List α} {places places' : List (Option β)}

/-- A worker finishes with a file that has no outcome yet, and puts the outcome in its place. -/
inductive Finishes (work : α → β) (files : List α) : List (Option β) → List (Option β) → Prop
  | file {places : List (Option β)} (i : Nat) (f : α) (hf : files[i]? = some f)
      (hfree : places[i]? = some none) : Finishes work files places (places.set i (some (work f)))

/-- The places before any worker has finished. -/
def unfinished (β : Type) (n : Nat) : List (Option β) := List.replicate n none

/-- An outcome stands in the place of its file. -/
structure InPlace (work : α → β) (files : List α) (places : List (Option β)) : Prop where
  length_eq : places.length = files.length
  outcome_eq : ∀ (i : Nat) (b : β), places[i]? = some (some b) →
    ∃ f, files[i]? = some f ∧ work f = b

theorem inPlace_unfinished (work : α → β) (files : List α) :
    InPlace work files (unfinished β files.length) where
  length_eq := List.length_replicate
  outcome_eq i b h := by
    simp [unfinished, List.getElem?_replicate] at h

theorem InPlace.finishes (h : InPlace work files places)
    (hstep : Finishes work files places places') : InPlace work files places' := by
  obtain ⟨i, f, hf, hfree⟩ := hstep
  refine ⟨by rw [List.length_set, h.length_eq], fun j b hj => ?_⟩
  rw [List.getElem?_set] at hj
  split at hj
  · rename_i hij
    split at hj
    · subst hij
      exact ⟨f, hf, Option.some.inj (Option.some.inj hj)⟩
    · exact absurd hj.symm (Option.some_ne_none _)
  · exact h.outcome_eq j b hj

/-- As long as a file has no outcome, a worker can finish with one. -/
theorem InPlace.exists_finishes (h : InPlace work files places) (hfree : none ∈ places) :
    ∃ places', Finishes work files places places' := by
  obtain ⟨i, hi⟩ := List.mem_iff_getElem?.1 hfree
  have hlt : i < files.length := by
    rw [← h.length_eq]
    exact (List.getElem?_eq_some_iff.1 hi).1
  exact ⟨_, .file i files[i] (List.getElem?_eq_getElem hlt) hi⟩

theorem InPlace.run (h : InPlace work files places)
    (hrun : Relation.ReflTransGen (Finishes work files) places places') :
    InPlace work files places' := by
  induction hrun with
  | refl => exact h
  | tail _ hstep ih => exact ih.finishes hstep

/-- When workers have finished with all files, in any order, the outcomes stand in the order of the
files. -/
theorem Finishes.outcomes_eq
    (hrun : Relation.ReflTransGen (Finishes work files) (unfinished β files.length) places)
    (hdone : none ∉ places) : places = (files.map work).map some := by
  have h := (inPlace_unfinished work files).run hrun
  refine List.ext_getElem? fun i => ?_
  rw [List.getElem?_map, List.getElem?_map]
  cases hi : places[i]? with
  | none =>
    rw [List.getElem?_eq_none_iff, h.length_eq, ← List.getElem?_eq_none_iff] at hi
    rw [hi]
    rfl
  | some place =>
    cases place with
    | none => exact absurd (List.mem_iff_getElem?.2 ⟨i, hi⟩) hdone
    | some b =>
      obtain ⟨f, hf, rfl⟩ := h.outcome_eq i b hi
      rw [hf]
      rfl

end Workers

/-! ### Totals -/

/-- The outcome of a file, if it has one. -/
def CheckedFile.result? (f : CheckedFile) : Option LintResult := f.outcome.toOption

/-- The outcomes of the files that have one, in the order of the files, with their paths. -/
def results (files : List CheckedFile) : List (String × LintResult) :=
  files.filterMap fun f => f.result?.map (f.path, ·)

/-- The reports of the files that have an outcome, with the paths of the files. -/
def reported (files : List CheckedFile) : List (String × Message) :=
  (results files).flatMap fun e => e.2.messages.map (e.1, ·)

theorem CheckedFile.result?_eq_some_iff {f : CheckedFile} {r : LintResult} :
    f.result? = some r ↔ f.outcome = .ok r := by
  cases h : f.outcome <;> simp [result?, h, Except.toOption]

theorem CheckedFile.result?_eq_none {f : CheckedFile} {e : CheckFault} (h : f.outcome = .error e) :
    f.result? = none := by
  rw [result?, h]
  rfl

theorem results_cons (f : CheckedFile) (files : List CheckedFile) :
    results (f :: files) = f.result?.toList.map (f.path, ·) ++ results files := by
  rw [results, List.filterMap_cons]
  cases f.result? <;> rfl

theorem mem_results_iff {files : List CheckedFile} {path : String} {r : LintResult} :
    (path, r) ∈ results files ↔ ∃ f ∈ files, f.path = path ∧ f.outcome = .ok r := by
  simp only [results, List.mem_filterMap, Option.map_eq_some_iff, Prod.mk.injEq,
    ← CheckedFile.result?_eq_some_iff]
  constructor
  · rintro ⟨f, hf, r, hr, rfl, rfl⟩
    exact ⟨f, hf, rfl, hr⟩
  · rintro ⟨f, hf, rfl, hr⟩
    exact ⟨f, hf, r, hr, rfl, rfl⟩

/-- One file after the other adds what it has to the totals. -/
theorem foldl_add (s : Summary) (files : List CheckedFile) :
    files.foldl Summary.add s =
      ⟨s.violations + ((results files).map fun e => e.2.messages.length).sum,
        s.errors + ((results files).map fun e => e.2.countAt .error).sum,
        s.warnings + ((results files).map fun e => e.2.countAt .warning).sum,
        s.failed + files.countP fun f => f.result?.isNone⟩ := by
  induction files generalizing s with
  | nil => rfl
  | cons f files ih =>
    rw [List.foldl_cons, ih, results_cons, List.countP_cons, Summary.add]
    cases houtcome : f.outcome with
    | error e =>
      rw [CheckedFile.result?_eq_none houtcome, Summary.mk.injEq]
      exact ⟨rfl, rfl, rfl, by simp only [Option.isNone_none, if_true]; omega⟩
    | ok r =>
      rw [CheckedFile.result?_eq_some_iff.2 houtcome]
      simp [Nat.add_assoc]

theorem summary_eq (files : List CheckedFile) :
    Summary.of files =
      ⟨((results files).map fun e => e.2.messages.length).sum,
        ((results files).map fun e => e.2.countAt .error).sum,
        ((results files).map fun e => e.2.countAt .warning).sum,
        files.countP fun f => f.result?.isNone⟩ := by
  rw [Summary.of, foldl_add]
  simp only [Summary.none, Nat.zero_add]

/-- The exit status tells whether a file has a report at the severity `error`. -/
theorem exit_eq_one_iff (files : List CheckedFile) :
    (Summary.of files).exit = 1 ↔
      ∃ f ∈ files, ∃ r, f.outcome = .ok r ∧ ∃ m ∈ r.messages, m.severity = .error := by
  have hpos : (Summary.of files).exit = 1 ↔ 0 < (Summary.of files).errors := by
    rw [Summary.exit]
    split
    · exact iff_of_true rfl ‹_›
    · exact iff_of_false Nat.zero_ne_one ‹_›
  rw [hpos, summary_eq, List.sum_pos_iff_exists_pos_nat]
  constructor
  · rintro ⟨_, hmem, hcount⟩
    obtain ⟨⟨path, r⟩, he, rfl⟩ := List.mem_map.1 hmem
    obtain ⟨f, hf, -, hr⟩ := mem_results_iff.1 he
    obtain ⟨m, hm, hs⟩ := List.countP_pos_iff.1 hcount
    exact ⟨f, hf, r, hr, m, hm, beq_iff_eq.1 hs⟩
  · rintro ⟨f, hf, r, hr, m, hm, hs⟩
    exact ⟨_, List.mem_map_of_mem (mem_results_iff.2 ⟨f, hf, rfl, hr⟩),
      List.countP_pos_iff.2 ⟨m, hm, beq_iff_eq.2 hs⟩⟩

/-! ### Lines -/

/-- How a text stands in a line that shows it in the colour of a code: with escape sequences around
it where lines are coloured, and else alone. -/
inductive Inked (env : Environment) (code text : String) : String → Prop
  | plain (h : env.coloured = false) : Inked env code text text
  | coloured (h : env.coloured = true) :
      Inked env code text ("\x1b[" ++ code ++ "m" ++ text ++ "\x1b[0m")

/-- How the name of a rule stands in the line of a report: in brackets, in the colour of the
severity. -/
inductive IsTag (env : Environment) (rule : String) : Severity → String → Prop
  | error {tag : String} (h : Inked env "31" ("[" ++ rule ++ "]") tag) : IsTag env rule .error tag
  | warning {tag : String} (h : Inked env "33" ("[" ++ rule ++ "]") tag) :
      IsTag env rule .warning tag
  | info {tag : String} (h : Inked env "34" ("[" ++ rule ++ "]") tag) : IsTag env rule .info tag
  | ignore : IsTag env rule .ignore ("[" ++ rule ++ "]")

/-- The line of a report for the file at a path: the path, the line and the column, the name of the
rule, and what is said. -/
inductive IsReportLine (env : Environment) (path : String) (m : Message) : String → Prop
  | line {tag : String} (htag : IsTag env m.rule m.severity tag) :
      IsReportLine env path m
        (path ++ ":" ++ toString m.position.line.val ++ ":" ++ toString m.position.column.val ++
          ": " ++ tag ++ " " ++ m.diagnostic.body)

/-- The line of the totals of some files. -/
inductive IsTotalLine (env : Environment) (s : Summary) (files : ℕ) : String → Prop
  | found {errors warnings : String} (h : 0 < s.violations)
      (herrors : Inked env "31" (toString s.errors) errors)
      (hwarnings : Inked env "33" (toString s.warnings) warnings) :
      IsTotalLine env s files
        ("\nFound " ++ toString s.violations ++ " violation(s) (" ++ errors ++ " error(s), " ++
          warnings ++ " warning(s)) in " ++ toString files ++ " file(s)")
  | clean {text : String} (h : s.violations = 0)
      (htext : Inked env "32" "No violations found" text) : IsTotalLine env s files text

/-- What is said of a file without an outcome: that there is an error, and which. -/
inductive IsFaultNote (env : Environment) (e : CheckFault) : Note → Prop
  | line {word : String} (hword : Inked env "31" "error" word) :
      IsFaultNote env e (.line (word ++ ": " ++ e.message))

theorem inked_paint (env : Environment) (c : Colour) (text : String) :
    Inked env (toString c.code) text (env.paint c text) := by
  rw [Environment.paint]
  split
  · rename_i h
    exact .coloured h
  · rename_i h
    exact .plain (Bool.eq_false_iff.2 h)

theorem isTag_paintSeverity (env : Environment) (rule : String) (s : Severity) :
    IsTag env rule s (env.paintSeverity s ("[" ++ rule ++ "]")) := by
  cases s with
  | error => exact .error (inked_paint env .red _)
  | warning => exact .warning (inked_paint env .yellow _)
  | info => exact .info (inked_paint env .blue _)
  | ignore => exact .ignore

theorem isReportLine_messageLine (env : Environment) (path : String) (m : Message) :
    IsReportLine env path m (messageLine env path m) := by
  have hline : messageLine env path m =
      path ++ ":" ++ (toString m.position.line.val ++ ":" ++ toString m.position.column.val) ++
        ": " ++ env.paintSeverity m.severity ("[" ++ m.rule ++ "]") ++ " " ++
        m.diagnostic.body := rfl
  rw [hline, ← String.append_assoc, ← String.append_assoc]
  exact .line (isTag_paintSeverity env m.rule m.severity)

theorem isTotalLine_totalLine (env : Environment) (s : Summary) (files : ℕ) :
    IsTotalLine env s files (totalLine env s files) := by
  by_cases h : 0 < s.violations
  · have hline : totalLine env s files =
        "\nFound " ++ toString s.violations ++ " violation(s) (" ++
          env.paint .red (toString s.errors) ++ " error(s), " ++
          env.paint .yellow (toString s.warnings) ++ " warning(s)) " ++
          ("in " ++ toString files ++ " file(s)") := if_pos h
    have hin (front : String) : front ++ " warning(s)) " ++ "in " = front ++ " warning(s)) in " :=
      String.append_assoc
    rw [hline, ← String.append_assoc, ← String.append_assoc, hin]
    exact .found h (inked_paint env .red _) (inked_paint env .yellow _)
  · have hline : totalLine env s files = env.paint .green "No violations found" := if_neg h
    rw [hline]
    exact .clean (Nat.eq_zero_of_not_pos h) (inked_paint env .green _)

/-! ### What is printed -/

/-- The faults of the files without an outcome, in the order of the files. -/
def faults (files : List CheckedFile) : List CheckFault :=
  files.filterMap fun f => match f.outcome with
    | .error e => some e
    | .ok _ => none

theorem faults_cons_of_error {f : CheckedFile} {e : CheckFault} (h : f.outcome = .error e)
    (files : List CheckedFile) : faults (f :: files) = e :: faults files := by
  rw [faults, List.filterMap_cons, h]
  rfl

theorem faults_cons_of_ok {f : CheckedFile} {r : LintResult} (h : f.outcome = .ok r)
    (files : List CheckedFile) : faults (f :: files) = faults files := by
  rw [faults, List.filterMap_cons, h]
  rfl

theorem length_faults (files : List CheckedFile) :
    (faults files).length = files.countP fun f => f.result?.isNone := by
  induction files with
  | nil => rfl
  | cons f files ih =>
    rw [List.countP_cons, ← ih]
    cases houtcome : f.outcome with
    | error e =>
      rw [faults_cons_of_error houtcome, CheckedFile.result?_eq_none houtcome]
      rfl
    | ok r =>
      rw [faults_cons_of_ok houtcome, CheckedFile.result?_eq_some_iff.2 houtcome]
      rfl

/-- One note is made of each file without an outcome. -/
theorem forall₂_faultNotes (env : Environment) (files : List CheckedFile) :
    List.Forall₂ (IsFaultNote env) (faults files) (files.flatMap (faultNotes env)) := by
  induction files with
  | nil => exact .nil
  | cons f files ih =>
    rw [List.flatMap_cons]
    cases houtcome : f.outcome with
    | error e =>
      have hnotes : faultNotes env f = [.line (env.paint .red "error" ++ ": " ++ e.message)] := by
        rw [faultNotes, houtcome, String.append_assoc]
        rfl
      rw [faults_cons_of_error houtcome, hnotes]
      exact .cons (.line (inked_paint env .red "error")) ih
    | ok r =>
      have hnotes : faultNotes env f = [] := by rw [faultNotes, houtcome]
      rw [faults_cons_of_ok houtcome, hnotes]
      exact ih

/-- The lines of the reports are those of the files with an outcome. -/
theorem flatMap_messageLines (env : Environment) (files : List CheckedFile) :
    files.flatMap (messageLines env) =
      (reported files).map fun e => messageLine env e.1 e.2 := by
  induction files with
  | nil => rfl
  | cons f files ih =>
    rw [List.flatMap_cons, ih, reported, reported, results_cons, List.flatMap_append,
      List.map_append, messageLines]
    refine congrArg (· ++ _) ?_
    cases houtcome : f.outcome with
    | error e =>
      rw [CheckedFile.result?_eq_none houtcome]
      rfl
    | ok r =>
      rw [CheckedFile.result?_eq_some_iff.2 houtcome, Option.toList_some, List.map_singleton,
        List.flatMap_singleton, List.map_map]
      rfl

/-- The files that have an outcome. -/
def succeeded (files : List CheckedFile) : List CheckedFile := files.filter (·.result?.isSome)

theorem results_succeeded (files : List CheckedFile) :
    results (succeeded files) = results files := by
  rw [results, succeeded, List.filterMap_filter]
  refine congrArg (List.filterMap · files) (funext fun f => ?_)
  cases f.result? <;> rfl

/-- What is printed and counted of some files is told by their outcomes. -/
structure Accounts (env : Environment) (files : List CheckedFile) : Prop where
  /-- A line is printed for each report of the files with an outcome, in the order of the files, and
  for those of one file in its own order, and the totals behind them. -/
  printed : ∃ lines total, List.Forall₂ (fun e line => IsReportLine env e.1 e.2 line)
      (reported files) lines ∧
    IsTotalLine env (.of files) files.length total ∧
    reportText env files = String.join ((lines ++ [total]).map (· ++ "\n"))
  violations : (Summary.of files).violations =
    ((results files).map fun e => e.2.messages.length).sum
  errors : (Summary.of files).errors = ((results files).map fun e => e.2.countAtLeast .error).sum
  warnings : (Summary.of files).warnings =
    ((results files).map fun e =>
      e.2.countAtLeast .warning - e.2.countAtLeast .error).sum
  /-- So the difference counts the reports between the two severities. -/
  error_le_warning : ∀ r : LintResult, r.countAtLeast .error ≤ r.countAtLeast .warning
  failed : (Summary.of files).failed = files.countP fun f => f.result?.isNone
  /-- Of each file without an outcome it is said why it has none. -/
  told : List.Forall₂ (IsFaultNote env) (faults files) (files.flatMap (faultNotes env)) ∧
    (files.flatMap (faultNotes env)).length = (Summary.of files).failed
  exit_eq_one : (Summary.of files).exit = 1 ↔
    ∃ f ∈ files, ∃ r, f.outcome = .ok r ∧ ∃ m ∈ r.messages, m.severity = .error
  exit_eq_zero : (Summary.of files).exit = 0 ↔
    ¬ ∃ f ∈ files, ∃ r, f.outcome = .ok r ∧ ∃ m ∈ r.messages, m.severity = .error
  /-- Files without an outcome change nothing but their own number. -/
  others : reported (succeeded files) = reported files ∧
    Summary.of (succeeded files) = { Summary.of files with failed := 0 }

theorem accounts (env : Environment) (files : List CheckedFile) : Accounts env files where
  printed := by
    refine ⟨(reported files).map fun e => messageLine env e.1 e.2,
      totalLine env (.of files) files.length, ?_, isTotalLine_totalLine env _ _, ?_⟩
    · rw [List.forall₂_map_right_iff, List.forall₂_same]
      exact fun e _ => isReportLine_messageLine env e.1 e.2
    · rw [reportText, flatMap_messageLines]
  violations := by rw [summary_eq]
  errors := by simp only [summary_eq, LintResult.countAt_error]
  warnings := by
    have hdiff : ∀ r : LintResult,
        r.countAt .warning = r.countAtLeast .warning - r.countAtLeast .error := fun r => by
      have := r.countAt_warning_add
      omega
    simp only [summary_eq, hdiff]
  error_le_warning r := by
    have := r.countAt_warning_add
    omega
  failed := by rw [summary_eq]
  told := by
    have hnotes := forall₂_faultNotes env files
    exact ⟨hnotes, by rw [← hnotes.length_eq, length_faults, summary_eq]⟩
  exit_eq_one := exit_eq_one_iff files
  exit_eq_zero := by
    rw [← exit_eq_one_iff, Summary.exit]
    split <;> simp
  others := by
    have hnone : ((succeeded files).countP fun f => f.result?.isNone) = 0 := by
      rw [List.countP_eq_zero]
      intro f hf
      have hsome := (List.mem_filter.1 hf).2
      simp [Option.isSome_iff_ne_none.1 hsome]
    exact ⟨by rw [reported, results_succeeded, reported],
      by rw [summary_eq, summary_eq, results_succeeded, hnone]⟩

/-! ### The program -/

/-- A program accounts for all files that it is asked to check. Workers check them: as long as a
file has no outcome they can go on, and when every file has one, whichever was finished first, the
outcomes stand in the order of the files. The program prints, tells and exits as these outcomes
say, and what it says is right for any outcomes: reports of any severities, or failures. -/
theorem check_accounts (env : Environment) (fs : FileSystem) (filter : Log.Filter)
    (paths : List String) (config : Option String) (l : Linter)
    (hlinter : linterFor fs config = .ok l) :
    (∀ places, Relation.ReflTransGen
        (Finishes (fun path => ⟨path, l.checkFile fs path⟩) (fs.collectAll sourceExtension paths))
        (unfinished CheckedFile (fs.collectAll sourceExtension paths).length) places →
      (none ∈ places → ∃ places', Finishes (fun path => ⟨path, l.checkFile fs path⟩)
        (fs.collectAll sourceExtension paths) places places') ∧
      (none ∉ places → places = (checkFiles l fs paths).map some)) ∧
    (∃ before, check env fs filter paths config =
      ⟨(Summary.of (checkFiles l fs paths)).exit, reportText env (checkFiles l fs paths),
        Note.shownAll filter (before ++ (checkFiles l fs paths).flatMap (faultNotes env) ++
          failedNotes env (.of (checkFiles l fs paths)))⟩) ∧
    ∀ files, Accounts env files := by
  refine ⟨fun places hrun => ⟨?_, Finishes.outcomes_eq hrun⟩, ?_, accounts env⟩
  · exact ((inPlace_unfinished _ _).run hrun).exists_finishes
  · refine ⟨setupNotes env fs config ++ [rulesNote env l] ++
      collectNotes fs paths (checkFiles l fs paths).length ++
      (checkFiles l fs paths).flatMap checkedNotes, ?_⟩
    delta check
    rw [hlinter]

/-- A directory with one source and no configuration. -/
def oneSource : FileSystem := ⟨[.file "A.java" "class A \x7b final static int y; \x7d".toUTF8], "/"⟩

/-- The standard linter on that source and on a file that is missing. -/
theorem check_accounts_sample :
    let paths := ["A.java", "Missing.java"]
    let work := fun path => CheckedFile.mk path (Linter.standard.checkFile oneSource path)
    let collected := oneSource.collectAll sourceExtension paths
    linterFor oneSource none = .ok .standard ∧
      (∀ places, Relation.ReflTransGen (Finishes work collected)
          (unfinished CheckedFile collected.length) places →
        (none ∈ places → ∃ places', Finishes work collected places places') ∧
        (none ∉ places → places = (checkFiles .standard oneSource paths).map some)) ∧
      (∃ before, check ⟨false, none⟩ oneSource default paths none =
        ⟨(Summary.of (checkFiles .standard oneSource paths)).exit,
          reportText ⟨false, none⟩ (checkFiles .standard oneSource paths),
          Note.shownAll default (before ++
            (checkFiles .standard oneSource paths).flatMap (faultNotes ⟨false, none⟩) ++
            failedNotes ⟨false, none⟩ (.of (checkFiles .standard oneSource paths)))⟩) ∧
      ∀ files, Accounts ⟨false, none⟩ files := by
  intro paths work collected
  have hnone : (loaderFor none).load oneSource = .error .noConfiguration := rfl
  have hlinter : linterFor oneSource none = .ok .standard := by
    delta linterFor
    rw [hnone]
  exact ⟨hlinter, check_accounts ⟨false, none⟩ oneSource default paths none .standard hlinter⟩

end Program

end JavaLint
