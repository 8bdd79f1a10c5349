import JavaLint.Proofs.Answers
import JavaLint.Proofs.Comments
import JavaLint.Proofs.Sorting

/-!
# What a linter reports

A linter shows the nodes of a tree to its rules one after the other and sorts what they find. What
it reports is said without a walk: every place of the tree, every rule that runs and asks for nodes
of that kind, and everything that the rule finds there give one report, unless the rule is silent
where the finding starts (`Linter.emitted`).

If the rules that run have answers, and what they find starts between characters, a linter has an
outcome for every well-formed tree over a text of 32 bits, and it is these reports in order
(`Linter.exists_checkTree`).
-/

namespace JavaLint

open JavaLint.Text

/-! ### What is found -/

/-- What a rule finds at a node; nothing where it has no answer. -/
def Rule.found (r : Rule) (lines : Lines) (c : Cursor) : List Diagnostic :=
  (r.check lines c).toOption.getD []

/-- The position of an offset; the first one where it has none. -/
def Text.Lines.positionAt (lines : Lines) (o : Offset) : Position :=
  (lines.position o).toOption.getD default

/-- A rule that has answers finds at a node what it answers there, and all of it has a position. -/
theorem Rule.Answers.check_eq_found {r : Rule} {source : String} {tree : Tree} {lines : Lines}
    {c : Cursor} (h : r.Answers source tree) (hsize : source.utf8ByteSize < UInt32.size)
    (hlines : Lines.ofText source = .ok lines) (hc : c ∈ tree.places)
    (hasked : r.kinds = [] ∨ c.kind ∈ r.kinds) :
    r.check lines c = .ok (r.found lines c) ∧
      ∀ d ∈ r.found lines c, lines.position d.span.start = .ok (lines.positionAt d.span.start) := by
  obtain ⟨ds, hcheck, hvalid⟩ := h lines hlines c hc hasked
  have hfound : r.found lines c = ds := by rw [Rule.found, hcheck]; rfl
  rw [hfound]
  refine ⟨hcheck, fun d hd => ?_⟩
  obtain ⟨p, hp⟩ := (Lines.of_ofText hsize hlines).exists_position hsize (hvalid d hd)
  rw [Text.Lines.positionAt, hp]
  rfl

/-- The report of a finding. -/
def ActiveRule.report (lines : Lines) (a : ActiveRule) (d : Diagnostic) : Message where
  rule := a.rule.name
  severity := a.severity
  position := lines.positionAt d.span.start
  diagnostic := d

/-- A report counts unless its rule is silent where the finding starts. -/
def Message.isHeard (silent : Suppressions) (m : Message) : Bool :=
  !silent.silences m.rule m.diagnostic.span.start

namespace Linter

/-- The reports of all findings at a place: by the rules that are not ignored and ask for no kinds
or for the kind of the node, in the order of the linter, and of one rule by what it finds. -/
def findingsAt (l : Linter) (lines : Lines) (c : Cursor) : List Message :=
  (l.rules.filter fun a =>
    a.severity ≠ .ignore ∧ (a.rule.kinds = [] ∨ c.kind ∈ a.rule.kinds)).flatMap fun a =>
      (a.rule.found lines c).map (a.report lines)

/-- The reports of all findings, by the places of the tree. -/
def findings (l : Linter) (lines : Lines) (tree : Tree) : List Message :=
  tree.places.flatMap (l.findingsAt lines)

/-- The reports of all findings where the rules are not silent. -/
def emitted (l : Linter) (lines : Lines) (silent : Suppressions) (tree : Tree) : List Message :=
  (l.findings lines tree).filter (Message.isHeard silent)

end Linter

/-! ### Where rules are silent -/

namespace Suppressions

variable {source : String} {tree : Tree}

/-- Annotations silence something definite in every well-formed tree. -/
theorem exists_ofAnnotations (hsize : source.utf8ByteSize < UInt32.size)
    (hwf : tree.WellFormed source.utf8ByteSize) : ∃ s, ofAnnotations source tree = .ok s := by
  have hregions : ∀ t ∈ tree.walk.filter fun t => t.kind.isDeclaration,
      ∃ s, ((declarationKeys source t).mapM fun key => do pure ⟨key, ← t.span⟩ :
        Except Fault Suppressions) = .ok s := by
    intro t ht
    have hmem : t ∈ tree.nodes := tree.walk_eq_nodes ▸ (List.mem_filter.1 ht).1
    obtain ⟨span, hspan, -⟩ := hwf.exists_span hsize hmem
    refine Attempt.exists_mapM_ok fun key _ => ⟨⟨key, span⟩, ?_⟩
    rw [hspan]
    rfl
  obtain ⟨regions, hregions⟩ := Attempt.exists_mapM_ok hregions
  exact ⟨regions.flatten, by rw [ofAnnotations, hregions]; rfl⟩

end Suppressions

namespace Linter

variable {l : Linter} {source : String} {tree : Tree} {lines : Lines} {silent : Suppressions}

/-- A linter puts what annotations silence behind what comments silence. -/
theorem suppressions_eq_ok {byComments byAnnotations : Suppressions}
    (hcomments : Suppressions.ofFilters l.filters source tree = .ok byComments)
    (hannotations : Suppressions.ofAnnotations source tree = .ok byAnnotations) :
    l.suppressions source tree = .ok (byComments ++ byAnnotations) := by
  rw [suppressions, hcomments, hannotations]
  rfl

theorem exists_suppressions (l : Linter) (hsize : source.utf8ByteSize < UInt32.size)
    (hwf : tree.WellFormed source.utf8ByteSize) :
    ∃ byComments byAnnotations, Suppressions.ofFilters l.filters source tree = .ok byComments ∧
      Suppressions.ofAnnotations source tree = .ok byAnnotations ∧
      l.suppressions source tree = .ok (byComments ++ byAnnotations) := by
  obtain ⟨byComments, hcomments, -⟩ :=
    Suppressions.exists_ofFilters hsize hwf.commentsInOrder l.filters
  obtain ⟨byAnnotations, hannotations⟩ := Suppressions.exists_ofAnnotations hsize hwf
  exact ⟨byComments, byAnnotations, hcomments, hannotations,
    suppressions_eq_ok hcomments hannotations⟩

/-! ### One node -/

/-- The rules that run at a node are those of the linter that are not ignored and ask for it. -/
theorem running_filter_wants (l : Linter) (k : NodeKind) :
    (l.running.filter fun a => a.rule.wants k) =
      l.rules.filter fun a => a.severity ≠ .ignore ∧ (a.rule.kinds = [] ∨ k ∈ a.rule.kinds) := by
  rw [running, List.filter_filter]
  refine List.filter_congr fun a _ => ?_
  rw [Bool.eq_iff_iff, Bool.and_eq_true, decide_eq_true_iff, Rule.wants_eq_true_iff, bne_iff_ne,
    and_comm]

/-- What a rule that has answers reports of a node. -/
theorem reports_eq {a : ActiveRule} {c : Cursor}
    (hfound : a.rule.check lines c = .ok (a.rule.found lines c) ∧
      ∀ d ∈ a.rule.found lines c,
        lines.position d.span.start = .ok (lines.positionAt d.span.start)) :
    reports lines silent c a =
      .ok (((a.rule.found lines c).map (a.report lines)).filter (Message.isHeard silent)) := by
  obtain ⟨hcheck, hposition⟩ := hfound
  rw [reports, hcheck, Attempt.bind_ok, List.filter_map]
  refine Attempt.mapM_eq_ok_map fun d hd => ?_
  rw [hposition d (List.mem_filter.1 hd).1]
  rfl

/-- What the rules report of a place of the tree. -/
theorem reportsAt_eq (silent : Suppressions) (hsize : source.utf8ByteSize < UInt32.size)
    (hrules : l.Answers source tree) (hlines : Lines.ofText source = .ok lines) {c : Cursor}
    (hc : c ∈ tree.places) :
    l.reportsAt lines silent c =
      .ok ((l.findingsAt lines c).filter (Message.isHeard silent)) := by
  have heach : ∀ a ∈ l.rules.filter fun a =>
      a.severity ≠ .ignore ∧ (a.rule.kinds = [] ∨ c.kind ∈ a.rule.kinds),
      reports lines silent c a =
        .ok (((a.rule.found lines c).map (a.report lines)).filter (Message.isHeard silent)) := by
    intro a ha
    obtain ⟨ha, hruns⟩ := List.mem_filter.1 ha
    obtain ⟨hruns, hasked⟩ := of_decide_eq_true hruns
    exact reports_eq ((hrules a ha hruns).check_eq_found hsize hlines hc hasked)
  have hmapM := Attempt.mapM_eq_ok_map heach
  have hwanting := l.running_filter_wants c.kind
  rw [reportsAt]
  change (l.running.filter fun a => a.rule.wants c.kind).mapM (reports lines silent c) >>= _ = _
  rw [hwanting, hmapM, Attempt.bind_ok, Attempt.pure_eq_ok, findingsAt, List.filter_flatMap,
    List.flatMap_def]

/-! ### The whole tree -/

/-- A linter whose rules have answers reports, in order, what is found where the rules are not
silent. -/
theorem exists_checkTree (hsize : source.utf8ByteSize < UInt32.size)
    (hwf : tree.WellFormed source.utf8ByteSize) (hrules : l.Answers source tree) :
    ∃ lines silent, Lines.ofText source = .ok lines ∧ l.suppressions source tree = .ok silent ∧
      l.checkTree source tree = .ok (Message.sort (l.emitted lines silent tree)) := by
  obtain ⟨lines, hlines, -⟩ := Lines.exists_ofText hsize
  obtain ⟨byComments, byAnnotations, -, -, hsilent⟩ := l.exists_suppressions hsize hwf
  refine ⟨lines, _, hlines, hsilent, ?_⟩
  have hmapM := Attempt.mapM_eq_ok_map fun c hc =>
    reportsAt_eq (byComments ++ byAnnotations) hsize hrules hlines hc
  rw [checkTree, hlines, Attempt.bind_ok, hsilent, Attempt.bind_ok, Tree.cursors_eq_places, hmapM,
    Attempt.bind_ok, Attempt.pure_eq_ok, Message.mergeSort_le, emitted, findings,
    List.filter_flatMap, List.flatMap_def]

variable {parsed : Java.Parsed}

theorem exists_checkParsed (hsize : source.utf8ByteSize < UInt32.size)
    (hwf : parsed.tree.WellFormed source.utf8ByteSize) (hrules : l.Answers source parsed.tree) :
    ∃ lines silent, Lines.ofText source = .ok lines ∧
      l.suppressions source parsed.tree = .ok silent ∧
      l.checkParsed source parsed =
        .ok ⟨Message.sort (l.emitted lines silent parsed.tree), parsed.hasErrors⟩ := by
  obtain ⟨lines, silent, hlines, hsilent, hcheck⟩ := exists_checkTree hsize hwf hrules
  exact ⟨lines, silent, hlines, hsilent, by rw [checkParsed, hcheck]; rfl⟩

/-! ### The rules of reports -/

/-- What a rule reports bears its name. -/
theorem rule_eq_of_mem_reports {c : Cursor} {a : ActiveRule} {ms : List Message}
    (h : reports lines silent c a = .ok ms) {m : Message} (hm : m ∈ ms) : m.rule = a.rule.name := by
  obtain ⟨found, -, hfound⟩ := Attempt.bind_eq_ok_iff.1 h
  obtain ⟨d, -, hd⟩ := (Attempt.mem_of_mapM_ok hfound).1 hm
  obtain ⟨p, -, hp⟩ := Attempt.bind_eq_ok_iff.1 hd
  obtain rfl : _ = m := Except.ok.inj hp
  rfl

theorem rule_mem_of_reportsAt {c : Cursor} {ms : List Message}
    (h : l.reportsAt lines silent c = .ok ms) {m : Message} (hm : m ∈ ms) :
    m.rule ∈ l.ruleNames := by
  obtain ⟨mss, hmss, hflat⟩ := Attempt.bind_eq_ok_iff.1 h
  obtain rfl : mss.flatten = ms := Except.ok.inj hflat
  obtain ⟨ms', hms', hm⟩ := List.mem_flatten.1 hm
  obtain ⟨a, ha, hreports⟩ := (Attempt.mem_of_mapM_ok hmss).1 hms'
  rw [rule_eq_of_mem_reports hreports hm]
  exact List.mem_map_of_mem (List.mem_filter.1 (List.mem_filter.1 ha).1).1

theorem rule_mem_of_checkTree {ms : List Message} (h : l.checkTree source tree = .ok ms)
    {m : Message} (hm : m ∈ ms) : m.rule ∈ l.ruleNames := by
  obtain ⟨lines, -, h⟩ := Attempt.bind_eq_ok_iff.1 h
  obtain ⟨silent, -, h⟩ := Attempt.bind_eq_ok_iff.1 h
  obtain ⟨mss, hmss, h⟩ := Attempt.bind_eq_ok_iff.1 h
  obtain rfl : mss.flatten.mergeSort Message.le = ms := Except.ok.inj h
  obtain ⟨ms', hms', hm⟩ := List.mem_flatten.1 ((List.mergeSort_perm _ _).mem_iff.1 hm)
  obtain ⟨c, -, hreports⟩ := (Attempt.mem_of_mapM_ok hmss).1 hms'
  exact rule_mem_of_reportsAt hreports hm

/-- Every report for a source bears the name of a rule of the linter. -/
theorem rule_mem_of_check {result : LintResult} (h : l.check source = .ok (some result))
    {m : Message} (hm : m ∈ result.messages) : m.rule ∈ l.ruleNames := by
  unfold check at h
  split at h
  · exact absurd (Except.ok.inj h) (Option.some_ne_none result).symm
  · rename_i parsed _
    cases hparsed : l.checkParsed source parsed with
    | error e =>
      rw [hparsed] at h
      exact nomatch h
    | ok result' =>
      rw [hparsed] at h
      obtain rfl : result' = result := Option.some.inj (Except.ok.inj h)
      obtain ⟨ms, hms, hmessages⟩ := Attempt.bind_eq_ok_iff.1 hparsed
      obtain rfl : (⟨ms, parsed.hasErrors⟩ : LintResult) = result' := Except.ok.inj hmessages
      exact rule_mem_of_checkTree hms hm

/-! ### The order of reports -/

/-- The position in a report is that of the start of the finding. -/
theorem position_of_mem_findings (hsize : source.utf8ByteSize < UInt32.size)
    (hrules : l.Answers source tree) (hlines : Lines.ofText source = .ok lines) {m : Message}
    (hm : m ∈ l.findings lines tree) :
    lines.position m.diagnostic.span.start = .ok m.position := by
  obtain ⟨c, hc, hm⟩ := List.mem_flatMap.1 hm
  obtain ⟨a, ha, hm⟩ := List.mem_flatMap.1 hm
  obtain ⟨d, hd, rfl⟩ := List.mem_map.1 hm
  obtain ⟨ha, hruns⟩ := List.mem_filter.1 ha
  obtain ⟨hruns, hasked⟩ := of_decide_eq_true hruns
  exact ((hrules a ha hruns).check_eq_found hsize hlines hc hasked).2 d hd

/-- A linter whose rules have answers has an outcome for every well-formed tree. Its reports stand
in the order of line, column and name of the rule; they are the reports of all findings where the
rules are not silent, each as often as it is found; those that agree in line, column and name stand
in the order of the places of the tree, then of the rules of the linter, then of what the rule
finds; and each tells the position at which the finding starts. -/
theorem checkParsed_emitted (l : Linter) (source : String) (parsed : Java.Parsed)
    (hsize : source.utf8ByteSize < UInt32.size) (hwf : parsed.tree.WellFormed source.utf8ByteSize)
    (hrules : l.Answers source parsed.tree) :
    ∃ lines silent result, Lines.ofText source = .ok lines ∧
      l.suppressions source parsed.tree = .ok silent ∧ l.checkParsed source parsed = .ok result ∧
      (result.messages.Pairwise fun a b => a.key ≤ b.key) ∧
      result.messages.Perm (l.emitted lines silent parsed.tree) ∧
      (∀ k, (result.messages.filter fun m => m.key = k) =
        (l.emitted lines silent parsed.tree).filter fun m => m.key = k) ∧
      ∀ m ∈ result.messages, lines.position m.diagnostic.span.start = .ok m.position := by
  obtain ⟨lines, silent, hlines, hsilent, hcheck⟩ := exists_checkParsed hsize hwf hrules
  have hperm := Sorting.sortBy_perm Message.key (l.emitted lines silent parsed.tree)
  refine ⟨lines, silent, _, hlines, hsilent, hcheck, Sorting.pairwise_sortBy _ _, hperm,
    Sorting.filter_key_sortBy _ _, fun m hm => ?_⟩
  exact position_of_mem_findings hsize hrules hlines (List.mem_filter.1 (hperm.mem_iff.1 hm)).1

/-- The standard linter on the sample. -/
theorem checkParsed_emitted_sample :
    ∃ lines silent result, Lines.ofText sampleSource = .ok lines ∧
      standard.suppressions sampleSource sampleTree = .ok silent ∧
      standard.checkParsed sampleSource ⟨sampleTree, false⟩ = .ok result ∧
      (result.messages.Pairwise fun a b => a.key ≤ b.key) ∧
      result.messages.Perm (standard.emitted lines silent sampleTree) ∧
      (∀ k, (result.messages.filter fun m => m.key = k) =
        (standard.emitted lines silent sampleTree).filter fun m => m.key = k) ∧
      ∀ m ∈ result.messages, lines.position m.diagnostic.span.start = .ok m.position :=
  checkParsed_emitted standard sampleSource ⟨sampleTree, false⟩ sampleSource_size
    sampleTree_wellFormed standard_answers_sample

end Linter

end JavaLint
