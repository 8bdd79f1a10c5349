import JavaLint.Proofs.Reports

/-!
# Filters and rules act each on their own

Two linters that differ only in their filters or only in their rules are compared on one source.
More filters drop the reports that they silence and touch nothing else
(`Linter.checkParsed_addFilters`), and a rule reports what it reports whatever other rules there are
(`Linter.checkParsed_keeping`). If no two rules have the same name, the order in which they were
added does not show (`Linter.checkParsed_perm`).

All come from one description of the outcome: the findings depend on the rules, what is silent on
the filters, and dropping reports before they are sorted is dropping them afterwards.
-/

namespace JavaLint

open JavaLint.Text

theorem Message.filter_sort (p : Message → Bool) (ms : List Message) :
    (sort ms).filter p = sort (ms.filter p) := Sorting.filter_sortBy key p ms

namespace Linter

variable {l : Linter} {source : String} {parsed : Java.Parsed}

/-! ### Filters -/

/-- The linter with other filters. -/
def withFilters (l : Linter) (filters : List CommentFilter) : Linter := { l with filters }

/-- The linter with more filters. -/
def addFilters (l : Linter) (filters : List CommentFilter) : Linter :=
  l.withFilters (l.filters ++ filters)

/-- Whatever the filters are, the findings are the same, and so is what annotations silence. -/
theorem exists_checkParsed_withFilters (hsize : source.utf8ByteSize < UInt32.size)
    (hwf : parsed.tree.WellFormed source.utf8ByteSize) (hrules : l.Answers source parsed.tree) :
    ∃ lines byAnnotations, ∀ filters, ∃ byComments,
      Suppressions.ofFilters filters source parsed.tree = .ok byComments ∧
      (∀ rule o, byComments.silences rule o = true ↔
        ∃ f ∈ filters, f.Silences source parsed.tree rule o.val) ∧
      (l.withFilters filters).checkParsed source parsed =
        .ok ⟨Message.sort ((l.findings lines parsed.tree).filter
          (Message.isHeard (byComments ++ byAnnotations))), parsed.hasErrors⟩ := by
  obtain ⟨lines, hlines, -⟩ := Lines.exists_ofText hsize
  obtain ⟨byAnnotations, hannotations⟩ := Suppressions.exists_ofAnnotations hsize hwf
  refine ⟨lines, byAnnotations, fun filters => ?_⟩
  obtain ⟨byComments, hcomments, hsilences⟩ :=
    Suppressions.exists_ofFilters hsize hwf.commentsInOrder filters
  obtain ⟨lines', silent, hlines', hsilent, hcheck⟩ :=
    exists_checkParsed (l := l.withFilters filters) hsize hwf hrules
  obtain rfl : lines = lines' := Except.ok.inj (hlines.symm.trans hlines')
  have hboth : (l.withFilters filters).suppressions source parsed.tree =
      .ok (byComments ++ byAnnotations) := suppressions_eq_ok hcomments hannotations
  obtain rfl : byComments ++ byAnnotations = silent :=
    Except.ok.inj (hboth.symm.trans hsilent)
  exact ⟨byComments, hcomments, hsilences, hcheck⟩

/-- More filters only drop reports: those that remain are the reports of the linter without them
that they do not silence, unchanged and in the same order, and whether there are errors in the
source does not change. Filters count as a set: neither their order matters nor whether one is given
twice. -/
theorem checkParsed_addFilters (l : Linter) (filters : List CommentFilter) (source : String)
    (parsed : Java.Parsed) (hsize : source.utf8ByteSize < UInt32.size)
    (hwf : parsed.tree.WellFormed source.utf8ByteSize) (hrules : l.Answers source parsed.tree) :
    ∃ result silent, l.checkParsed source parsed = .ok result ∧
      Suppressions.ofFilters filters source parsed.tree = .ok silent ∧
      (l.addFilters filters).checkParsed source parsed =
        .ok ⟨result.messages.filter fun m => !silent.silences m.rule m.diagnostic.span.start,
          result.hasSyntaxErrors⟩ ∧
      ∀ filters', (∀ f, f ∈ filters' ↔ f ∈ l.filters) →
        (l.withFilters filters').checkParsed source parsed = .ok result := by
  obtain ⟨lines, byAnnotations, houtcome⟩ := exists_checkParsed_withFilters hsize hwf hrules
  obtain ⟨own, -, hown, hcheck⟩ := houtcome l.filters
  obtain ⟨silent, hsilent, hadded, -⟩ := houtcome filters
  obtain ⟨both, -, hboth, hcheck'⟩ := houtcome (l.filters ++ filters)
  refine ⟨_, silent, hcheck, hsilent, ?_, fun filters' hfilters => ?_⟩
  · have hunion : ∀ rule o,
        both.silences rule o = (own.silences rule o || silent.silences rule o) := by
      intro rule o
      rw [Bool.eq_iff_iff, Bool.or_eq_true, hboth, hown, hadded]
      simp only [List.mem_append, or_and_right, exists_or]
    have hheard : Message.isHeard (both ++ byAnnotations) = fun m =>
        m.isHeard silent && m.isHeard (own ++ byAnnotations) := by
      funext m
      simp only [Message.isHeard, Suppressions.silences_append, hunion]
      rw [Bool.or_comm (own.silences _ _), Bool.or_assoc, Bool.not_or]
    rw [addFilters, hcheck', hheard, ← List.filter_filter, ← Message.filter_sort]
    rfl
  · obtain ⟨own', -, hown', hcheck''⟩ := houtcome filters'
    have hsame : ∀ rule o, own'.silences rule o = own.silences rule o := by
      intro rule o
      rw [Bool.eq_iff_iff, hown', hown]
      simp only [hfilters]
    have hheard : Message.isHeard (own' ++ byAnnotations) =
        Message.isHeard (own ++ byAnnotations) := by
      funext m
      simp only [Message.isHeard, Suppressions.silences_append, hsame]
    rw [hcheck'', hheard]

/-- The standard linter on the sample, with a filter more. -/
theorem checkParsed_addFilters_sample :
    ∃ result silent, standard.checkParsed sampleSource ⟨sampleTree, false⟩ = .ok result ∧
      Suppressions.ofFilters [⟨default, default, 0⟩] sampleSource sampleTree = .ok silent ∧
      (standard.addFilters [⟨default, default, 0⟩]).checkParsed sampleSource ⟨sampleTree, false⟩ =
        .ok ⟨result.messages.filter fun m => !silent.silences m.rule m.diagnostic.span.start,
          result.hasSyntaxErrors⟩ ∧
      ∀ filters', (∀ f, f ∈ filters' ↔ f ∈ standard.filters) →
        (standard.withFilters filters').checkParsed sampleSource ⟨sampleTree, false⟩ = .ok result :=
  checkParsed_addFilters standard [⟨default, default, 0⟩] sampleSource ⟨sampleTree, false⟩
    sampleSource_size sampleTree_wellFormed standard_answers_sample

/-! ### Rules -/

/-- The linter with those rules only whose names are wanted. -/
def keeping (l : Linter) (P : String → Prop) [DecidablePred P] : Linter :=
  { l with rules := l.rules.filter fun a => P a.rule.name }

/-- Dropping elements of a list drops what they stand for. -/
private theorem flatMap_filter {α β : Type} {xs : List α} {f : α → List β} {p : α → Bool}
    {q : β → Bool} (h : ∀ a ∈ xs, ∀ b ∈ f a, q b = p a) :
    (xs.filter p).flatMap f = (xs.flatMap f).filter q := by
  induction xs with
  | nil => rfl
  | cons a xs ih =>
    have hrest := ih fun b hb => h b (List.mem_cons_of_mem a hb)
    have hself := h a List.mem_cons_self
    rw [List.flatMap_cons, List.filter_append, ← hrest]
    by_cases hp : p a = true
    · have hall : (f a).filter q = f a := List.filter_eq_self.2 fun b hb => (hself b hb).trans hp
      rw [List.filter_cons_of_pos hp, List.flatMap_cons, hall]
    · have hnone : (f a).filter q = [] :=
        List.filter_eq_nil_iff.2 fun b hb hq => hp ((hself b hb).symm.trans hq)
      rw [List.filter_cons_of_neg hp, hnone, List.nil_append]

/-- Keeping some rules keeps the findings under their names. -/
theorem findings_keeping (P : String → Prop) [DecidablePred P] (lines : Lines) (tree : Tree) :
    (l.keeping P).findings lines tree = (l.findings lines tree).filter fun m => P m.rule := by
  rw [findings, findings, List.filter_flatMap]
  refine congrArg (tree.places.flatMap ·) (funext fun c => ?_)
  rw [findingsAt, findingsAt, keeping, List.filter_filter]
  simp only [Bool.and_comm _ (decide (P _))]
  rw [← List.filter_filter]
  refine flatMap_filter fun a _ m hm => ?_
  obtain ⟨d, -, rfl⟩ := List.mem_map.1 hm
  rfl

/-- Linters with the same filters that run the same rules have the same outcome. -/
theorem checkParsed_eq_of_running {l l' : Linter} (hrunning : l.running = l'.running)
    (hfilters : l.filters = l'.filters) (source : String) (parsed : Java.Parsed) :
    l.checkParsed source parsed = l'.checkParsed source parsed := by
  have hreports : ∀ lines silent, l.reportsAt lines silent = l'.reportsAt lines silent := by
    intro lines silent
    funext c
    rw [reportsAt, reportsAt, hrunning]
  have hsilent : l.suppressions = l'.suppressions := by
    funext source tree
    rw [suppressions, suppressions, hfilters]
  rw [checkParsed, checkParsed, checkTree, checkTree, hsilent]
  simp only [hreports]

/-- Rules do not interfere. With only those rules whose names are wanted a linter reports what it
reports under these names, unchanged and in the same order, and an ignored rule anywhere among the
rules changes nothing. -/
theorem checkParsed_keeping (l : Linter) (P : String → Prop) [DecidablePred P] (source : String)
    (parsed : Java.Parsed) (hsize : source.utf8ByteSize < UInt32.size)
    (hwf : parsed.tree.WellFormed source.utf8ByteSize) (hrules : l.Answers source parsed.tree) :
    (∃ result, l.checkParsed source parsed = .ok result ∧
      (l.keeping P).checkParsed source parsed =
        .ok ⟨result.messages.filter fun m => P m.rule, result.hasSyntaxErrors⟩) ∧
    ∀ before a after, a.severity = .ignore →
      checkParsed ⟨before ++ a :: after, l.filters⟩ source parsed =
        checkParsed ⟨before ++ after, l.filters⟩ source parsed := by
  constructor
  · obtain ⟨lines, silent, hlines, hsilent, hcheck⟩ := exists_checkParsed hsize hwf hrules
    have hkept : (l.keeping P).Answers source parsed.tree := fun a ha =>
      hrules a (List.mem_filter.1 ha).1
    obtain ⟨lines', silent', hlines', hsilent', hcheck'⟩ := exists_checkParsed hsize hwf hkept
    obtain rfl : lines = lines' := Except.ok.inj (hlines.symm.trans hlines')
    obtain rfl : silent = silent' := Except.ok.inj (hsilent.symm.trans hsilent')
    refine ⟨_, hcheck, ?_⟩
    rw [hcheck', emitted, emitted, findings_keeping, Message.filter_sort, List.filter_filter,
      List.filter_filter]
    simp only [Bool.and_comm]
  · intro before a after ha
    have hignored : (a.severity != .ignore) = false := by rw [ha]; rfl
    have hrunning : running ⟨before ++ a :: after, l.filters⟩ =
        running ⟨before ++ after, l.filters⟩ := by
      simp only [running, List.filter_append, List.filter_cons, hignored, Bool.false_eq_true,
        if_false]
    exact checkParsed_eq_of_running hrunning rfl source parsed

/-- Two rules of different names that find the same on the sample. -/
def twoRules : Linter :=
  ⟨[⟨Modifier.rule, .error⟩, ⟨{ Modifier.rule with name := "Order" }, .warning⟩], [.standard]⟩

theorem twoRules_answers_sample : twoRules.Answers sampleSource sampleTree := by
  intro a ha _
  rcases List.mem_pair.1 ha with rfl | rfl
  · exact Modifier.rule_answers_sample
  -- the name plays no part in what a rule answers
  · exact Modifier.rule_answers_sample

/-- Of two rules one is kept. -/
theorem checkParsed_keeping_sample :
    (twoRules.keeping fun name => name ≠ "Order").ruleNames = [Modifier.ruleName] ∧
    (∃ result, twoRules.checkParsed sampleSource ⟨sampleTree, false⟩ = .ok result ∧
      (twoRules.keeping fun name => name ≠ "Order").checkParsed sampleSource ⟨sampleTree, false⟩ =
        .ok ⟨result.messages.filter fun m => m.rule ≠ "Order", result.hasSyntaxErrors⟩) ∧
    ∀ before a after, a.severity = .ignore →
      checkParsed ⟨before ++ a :: after, twoRules.filters⟩ sampleSource ⟨sampleTree, false⟩ =
        checkParsed ⟨before ++ after, twoRules.filters⟩ sampleSource ⟨sampleTree, false⟩ :=
  ⟨by decide, checkParsed_keeping twoRules (fun name => name ≠ "Order") sampleSource
    ⟨sampleTree, false⟩ sampleSource_size sampleTree_wellFormed twoRules_answers_sample⟩

/-! ### The order of rules -/

/-- Linters with the same filters sort their findings in the same lines, and are silent in the same
places. -/
theorem exists_checkParsed_both {l' : Linter} (hfilters : l.filters = l'.filters)
    (hsize : source.utf8ByteSize < UInt32.size)
    (hwf : parsed.tree.WellFormed source.utf8ByteSize) (hrules : l.Answers source parsed.tree)
    (hrules' : l'.Answers source parsed.tree) :
    ∃ lines silent,
      l.checkParsed source parsed =
        .ok ⟨Message.sort (l.emitted lines silent parsed.tree), parsed.hasErrors⟩ ∧
      l'.checkParsed source parsed =
        .ok ⟨Message.sort (l'.emitted lines silent parsed.tree), parsed.hasErrors⟩ := by
  obtain ⟨lines, silent, hlines, hsilent, hcheck⟩ := exists_checkParsed hsize hwf hrules
  obtain ⟨lines', silent', hlines', hsilent', hcheck'⟩ := exists_checkParsed hsize hwf hrules'
  obtain rfl : lines = lines' := Except.ok.inj (hlines.symm.trans hlines')
  rw [suppressions, hfilters, ← suppressions] at hsilent
  obtain rfl : silent = silent' := Except.ok.inj (hsilent.symm.trans hsilent')
  exact ⟨lines, silent, hcheck, hcheck'⟩

/-- If no two rules have the same name, the findings of each rule are the same, in the same order,
wherever it stands among the rules. -/
theorem findings_filter_rule_eq_of_perm {l' : Linter} (hperm : l.rules.Perm l'.rules)
    (hnames : l.ruleNames.Nodup) (lines : Lines) (tree : Tree) (name : String) :
    ((l.findings lines tree).filter fun m => m.rule = name) =
      (l'.findings lines tree).filter fun m => m.rule = name := by
  have hrules : (l.keeping fun n => n = name).rules = (l'.keeping fun n => n = name).rules :=
    Sorting.filter_key_eq_of_perm (fun a : ActiveRule => a.rule.name) hperm hnames name
  have hat : (l.keeping fun n => n = name).findingsAt lines =
      (l'.keeping fun n => n = name).findingsAt lines := by
    funext c
    rw [findingsAt, findingsAt, hrules]
  rw [← findings_keeping (· = name), ← findings_keeping (· = name), findings, findings, hat]

/-- The order in which rules were added does not show: linters with the same filters whose rules are
the same in any order, no two of one name, report the same in the same order. -/
theorem checkParsed_perm (l l' : Linter) (source : String) (parsed : Java.Parsed)
    (hperm : l.rules.Perm l'.rules) (hnames : l.ruleNames.Nodup) (hfilters : l.filters = l'.filters)
    (hsize : source.utf8ByteSize < UInt32.size) (hwf : parsed.tree.WellFormed source.utf8ByteSize)
    (hrules : l.Answers source parsed.tree) :
    ∃ result, l.checkParsed source parsed = .ok result ∧
      l'.checkParsed source parsed = .ok result := by
  have hrules' : l'.Answers source parsed.tree := fun a ha => hrules a (hperm.mem_iff.2 ha)
  obtain ⟨lines, silent, hcheck, hcheck'⟩ :=
    exists_checkParsed_both hfilters hsize hwf hrules hrules'
  refine ⟨_, hcheck, ?_⟩
  have hsort : Message.sort (l.emitted lines silent parsed.tree) =
      Message.sort (l'.emitted lines silent parsed.tree) := by
    refine Message.sort_eq_of_filter_rule fun name => ?_
    have hswap : ∀ l : Linter,
        ((l.emitted lines silent parsed.tree).filter fun m => m.rule = name) =
          ((l.findings lines parsed.tree).filter fun m => m.rule = name).filter
            (Message.isHeard silent) := fun l => List.filter_comm _ _ _
    rw [hswap, hswap, findings_filter_rule_eq_of_perm hperm hnames]
  rw [hcheck', hsort]

/-- Two rules of different names that find the same on the sample, in either order. -/
theorem checkParsed_perm_sample :
    let first : ActiveRule := ⟨Modifier.rule, .error⟩
    let second : ActiveRule := ⟨{ Modifier.rule with name := "Order" }, .warning⟩
    ∃ result, checkParsed ⟨[first, second], [.standard]⟩ sampleSource ⟨sampleTree, false⟩ =
        .ok result ∧
      checkParsed ⟨[second, first], [.standard]⟩ sampleSource ⟨sampleTree, false⟩ = .ok result :=
  checkParsed_perm _ _ sampleSource ⟨sampleTree, false⟩ (List.Perm.swap _ _ _) (by decide) rfl
    sampleSource_size sampleTree_wellFormed twoRules_answers_sample

end Linter

end JavaLint
