import JavaLint.Proofs.PositionOrder
import JavaLint.Proofs.Reports

/-!
# Reports do not overlap

What the standard linter reports of a clause stands on a keyword of it. Keywords are leaves, and every
node but the root is a child of one node (`Tree.nodes_perm`); so the keywords of different clauses are
different leaves, and these do not overlap (`Tree.WellFormed.pairwise_childLeaves`).

A clause may stand in an annotation of another one. The report of the outer clause then is found
first, and may be on a keyword behind the annotation; it is sorting that puts the reports in the order
of the text. As positions are ordered like offsets, reports without overlap then follow each other
(`Message.pairwise_sort`). Main statement: `Linter.checkParsed_standard_apart`.
-/

namespace JavaLint

open JavaLint.Text

/-! ### Leaves -/

namespace Tree

/-- One of the nodes ends before the other one starts. -/
def Apart (a b : Tree) : Prop := a.label.stop ≤ b.label.start ∨ b.label.stop ≤ a.label.start

/-- The keywords of all clauses of the tree are leaves that cover some text. -/
def KeywordLeaves (t : Tree) : Prop :=
  ∀ u ∈ t.nodes, u.kind = .modifiers →
    ∀ k ∈ Modifier.keywords u, k.children = [] ∧ k.label.start < k.label.stop

instance (t : Tree) : Decidable t.KeywordLeaves :=
  inferInstanceAs (Decidable (∀ u ∈ t.nodes, u.kind = .modifiers → ∀ k ∈ Modifier.keywords u, _ ∧ _))

/-- Leaves below different nodes of a well-formed tree are apart. -/
theorem WellFormed.pairwise_childLeaves {length : Nat} {t : Tree} (h : t.WellFormed length) :
    t.nodes.Pairwise fun u v =>
      ∀ a ∈ u.children, ∀ b ∈ v.children, a.children = [] → b.children = [] → a.Apart b := by
  have hleaves : t.nodes.Pairwise fun a b => a.children = [] → b.children = [] → a.Apart b :=
    h.pairwise_leaves.imp fun hab ha hb => .inl (hab ha hb)
  -- the same nodes, by their parents
  rw [t.nodes_perm.pairwise_iff fun hab hb ha => (hab ha hb).symm, List.pairwise_cons,
    List.pairwise_flatMap] at hleaves
  exact hleaves.2.2

end Tree

/-! ### Sorting reports -/

namespace Message

/-- One of the reports is on a part of the text that ends before that of the other one starts. -/
def Apart (a b : Message) : Prop :=
  a.diagnostic.span.stop ≤ b.diagnostic.span.start ∨
    b.diagnostic.span.stop ≤ a.diagnostic.span.start

/-- The report is on a part of the text in front of that of the other one. -/
structure Precedes (a b : Message) : Prop where
  start_lt : a.diagnostic.span.start < b.diagnostic.span.start
  position_lt : compare a.position b.position = .lt
  stop_le : a.diagnostic.span.stop ≤ b.diagnostic.span.start

variable {text : String} {l : Lines}

/-- Sorted reports start in the order of the text. -/
theorem start_le_of_key_le (h : l.Of text) (hsize : text.utf8ByteSize < UInt32.size) {a b : Message}
    (ha : a.IsPlaced text l) (hb : b.IsPlaced text l) (hle : a.key ≤ b.key) :
    a.diagnostic.span.start ≤ b.diagnostic.span.start := by
  have hle : a.le b = true := by rw [le_eq_decide, decide_eq_true hle]
  have hposition := (Ordering.isLE_then_iff_and.1 hle).1
  rw [compare_position_eq h hsize ha hb] at hposition
  exact Nat.isLE_compare.1 hposition

/-- Reports on parts of the text that are not empty and do not overlap are sorted as these follow each
other. -/
theorem pairwise_sort (h : l.Of text) (hsize : text.utf8ByteSize < UInt32.size) {ms : List Message}
    (hplaced : ∀ m ∈ ms, m.IsPlaced text l)
    (hfull : ∀ m ∈ ms, m.diagnostic.span.start < m.diagnostic.span.stop)
    (hapart : ms.Pairwise Apart) : (sort ms).Pairwise Precedes := by
  have hperm : (sort ms).Perm ms := Sorting.sortBy_perm key ms
  have hsorted : (sort ms).Pairwise fun a b => a.key ≤ b.key := Sorting.pairwise_sortBy key ms
  have hapart : (sort ms).Pairwise Apart := (hperm.pairwise_iff Or.symm).2 hapart
  refine (hsorted.and hapart).imp_of_mem fun {a b} ha hb ⟨hle, hab⟩ => ?_
  have ha := hperm.mem_iff.1 ha
  have hb := hperm.mem_iff.1 hb
  have hstop : a.diagnostic.span.stop ≤ b.diagnostic.span.start := by
    refine hab.resolve_right fun hba => ?_
    -- the later report would start before the earlier one
    have hstart := start_le_of_key_le h hsize (hplaced a ha) (hplaced b hb) hle
    exact Nat.lt_irrefl _ (Nat.lt_of_lt_of_le (hfull b hb) (Nat.le_trans hba hstart))
  have hstart : a.diagnostic.span.start < b.diagnostic.span.start :=
    Nat.lt_of_lt_of_le (hfull a ha) hstop
  refine ⟨hstart, ?_, hstop⟩
  rw [compare_position_eq h hsize (hplaced a ha) (hplaced b hb)]
  exact Nat.compare_eq_lt.2 hstart

end Message

/-! ### The reports of clauses -/

/-- The report tells the one thing that is found at the clause, and is on a keyword of it. -/
structure Message.IsOfClause (source : String) (lines : Lines) (c : Cursor) (m : Message) : Prop where
  kind_eq : c.kind = .modifiers
  check_eq : Modifier.rule.check lines c = .ok [m.diagnostic]
  exists_keyword : ∃ k ∈ Modifier.keywords c.focus, Modifier.IsOn source k m.diagnostic

theorem Message.IsOfClause.diagnostic_eq {source : String} {lines : Lines} {c : Cursor}
    {m m' : Message} (h : m.IsOfClause source lines c) (h' : m'.IsOfClause source lines c) :
    m.diagnostic = m'.diagnostic :=
  (List.cons.inj (Except.ok.inj (h.check_eq.symm.trans h'.check_eq))).1

/-- Reports that start at different places are of different clauses. -/
theorem Message.exists_clauses {source : String} {lines : Lines} {tree : Tree} {ms : List Message}
    (hstart : ms.Pairwise fun a b => a.diagnostic.span.start < b.diagnostic.span.start)
    (hclause : ∀ m ∈ ms, ∃ c ∈ tree.places, m.IsOfClause source lines c) :
    ∃ clauses : List Cursor, clauses.Nodup ∧ (∀ c ∈ clauses, c ∈ tree.places) ∧
      List.Forall₂ (IsOfClause source lines) clauses ms := by
  choose! clauseOf hplace hclause using hclause
  refine ⟨ms.map clauseOf, ?_, List.forall_mem_map.2 hplace, ?_⟩
  · rw [List.Nodup, List.pairwise_map]
    refine hstart.imp_of_mem fun {a b} ha hb hab hsame => ?_
    have hdiagnostic := (hclause a ha).diagnostic_eq (hsame ▸ hclause b hb)
    exact Nat.lt_irrefl _ (hdiagnostic ▸ hab)
  · rw [List.forall₂_map_left_iff, List.forall₂_same]
    exact hclause

/-- The report of a clause is at a leaf, if all keywords are leaves. -/
theorem Message.IsOfClause.exists_leaf {source : String} {lines : Lines} {tree : Tree} {c : Cursor}
    {m : Message} (h : m.IsOfClause source lines c) (hleaves : tree.KeywordLeaves)
    (hc : c ∈ tree.places) :
    ∃ k ∈ c.focus.children, k.children = [] ∧ k.label.start < k.label.stop ∧
      m.diagnostic.span.start.val = k.label.start ∧ m.diagnostic.span.stop.val = k.label.stop := by
  obtain ⟨k, hk, hon⟩ := h.exists_keyword
  obtain ⟨hleaf, hfull⟩ := hleaves c.focus (Tree.focus_mem_nodes hc) h.kind_eq k hk
  exact ⟨k, (List.mem_filter.1 hk).1, hleaf, hfull, hon.start_eq, hon.stop_eq⟩

namespace Linter

variable {source : String} {tree : Tree} {lines : Lines} {c : Cursor} {m : Message}

/-- At a clause the standard linter finds what its one rule finds there. -/
theorem findingsAt_standard (lines : Lines) (c : Cursor) :
    standard.findingsAt lines c = if c.kind = .modifiers then
      (Modifier.rule.found lines c).map (ActiveRule.report lines ⟨Modifier.rule, .standard⟩)
    else [] := by
  have hrules : standard.rules = [⟨Modifier.rule, .standard⟩] := rfl
  have hruns : decide (Severity.standard ≠ .ignore ∧
      (Modifier.rule.kinds = [] ∨ c.kind ∈ Modifier.rule.kinds)) =
        decide (c.kind = .modifiers) := by
    have hstandard : Severity.standard ≠ .ignore := by decide
    simp [hstandard, Modifier.rule]
  rw [findingsAt, hrules, List.filter_cons, List.filter_nil, hruns]
  by_cases hkind : c.kind = .modifiers
  · rw [if_pos hkind, if_pos (decide_eq_true hkind), List.flatMap_singleton]
  · rw [if_neg hkind, decide_eq_false hkind]
    rfl

/-- At a place of the tree at most one thing is found, and only if it is a clause. -/
theorem findingsAt_cases (hsize : source.utf8ByteSize < UInt32.size)
    (hlines : Lines.ofText source = .ok lines)
    (hcovers : ∀ u ∈ c.focus.children, u.Covers source) :
    standard.findingsAt lines c = [] ∨
      ∃ m, standard.findingsAt lines c = [m] ∧ m.IsOfClause source lines c := by
  rw [findingsAt_standard]
  by_cases hkind : c.kind = .modifiers
  · obtain ⟨ds, k?, hcheck, hflags, -⟩ := Modifier.exists_flags hsize hlines hkind hcovers
    have hfound : Modifier.rule.found lines c = ds := by rw [Rule.found, hcheck]; rfl
    rw [if_pos hkind, hfound]
    cases k? with
    | none =>
      obtain rfl : ds = [] := hflags
      exact .inl rfl
    | some k =>
      obtain ⟨u, d, hu, hon, rfl⟩ := hflags
      exact .inr ⟨_, rfl, hkind, hcheck, u, List.mem_of_getElem? hu, hon⟩
  · exact .inl (if_neg hkind)

theorem isOfClause_of_mem (hsize : source.utf8ByteSize < UInt32.size)
    (hlines : Lines.ofText source = .ok lines)
    (hcovers : ∀ u ∈ c.focus.children, u.Covers source) (hm : m ∈ standard.findingsAt lines c) :
    m.IsOfClause source lines c := by
  rcases findingsAt_cases hsize hlines hcovers with hnone | ⟨m', hone, hof⟩
  · rw [hnone] at hm
    exact absurd hm List.not_mem_nil
  · rw [hone] at hm
    exact List.mem_singleton.1 hm ▸ hof

/-- Every finding is of a clause of the tree. -/
theorem exists_clause (hsize : source.utf8ByteSize < UInt32.size)
    (hwf : tree.WellFormed source.utf8ByteSize) (hbounds : tree.OnBoundaries source)
    (hlines : Lines.ofText source = .ok lines) (hm : m ∈ standard.findings lines tree) :
    ∃ c ∈ tree.places, m.IsOfClause source lines c := by
  obtain ⟨c, hc, hm⟩ := List.mem_flatMap.1 hm
  exact ⟨c, hc, isOfClause_of_mem hsize hlines (hwf.covers_children hbounds hc) hm⟩

/-- What is found in a tree whose keywords are leaves does not overlap. -/
theorem pairwise_findings (hsize : source.utf8ByteSize < UInt32.size)
    (hwf : tree.WellFormed source.utf8ByteSize) (hbounds : tree.OnBoundaries source)
    (hleaves : tree.KeywordLeaves) (hlines : Lines.ofText source = .ok lines) :
    (standard.findings lines tree).Pairwise Message.Apart := by
  have hcases := fun c hc =>
    findingsAt_cases (c := c) hsize hlines (hwf.covers_children hbounds hc)
  rw [findings, List.pairwise_flatMap]
  constructor
  · intro c hc
    rcases hcases c hc with hnone | ⟨m, hone, -⟩
    · rw [hnone]
      exact List.Pairwise.nil
    · rw [hone]
      exact List.pairwise_singleton _ m
  · have hplaces := hwf.pairwise_childLeaves
    rw [← tree.map_focus_places, List.pairwise_map] at hplaces
    refine hplaces.imp_of_mem fun {c d} hc hd hcd m hm m' hm' => ?_
    have hm := isOfClause_of_mem hsize hlines (hwf.covers_children hbounds hc) hm
    have hm' := isOfClause_of_mem hsize hlines (hwf.covers_children hbounds hd) hm'
    obtain ⟨k, hk, hleaf, -, hstart, hstop⟩ := hm.exists_leaf hleaves hc
    obtain ⟨k', hk', hleaf', -, hstart', hstop'⟩ := hm'.exists_leaf hleaves hd
    have hkk' := hcd k hk k' hk' hleaf hleaf'
    rwa [Tree.Apart, ← hstart, ← hstop, ← hstart', ← hstop'] at hkk'

/-- Every finding is on a part of the source that is not empty, and its position is that of its start.
-/
theorem isPlaced_of_mem_findings (hsize : source.utf8ByteSize < UInt32.size)
    (hwf : tree.WellFormed source.utf8ByteSize) (hbounds : tree.OnBoundaries source)
    (hleaves : tree.KeywordLeaves) (hlines : Lines.ofText source = .ok lines)
    (hm : m ∈ standard.findings lines tree) :
    m.IsPlaced source lines ∧ m.diagnostic.span.start < m.diagnostic.span.stop := by
  obtain ⟨c, hc, hclause⟩ := exists_clause hsize hwf hbounds hlines hm
  obtain ⟨k, hk, -, hfull, hstart, hstop⟩ := hclause.exists_leaf hleaves hc
  have hposition := position_of_mem_findings hsize (standard_answers hsize hwf hbounds) hlines hm
  have hvalid := (hwf.covers_children hbounds hc k hk).2.1
  rw [← hstart] at hvalid
  rw [← hstart, ← hstop] at hfull
  exact ⟨⟨hvalid, hposition⟩, hfull⟩

/-- The standard linter has an outcome for every well-formed tree between characters over a text of
32 bits whose keywords are leaves that are not empty. Its reports are sorted by the bytes where they
start and by line and column, without repetition in either; they do not overlap; and they are of
different clauses, each of which accounts for one of them at most. -/
theorem checkParsed_standard_apart (source : String) (parsed : Java.Parsed)
    (hsize : source.utf8ByteSize < UInt32.size) (hwf : parsed.tree.WellFormed source.utf8ByteSize)
    (hbounds : parsed.tree.OnBoundaries source) (hleaves : parsed.tree.KeywordLeaves) :
    ∃ lines result, Lines.ofText source = .ok lines ∧
      standard.checkParsed source parsed = .ok result ∧
      (result.messages.Pairwise fun a b =>
        a.diagnostic.span.start < b.diagnostic.span.start) ∧
      (result.messages.Pairwise fun a b => compare a.position b.position = .lt) ∧
      (result.messages.Pairwise fun a b =>
        a.diagnostic.span.stop ≤ b.diagnostic.span.start) ∧
      ∃ clauses : List Cursor, clauses.Nodup ∧ (∀ c ∈ clauses, c ∈ parsed.tree.places) ∧
        List.Forall₂ (Message.IsOfClause source lines) clauses result.messages := by
  obtain ⟨lines, silent, hlines, -, hcheck⟩ :=
    exists_checkParsed hsize hwf (standard_answers hsize hwf hbounds)
  have hof := Lines.of_ofText hsize hlines
  have hfound : ∀ m ∈ standard.emitted lines silent parsed.tree,
      m ∈ standard.findings lines parsed.tree := fun m hm => (List.mem_filter.1 hm).1
  have hplaced := fun m hm =>
    isPlaced_of_mem_findings hsize hwf hbounds hleaves hlines (hfound m hm)
  have hapart := (pairwise_findings hsize hwf hbounds hleaves hlines).filter
    (Message.isHeard silent)
  have hsorted := Message.pairwise_sort hof hsize (fun m hm => (hplaced m hm).1)
    (fun m hm => (hplaced m hm).2) hapart
  refine ⟨lines, _, hlines, hcheck, hsorted.imp fun hab => hab.start_lt,
    hsorted.imp fun hab => hab.position_lt, hsorted.imp fun hab => hab.stop_le,
    Message.exists_clauses (hsorted.imp fun hab => hab.start_lt) fun m hm => ?_⟩
  have hm := (Sorting.sortBy_perm Message.key _).mem_iff.1 hm
  exact exists_clause hsize hwf hbounds hlines (hfound m hm)

/-- A declaration with a clause in an annotation of its own clause. -/
def nestedSource : String := "@A(new B()\x7bfinal public int i;\x7d)final public class C\x7b\x7d"

/-- The syntax tree of the declaration. -/
def nestedTree : Tree :=
  .node ⟨"program", true, false, 0, 54, none⟩ [
    .node ⟨"class_declaration", true, false, 0, 54, none⟩ [
      .node ⟨"modifiers", true, false, 0, 44, none⟩ [
        .node ⟨"annotation", true, false, 0, 32, none⟩ [
          .node ⟨"@", false, false, 0, 1, none⟩ [],
          .node ⟨"identifier", true, false, 1, 2, some "name"⟩ [],
          .node ⟨"annotation_argument_list", true, false, 2, 32, some "arguments"⟩ [
            .node ⟨"(", false, false, 2, 3, none⟩ [],
            .node ⟨"object_creation_expression", true, false, 3, 31, none⟩ [
              .node ⟨"new", false, false, 3, 6, none⟩ [],
              .node ⟨"type_identifier", true, false, 7, 8, some "type"⟩ [],
              .node ⟨"argument_list", true, false, 8, 10, some "arguments"⟩ [
                .node ⟨"(", false, false, 8, 9, none⟩ [],
                .node ⟨")", false, false, 9, 10, none⟩ []],
              .node ⟨"class_body", true, false, 10, 31, none⟩ [
                .node ⟨"\x7b", false, false, 10, 11, none⟩ [],
                .node ⟨"field_declaration", true, false, 11, 30, none⟩ [
                  .node ⟨"modifiers", true, false, 11, 23, none⟩ [
                    .node ⟨"final", false, false, 11, 16, none⟩ [],
                    .node ⟨"public", false, false, 17, 23, none⟩ []],
                  .node ⟨"integral_type", true, false, 24, 27, some "type"⟩ [
                    .node ⟨"int", false, false, 24, 27, none⟩ []],
                  .node ⟨"variable_declarator", true, false, 28, 29, some "declarator"⟩ [
                    .node ⟨"identifier", true, false, 28, 29, some "name"⟩ []],
                  .node ⟨";", false, false, 29, 30, none⟩ []],
                .node ⟨"\x7d", false, false, 30, 31, none⟩ []]],
            .node ⟨")", false, false, 31, 32, none⟩ []]],
        .node ⟨"final", false, false, 32, 37, none⟩ [],
        .node ⟨"public", false, false, 38, 44, none⟩ []],
      .node ⟨"class", false, false, 45, 50, none⟩ [],
      .node ⟨"identifier", true, false, 51, 52, some "name"⟩ [],
      .node ⟨"class_body", true, false, 52, 54, some "body"⟩ [
        .node ⟨"\x7b", false, false, 52, 53, none⟩ [],
        .node ⟨"\x7d", false, false, 53, 54, none⟩ []]]]

/-- The outer clause is found first, and reported behind the inner one. -/
theorem checkParsed_standard_apart_sample :
    ∃ lines result, Lines.ofText nestedSource = .ok lines ∧
      standard.checkParsed nestedSource ⟨nestedTree, false⟩ = .ok result ∧
      (result.messages.Pairwise fun a b =>
        a.diagnostic.span.start < b.diagnostic.span.start) ∧
      (result.messages.Pairwise fun a b => compare a.position b.position = .lt) ∧
      (result.messages.Pairwise fun a b =>
        a.diagnostic.span.stop ≤ b.diagnostic.span.start) ∧
      ∃ clauses : List Cursor, clauses.Nodup ∧ (∀ c ∈ clauses, c ∈ nestedTree.places) ∧
        List.Forall₂ (Message.IsOfClause nestedSource lines) clauses result.messages :=
  checkParsed_standard_apart nestedSource ⟨nestedTree, false⟩ (by decide) (by decide) (by decide)
    (by decide)

end Linter

end JavaLint
