import JavaLint.Proofs.Annotations
import JavaLint.Proofs.Apart

/-!
# Clauses with an annotation that silences

The rule on the order of modifiers looks at every clause of modifiers, and an annotation stands in a
clause. What annotations silence is looked up from the declarations, though, not from the clauses:
an annotation counts where its clause is the first one of a node of one of the kinds of
`NodeKind.isDeclaration`, and then in the whole of that node. In a clause of anything else it is
not read.

So the annotated clause of a declaration is silent, and whether the standard linter reports a clause
out of order is settled by the comments and by the annotated declarations around the keyword
(`Linter.checkParsed_standard_annotated`). The grammar allows clauses in nodes of other kinds too
(`Java.definitions_with_clause`), and there an annotation of the clause leaves the report as it is
(`Linter.checkParsed_standard_element`).
-/

namespace JavaLint

open JavaLint.Text

/-! ### Clauses with annotations -/

namespace Tree

/-- The node is a clause of modifiers with an annotation of its own that silences the rule. -/
structure AnnotatedClause (source rule : String) (clause : Tree) : Prop where
  kind_eq : clause.kind = .modifiers
  exists_note : ∃ note ∈ clause.children, note.kind.isAnnotation = true ∧
    note.SilencesRule source rule

/-- The clause is the one from which the annotations of the declaration are read. -/
structure IsClauseOf (clause d : Tree) : Prop where
  isDeclaration : d.kind.isDeclaration = true
  find?_eq : (d.children.find? fun c => c.kind.isModifiers) = some clause

variable {source rule : String} {tree clause d : Tree}

theorem IsClauseOf.mem_children (h : clause.IsClauseOf d) : clause ∈ d.children :=
  List.mem_of_find?_eq_some h.find?_eq

/-- With an annotated clause the whole declaration is annotated. -/
theorem AnnotatedClause.annotatedAt (h : clause.AnnotatedClause source rule)
    (hclause : clause.IsClauseOf d) (hd : d ∈ tree.nodes) {o : Nat} (hstart : d.label.start ≤ o)
    (hstop : o < d.label.stop) : tree.AnnotatedAt source rule o :=
  ⟨d, hd, hclause.isDeclaration, hstart, hstop, clause, hclause.find?_eq, h.exists_note⟩

end Tree

/-- The report starts in the part of the text that the node covers. -/
structure Message.StartsIn (t : Tree) (m : Message) : Prop where
  start_le : t.label.start ≤ m.diagnostic.span.start.val
  lt_stop : m.diagnostic.span.start.val < t.label.stop

namespace Linter

variable {source : String} {tree clause u : Tree} {lines : Lines} {k : Nat}

/-! ### Where the linter is silent -/

/-- A rule of a linter is silent where a filter or an annotation silences it, and only there. -/
theorem exists_suppressions_silences (l : Linter) (hsize : source.utf8ByteSize < UInt32.size)
    (hwf : tree.WellFormed source.utf8ByteSize) (hbounds : tree.OnBoundaries source) :
    ∃ silent, l.suppressions source tree = .ok silent ∧
      ∀ rule o, silent.silences rule o = true ↔
        (∃ f ∈ l.filters, f.Silences source tree rule o.val) ∨
          tree.AnnotatedAt source rule o.val := by
  obtain ⟨byComments, hcomments, hfilters⟩ :=
    Suppressions.exists_ofFilters hsize hwf.commentsInOrder l.filters
  obtain ⟨byAnnotations, hannotations, hnotes⟩ :=
    Suppressions.exists_ofAnnotations_silences hsize (fun u hu => (hwf u hu).start_le_stop) hbounds
  refine ⟨_, suppressions_eq_ok hcomments hannotations, fun rule o => ?_⟩
  rw [Suppressions.silences_append, Bool.or_eq_true, hfilters, hnotes]

/-- The rule on the order of modifiers is silent at the offset, by a comment or by an annotation. -/
def SilentAt (source : String) (tree : Tree) (o : Nat) : Prop :=
  CommentFilter.standard.Silences source tree Modifier.ruleName o ∨
    tree.AnnotatedAt source Modifier.ruleName o

/-! ### What the standard linter reports -/

theorem rule_eq_of_mem_findings {m : Message} (hm : m ∈ standard.findings lines tree) :
    m.rule = Modifier.ruleName := by
  obtain ⟨c, -, hm⟩ := List.mem_flatMap.1 hm
  rw [findingsAt_standard] at hm
  split at hm
  · obtain ⟨d, -, rfl⟩ := List.mem_map.1 hm
    rfl
  · exact absurd hm List.not_mem_nil

/-- The standard linter reports its findings, but for those that start where its rule is silent. -/
theorem exists_messages_standard (parsed : Java.Parsed)
    (hsize : source.utf8ByteSize < UInt32.size) (hwf : parsed.tree.WellFormed source.utf8ByteSize)
    (hbounds : parsed.tree.OnBoundaries source) :
    ∃ lines result, Lines.ofText source = .ok lines ∧
      standard.checkParsed source parsed = .ok result ∧
      ∀ m, m ∈ result.messages ↔ m ∈ standard.findings lines parsed.tree ∧
        ¬ SilentAt source parsed.tree m.diagnostic.span.start.val := by
  obtain ⟨lines, silent, hlines, hsilent, hcheck⟩ :=
    exists_checkParsed hsize hwf (standard_answers hsize hwf hbounds)
  obtain ⟨silent', hsilent', hsilences⟩ := exists_suppressions_silences standard hsize hwf hbounds
  obtain rfl : silent = silent' := Except.ok.inj (hsilent.symm.trans hsilent')
  have hfilters : standard.filters = [.standard] := rfl
  simp only [hfilters, List.mem_singleton, exists_eq_left] at hsilences
  refine ⟨lines, _, hlines, hcheck, fun m => ?_⟩
  refine (Sorting.sortBy_perm Message.key _).mem_iff.trans (List.mem_filter.trans ?_)
  refine and_congr_right fun hm => ?_
  rw [Message.isHeard, rule_eq_of_mem_findings hm, Bool.not_eq_true', ← Bool.not_eq_true,
    hsilences, SilentAt]

/-- The first keyword of a clause that breaks the order is found. -/
theorem exists_finding (hsize : source.utf8ByteSize < UInt32.size)
    (hwf : tree.WellFormed source.utf8ByteSize) (hbounds : tree.OnBoundaries source)
    (hlines : Lines.ofText source = .ok lines) (hclause : clause ∈ tree.nodes)
    (hkind : clause.kind = .modifiers)
    (hbreak : Modifier.FirstBreak (Modifier.keywordTexts source clause) k)
    (hu : (Modifier.keywords clause)[k]? = some u) :
    ∃ m ∈ standard.findings lines tree, Modifier.IsOn source u m.diagnostic := by
  rw [← tree.map_focus_places] at hclause
  obtain ⟨c, hc, rfl⟩ := List.mem_map.1 hclause
  obtain ⟨ds, k?, hcheck, hflags, hbreaks⟩ :=
    Modifier.exists_flags hsize hlines hkind (hwf.covers_children hbounds hc)
  obtain rfl : k? = some k := hbreaks.unique hbreak
  obtain ⟨u', d, hu', hon, rfl⟩ := hflags
  obtain rfl : u = u' := Option.some.inj (hu.symm.trans hu')
  have hfound : Modifier.rule.found lines c = [d] := by rw [Rule.found, hcheck]; rfl
  refine ⟨ActiveRule.report lines ⟨Modifier.rule, .standard⟩ d,
    List.mem_flatMap.2 ⟨c, hc, ?_⟩, hon⟩
  have hkind : c.kind = .modifiers := hkind
  rw [findingsAt_standard, if_pos hkind, hfound]
  exact List.mem_singleton_self _

/-- The standard linter has an outcome for every well-formed tree between characters over a text of
32 bits. If the clause of a declaration has an annotation that silences the rule, no report starts
in the declaration, and so none in its clause. And of each clause, whatever it belongs to and
whatever annotations it has, the first keyword that breaks the order is reported unless a comment or
the annotation of a declaration around the keyword silences the rule there. -/
theorem checkParsed_standard_annotated (source : String) (parsed : Java.Parsed)
    (hsize : source.utf8ByteSize < UInt32.size) (hwf : parsed.tree.WellFormed source.utf8ByteSize)
    (hbounds : parsed.tree.OnBoundaries source) :
    ∃ result, standard.checkParsed source parsed = .ok result ∧
      (∀ d ∈ parsed.tree.nodes, ∀ clause : Tree, clause.IsClauseOf d →
        clause.AnnotatedClause source Modifier.ruleName →
          ∀ m ∈ result.messages, ¬ m.StartsIn d ∧ ¬ m.StartsIn clause) ∧
      ∀ clause ∈ parsed.tree.nodes, clause.kind = .modifiers → ∀ k u,
        Modifier.FirstBreak (Modifier.keywordTexts source clause) k →
        (Modifier.keywords clause)[k]? = some u →
          ((∃ m ∈ result.messages, Modifier.IsOn source u m.diagnostic) ↔
            ¬ SilentAt source parsed.tree u.label.start) := by
  obtain ⟨lines, result, hlines, hcheck, hmessages⟩ :=
    exists_messages_standard parsed hsize hwf hbounds
  refine ⟨result, hcheck, ?_, ?_⟩
  · intro d hd clause hclause hannotated m hm
    have houtside : ¬ m.StartsIn d := fun hin => ((hmessages m).1 hm).2
      (.inr (hannotated.annotatedAt hclause hd hin.start_le hin.lt_stop))
    have hinside := (hwf d hd).inside clause hclause.mem_children
    exact ⟨houtside, fun hin => houtside
      ⟨Nat.le_trans hinside.1 hin.start_le, Nat.lt_of_lt_of_le hin.lt_stop hinside.2⟩⟩
  · intro clause hclause hkind k u hbreak hu
    constructor
    · rintro ⟨m, hm, hon⟩
      rw [← hon.start_eq]
      exact ((hmessages m).1 hm).2
    · intro hheard
      obtain ⟨m, hm, hon⟩ := exists_finding hsize hwf hbounds hlines hclause hkind hbreak hu
      rw [← hon.start_eq] at hheard
      exact ⟨m, (hmessages m).2 ⟨hm, hheard⟩, hon⟩

/-! ### Clauses of other nodes -/

/-- An annotation type with an element whose clause is out of order and annotated. -/
def elementSource : String :=
  "@interface A\x7b@SuppressWarnings(\"checkstyle:ModifierOrder\")abstract public int i();\x7d"

/-- The clause of the element. -/
def elementClause : Tree :=
  .node ⟨"modifiers", true, false, 13, 73, none⟩ [
    .node ⟨"annotation", true, false, 13, 58, none⟩ [
      .node ⟨"@", false, false, 13, 14, none⟩ [],
      .node ⟨"identifier", true, false, 14, 30, some "name"⟩ [],
      .node ⟨"annotation_argument_list", true, false, 30, 58, some "arguments"⟩ [
        .node ⟨"(", false, false, 30, 31, none⟩ [],
        .node ⟨"string_literal", true, false, 31, 57, none⟩ [
          .node ⟨"\"", false, false, 31, 32, none⟩ [],
          .node ⟨"string_fragment", true, false, 32, 56, none⟩ [],
          .node ⟨"\"", false, false, 56, 57, none⟩ []],
        .node ⟨")", false, false, 57, 58, none⟩ []]],
    .node ⟨"abstract", false, false, 58, 66, none⟩ [],
    .node ⟨"public", false, false, 67, 73, none⟩ []]

/-- The syntax tree of the annotation type. -/
def elementTree : Tree :=
  .node ⟨"program", true, false, 0, 83, none⟩ [
    .node ⟨"annotation_type_declaration", true, false, 0, 83, none⟩ [
      .node ⟨"@interface", false, false, 0, 10, none⟩ [],
      .node ⟨"identifier", true, false, 11, 12, some "name"⟩ [],
      .node ⟨"annotation_type_body", true, false, 12, 83, some "body"⟩ [
        .node ⟨"\x7b", false, false, 12, 13, none⟩ [],
        .node ⟨"annotation_type_element_declaration", true, false, 13, 82, none⟩ [
          elementClause,
          .node ⟨"integral_type", true, false, 74, 77, some "type"⟩ [
            .node ⟨"int", false, false, 74, 77, none⟩ []],
          .node ⟨"identifier", true, false, 78, 79, some "name"⟩ [],
          .node ⟨"(", false, false, 79, 80, none⟩ [],
          .node ⟨")", false, false, 80, 81, none⟩ [],
          .node ⟨";", false, false, 81, 82, none⟩ []],
        .node ⟨"\x7d", false, false, 82, 83, none⟩ []]]]

theorem elementTree_wellFormed : elementTree.WellFormed elementSource.utf8ByteSize := by decide

theorem elementTree_onBoundaries : elementTree.OnBoundaries elementSource := by decide

theorem elementClause_mem_nodes : elementClause ∈ elementTree.nodes :=
  List.mem_of_getElem? (i := 7) rfl

theorem elementClause_annotated :
    elementClause.AnnotatedClause elementSource Modifier.ruleName := by
  have horder : ∀ u ∈ elementTree.nodes, u.label.start ≤ u.label.stop := fun u hu =>
    (elementTree_wellFormed u hu).start_le_stop
  refine ⟨by decide, _, List.mem_cons_self, by decide, ?_⟩
  refine (Suppressions.exists_annotationKeys_iff (Tree.mem_nodes_of_child elementClause_mem_nodes
    List.mem_cons_self) horder elementTree_onBoundaries).1 ⟨_, .inl rfl, ?_⟩
  decide +kernel

/-- There are no comments, and the only declaration has no clause of its own. -/
theorem not_silentAt_element (o : Nat) : ¬ SilentAt elementSource elementTree o := by
  have hnone : ∀ d ∈ elementTree.nodes, d.kind.isDeclaration = true →
      (d.children.find? fun c => c.kind.isModifiers).isNone = true := by decide
  have hcomments : elementTree.commentNodes.length = 0 := by decide
  rintro (⟨-, key, -, hsilent⟩ | ⟨d, hd, hdeclaration, -, -, clause, hclause, -⟩)
  · rw [Tree.commentMarks, List.length_eq_zero_iff.1 hcomments] at hsilent
    exact CommentFilter.not_silentAt_nil hsilent
  · have hempty := hnone d hd hdeclaration
    rw [hclause] at hempty
    exact Bool.false_ne_true hempty

theorem elementClause_firstBreak :
    Modifier.FirstBreak (Modifier.keywordTexts elementSource elementClause) 1 := by
  refine ⟨by decide, fun i hi => ?_⟩
  rcases Nat.eq_zero_or_pos i with rfl | hpos
  · exact absurd hi (by decide)
  · exact hpos

/-- The second keyword of the element is reported. -/
theorem checkParsed_standard_annotated_sample :
    ∃ result, standard.checkParsed elementSource ⟨elementTree, false⟩ = .ok result ∧
      ∃ u m, (Modifier.keywords elementClause)[1]? = some u ∧ m ∈ result.messages ∧
        Modifier.IsOn elementSource u m.diagnostic := by
  obtain ⟨result, hcheck, -, hclauses⟩ := checkParsed_standard_annotated elementSource
    ⟨elementTree, false⟩ (by decide) elementTree_wellFormed elementTree_onBoundaries
  obtain ⟨m, hm, hon⟩ := (hclauses elementClause elementClause_mem_nodes (by decide) 1 _
    elementClause_firstBreak rfl).2 (not_silentAt_element _)
  exact ⟨result, hcheck, _, m, rfl, hm, hon⟩

/-- The clause of the element has an annotation that silences the rule, and a report starts in it
all the same. -/
theorem checkParsed_standard_element :
    ∃ clause ∈ elementTree.nodes, clause.AnnotatedClause elementSource Modifier.ruleName ∧
      ∃ result, standard.checkParsed elementSource ⟨elementTree, false⟩ = .ok result ∧
        ∃ m ∈ result.messages, m.StartsIn clause := by
  obtain ⟨lines, result, hlines, hcheck, hmessages⟩ :=
    exists_messages_standard ⟨elementTree, false⟩ (by decide) elementTree_wellFormed
      elementTree_onBoundaries
  obtain ⟨m, hm, hon⟩ := exists_finding (by decide) elementTree_wellFormed elementTree_onBoundaries
    hlines elementClause_mem_nodes (by decide) elementClause_firstBreak rfl
  refine ⟨elementClause, elementClause_mem_nodes, elementClause_annotated, result, hcheck, m,
    (hmessages m).2 ⟨hm, not_silentAt_element _⟩, ?_, ?_⟩
  · rw [hon.start_eq]
    decide
  · rw [hon.start_eq]
    decide

end Linter

/-- The nodes below which the grammar allows a clause: those of all kinds of declarations whose
annotations are read, and those of other kinds. -/
theorem Java.definitions_with_clause :
    ((Java.grammar.definitions.filter fun d => d.rule.atoms.contains (.name "modifiers")).partition
      fun d => (NodeKind.ofRaw d.name).isDeclaration).map (·.map (·.name)) (·.map (·.name)) =
      (["enum_declaration", "class_declaration", "constructor_declaration", "field_declaration",
        "record_declaration", "annotation_type_declaration", "interface_declaration",
        "constant_declaration", "local_variable_declaration", "method_declaration"],
       ["catch_formal_parameter", "resource", "enhanced_for_statement", "enum_constant",
        "annotation_type_element_declaration", "formal_parameter", "spread_parameter",
        "compact_constructor_declaration"]) := by
  decide +kernel

end JavaLint
