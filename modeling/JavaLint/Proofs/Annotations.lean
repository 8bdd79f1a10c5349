import Mathlib.Data.List.TakeWhile
import JavaLint.Proofs.Answers
import JavaLint.Proofs.Stretches

/-!
# What annotations silence

An annotation of a declaration names rules in string literals among its arguments. Which literals
these are is said by a relation between nodes (`Tree.HasLiteral`), what is written there by the
characters of the source (`Tree.Spells`), and what a literal names by the characters between its
quotes (`Suppressions.QuotedAs`). A rule is silent in the declarations with an annotation that names
it or all rules (`Tree.AnnotatedAt`), and there only.

The regions of annotations are found for every tree whose nodes start and end in order and between
characters. Put behind any other regions they add those declarations and take nothing away
(`Suppressions.silences_append_ofAnnotations`).
-/

namespace JavaLint

open JavaLint.Text

/-! ### What is written at a node -/

namespace Tree

/-- The characters of the source from the start to the end of the node are those of the word. -/
def Spells (source : String) (t : Tree) (word : String) : Prop :=
  ∃ a b, source = a ++ word ++ b ∧ a.utf8ByteSize = t.label.start ∧
    (a ++ word).utf8ByteSize = t.label.stop

/-- The text of a node between characters is what is written there. -/
theorem text_eq_iff_spells {source word : String} {t : Tree} (horder : t.label.start ≤ t.label.stop)
    (hstart : String.Pos.Raw.IsValid source ⟨t.label.start⟩)
    (hstop : String.Pos.Raw.IsValid source ⟨t.label.stop⟩) :
    t.text source = word ↔ t.Spells source word := by
  have hslice := Covers.sliceText?_eq ⟨horder, hstart, hstop⟩
  rw [Spells, ← sliceText?_eq_some_iff, hslice, Option.some.injEq]

/-- A string literal that is the node itself or is reached from it through children that the grammar
names. No way leads through a string literal. -/
inductive HasLiteral : Tree → Tree → Prop
  | here {t : Tree} (h : t.rawKind = "string_literal") : HasLiteral t t
  | inside {t c u : Tree} (h : t.rawKind ≠ "string_literal") (hchild : c ∈ t.children)
      (hnamed : c.isNamed = true) (hliteral : HasLiteral c u) : HasLiteral t u

/-- The string literals of a node of a tree are nodes of the tree. -/
theorem HasLiteral.mem_nodes {tree t u : Tree} (h : t.HasLiteral u) (ht : t ∈ tree.nodes) :
    u ∈ tree.nodes := by
  induction h with
  | here => exact ht
  | inside _ hchild _ _ ih => exact ih (mem_nodes_of_child ht hchild)

theorem child?_mem {t c : Tree} {role : String} (h : t.child? role = some c) : c ∈ t.children :=
  List.mem_of_find?_eq_some h

end Tree

namespace Suppressions

variable {source : String} {tree : Tree}

theorem literalsOf_eq_flatMap (ts : List Tree) :
    literalsOf source ts = (ts.filter Tree.isNamed).flatMap (literals source) := by
  induction ts with
  | nil => rfl
  | cons t ts ih =>
    rw [literalsOf, ih, List.filter_cons]
    split
    · rw [List.flatMap_cons]
    · rfl

/-- The literals that are collected from a node are the texts of its string literals. -/
theorem mem_literals {t : Tree} {word : String} :
    word ∈ literals source t ↔ ∃ u, t.HasLiteral u ∧ u.text source = word := by
  induction t using Tree.inductionOn with
  | node l cs ih =>
    rw [literals]
    split
    · rename_i hkind
      rw [List.mem_singleton]
      constructor
      · rintro rfl
        exact ⟨_, .here hkind, rfl⟩
      · rintro ⟨u, hu, rfl⟩
        cases hu with
        | here => rfl
        | inside hother => exact absurd hkind hother
    · rename_i hother
      rw [literalsOf_eq_flatMap, List.mem_flatMap]
      constructor
      · rintro ⟨c, hc, hword⟩
        obtain ⟨hchild, hnamed⟩ := List.mem_filter.1 hc
        obtain ⟨u, hu, rfl⟩ := (ih c hchild).1 hword
        exact ⟨u, .inside hother hchild hnamed hu, rfl⟩
      · rintro ⟨u, hu, rfl⟩
        cases hu with
        | here hkind => exact absurd hkind hother
        | inside _ hchild hnamed hu =>
          exact ⟨_, List.mem_filter.2 ⟨hchild, hnamed⟩, (ih _ hchild).2 ⟨u, hu, rfl⟩⟩

/-! ### What a literal names -/

/-- The word is the inner part with quotes around it, as many as there are on either side. -/
def QuotedAs (word inner : String) : Prop :=
  ∃ m n, word.toList = List.replicate m '"' ++ inner.toList ++ List.replicate n '"' ∧
    inner.toList.head? ≠ some '"' ∧ inner.toList.getLast? ≠ some '"'

private theorem dropWhile_eq_iff {c : Char} {cs rest : List Char} :
    cs.dropWhile (· == c) = rest ↔
      (∃ n, cs = List.replicate n c ++ rest) ∧ rest.head? ≠ some c := by
  constructor
  · rintro rfl
    have htaken : cs.takeWhile (· == c) = List.replicate (cs.takeWhile (· == c)).length c :=
      List.eq_replicate_of_mem fun d hd =>
        beq_iff_eq.1 (List.mem_takeWhile_imp (p := (· == c)) hd)
    refine ⟨⟨_, by rw [← htaken, List.takeWhile_append_dropWhile]⟩, fun hhead => ?_⟩
    have hnot := List.head?_dropWhile_not (· == c) cs
    rw [hhead] at hnot
    simp at hnot
  · rintro ⟨⟨n, rfl⟩, hhead⟩
    have hpos : ∀ d ∈ List.replicate n c, (d == c) = true := fun d hd =>
      beq_iff_eq.2 (List.eq_of_mem_replicate hd)
    rw [List.dropWhile_append_of_pos hpos, List.dropWhile_beq_eq_self_of_head?_ne hhead]

/-- The quotes are all taken away, and nothing else. -/
theorem unquoted_eq_iff {word inner : String} (hinner : inner ≠ "") :
    unquoted word = inner.toList ↔ QuotedAs word inner := by
  have hne : inner.toList ≠ [] := fun h => hinner (String.toList_eq_nil_iff.1 h)
  have hhead : ∀ n, (inner.toList ++ List.replicate n '"').head? = inner.toList.head? := fun n =>
    List.head?_append_of_ne_nil _ hne
  rw [unquoted, List.reverse_eq_iff, dropWhile_eq_iff, List.head?_reverse, QuotedAs]
  constructor
  · rintro ⟨⟨n, hn⟩, hlast⟩
    rw [List.reverse_eq_iff, List.reverse_append, List.reverse_reverse, List.reverse_replicate,
      dropWhile_eq_iff, hhead] at hn
    obtain ⟨⟨m, hm⟩, hfirst⟩ := hn
    exact ⟨m, n, by rw [hm, List.append_assoc], hfirst, hlast⟩
  · rintro ⟨m, n, hword, hfirst, hlast⟩
    refine ⟨⟨n, ?_⟩, hlast⟩
    rw [List.reverse_eq_iff, List.reverse_append, List.reverse_reverse, List.reverse_replicate,
      dropWhile_eq_iff, hhead]
    exact ⟨⟨m, by rw [hword, List.append_assoc]⟩, hfirst⟩

/-- The key of a name behind the mark. -/
theorem literalKey?_of_unquoted {word name : String}
    (h : unquoted word = ("checkstyle:" ++ name).toList) :
    literalKey? word = some (if Text.lower name = "all" then .every else .ofName name) := by
  rw [String.toList_append] at h
  have hprefix : List.isPrefixOf "checkstyle:".toList (unquoted word) = true := by
    rw [h]
    exact List.isPrefixOf_iff_prefix.2 (List.prefix_append _ _)
  simp only [literalKey?]
  rw [if_pos hprefix, h, List.drop_left, String.ofList_toList]
  by_cases hall : Text.lower name = "all"
  · have hkey : RuleKey.ofName name = .named "all" :=
      RuleKey.ofName_eq_named_iff.2 ⟨hall, by decide⟩
    simp only [hkey, hall, if_true]
  · rw [if_neg hall]
    split
    · rename_i hkey
      exact absurd (RuleKey.ofName_eq_named_iff.1 hkey).1 hall
    · rfl

/-- A literal has a key if the mark stands between its quotes. -/
theorem literalKey?_eq_some_iff {word : String} {key : RuleKey} :
    literalKey? word = some key ↔ ∃ name, QuotedAs word ("checkstyle:" ++ name) ∧
      (if Text.lower name = "all" then RuleKey.every else .ofName name) = key := by
  have hmarked : ∀ name : String, "checkstyle:" ++ name ≠ "" := by
    intro name h
    simp at h
  simp only [← unquoted_eq_iff (hmarked _)]
  constructor
  · intro h
    have hprefix : List.isPrefixOf "checkstyle:".toList (unquoted word) = true := by
      by_contra hno
      simp only [literalKey?, hno, if_false] at h
      exact absurd h (Option.some_ne_none key).symm
    obtain ⟨rest, hrest⟩ := List.isPrefixOf_iff_prefix.1 hprefix
    have hlist : (String.ofList rest).toList = rest := String.toList_ofList
    have hname : unquoted word = ("checkstyle:" ++ String.ofList rest).toList := by
      rw [String.toList_append, hlist, hrest]
    rw [literalKey?_of_unquoted hname, Option.some.injEq] at h
    exact ⟨String.ofList rest, hname, h⟩
  · rintro ⟨name, hname, rfl⟩
    exact literalKey?_of_unquoted hname

/-- Among the rules of a literal is a rule if the literal names it, in any case, or all rules. -/
theorem exists_literalKey?_iff {word rule : String} :
    (∃ key, (key = RuleKey.ofName rule ∨ key = .every) ∧ literalKey? word = some key) ↔
      ∃ name, QuotedAs word ("checkstyle:" ++ name) ∧
        Text.lower name ∈ [Text.lower rule, "all", "*"] := by
  have hkey : ∀ name : String,
      ((if Text.lower name = "all" then RuleKey.every else .ofName name) = RuleKey.ofName rule ∨
        (if Text.lower name = "all" then RuleKey.every else .ofName name) = .every) ↔
      Text.lower name ∈ [Text.lower rule, "all", "*"] := by
    intro name
    rw [List.mem_cons, List.mem_pair]
    split
    · rename_i hall
      exact iff_of_true (.inr rfl) (.inr (.inl hall))
    · rename_i hall
      rw [RuleKey.ofName_eq_ofName_iff, RuleKey.ofName_eq_every_iff, or_iff_right hall]
  simp only [literalKey?_eq_some_iff, ← hkey]
  constructor
  · rintro ⟨key, hkey, name, hquoted, rfl⟩
    exact ⟨name, hquoted, hkey⟩
  · rintro ⟨name, hquoted, hkey⟩
    exact ⟨_, hkey, name, hquoted, rfl⟩

/-! ### What an annotation names -/

theorem mem_annotationKeys {note : Tree} {key : RuleKey} :
    key ∈ annotationKeys source note ↔
      (∃ n, note.child? "name" = some n ∧
        (n.text source = "SuppressWarnings" ∨ n.text source = "java.lang.SuppressWarnings")) ∧
      ∃ arguments, note.child? "arguments" = some arguments ∧
        ∃ word ∈ literals source arguments, literalKey? word = some key := by
  cases hname : note.child? "name" with
  | none => simp [annotationKeys, hname]
  | some n =>
    cases harguments : note.child? "arguments" with
    | none => simp [annotationKeys, harguments]
    | some arguments =>
      simp only [annotationKeys, hname, harguments, Option.some.injEq, exists_eq_left']
      split
      · rename_i hsuppress
        rw [List.mem_filterMap, and_iff_right hsuppress]
      · rename_i hother
        exact iff_of_false List.not_mem_nil fun h => hother h.1

theorem mem_declarationKeys {d : Tree} {key : RuleKey} :
    key ∈ declarationKeys source d ↔
      ∃ clause, (d.children.find? fun c => c.kind.isModifiers) = some clause ∧
        ∃ note ∈ clause.children, note.kind.isAnnotation = true ∧
          key ∈ annotationKeys source note := by
  cases hclause : d.children.find? fun c => c.kind.isModifiers with
  | none => simp [declarationKeys, hclause]
  | some clause =>
    simp only [declarationKeys, hclause, List.mem_flatMap, List.mem_filter, Option.some.injEq,
      exists_eq_left', and_assoc]

end Suppressions

namespace Tree

/-- The node is an annotation of the kind that silences, and a string literal among its arguments
names the rule in any case, or all rules. -/
def SilencesRule (source : String) (note : Tree) (rule : String) : Prop :=
  (∃ n, note.child? "name" = some n ∧
    (n.Spells source "SuppressWarnings" ∨ n.Spells source "java.lang.SuppressWarnings")) ∧
  ∃ arguments literal word name, note.child? "arguments" = some arguments ∧
    arguments.HasLiteral literal ∧ literal.Spells source word ∧
    Suppressions.QuotedAs word ("checkstyle:" ++ name) ∧
    Text.lower name ∈ [Text.lower rule, "all", "*"]

/-- The offset lies in a declaration with an annotation that silences the rule. The annotations of a
declaration are those in the first clause of modifiers below it. -/
def AnnotatedAt (source : String) (tree : Tree) (rule : String) (o : Nat) : Prop :=
  ∃ d ∈ tree.nodes, d.kind.isDeclaration = true ∧ d.label.start ≤ o ∧ o < d.label.stop ∧
    ∃ clause, (d.children.find? fun c => c.kind.isModifiers) = some clause ∧
      ∃ note ∈ clause.children, note.kind.isAnnotation = true ∧ note.SilencesRule source rule

end Tree

namespace Suppressions

variable {source rule : String} {tree : Tree}

/-- An annotation of a tree between characters has a key for a rule if it silences the rule. -/
theorem exists_annotationKeys_iff {note : Tree} (hnote : note ∈ tree.nodes)
    (horder : ∀ u ∈ tree.nodes, u.label.start ≤ u.label.stop) (hbounds : tree.OnBoundaries source) :
    (∃ key, (key = RuleKey.ofName rule ∨ key = .every) ∧ key ∈ annotationKeys source note) ↔
      note.SilencesRule source rule := by
  have hspells : ∀ u ∈ tree.nodes, ∀ word, u.text source = word ↔ u.Spells source word :=
    fun u hu word => Tree.text_eq_iff_spells (horder u hu) (hbounds u hu).1 (hbounds u hu).2
  have hchild : ∀ {role : String} {c : Tree}, note.child? role = some c → c ∈ tree.nodes :=
    fun hc => Tree.mem_nodes_of_child hnote (Tree.child?_mem hc)
  simp only [mem_annotationKeys, Tree.SilencesRule]
  constructor
  · rintro ⟨key, hkey, ⟨n, hname, hword⟩, arguments, harguments, word, hliteral, hvalue⟩
    rw [hspells n (hchild hname), hspells n (hchild hname)] at hword
    obtain ⟨u, hu, htext⟩ := mem_literals.1 hliteral
    obtain ⟨name, hquoted, hlower⟩ := exists_literalKey?_iff.1 ⟨key, hkey, hvalue⟩
    refine ⟨⟨n, hname, hword⟩, arguments, u, word, name, harguments, hu, ?_, hquoted, hlower⟩
    exact (hspells u (hu.mem_nodes (hchild harguments)) word).1 htext
  · rintro ⟨⟨n, hname, hword⟩, arguments, u, word, name, harguments, hu, htext, hquoted, hlower⟩
    rw [← hspells n (hchild hname), ← hspells n (hchild hname)] at hword
    obtain ⟨key, hkey, hvalue⟩ := exists_literalKey?_iff.2 ⟨name, hquoted, hlower⟩
    refine ⟨key, hkey, ⟨n, hname, hword⟩, arguments, harguments, word, mem_literals.2 ⟨u, hu, ?_⟩,
      hvalue⟩
    exact (hspells u (hu.mem_nodes (hchild harguments)) word).2 htext

/-- A declaration has a key for a rule if it has an annotation that silences the rule. -/
theorem exists_declarationKeys_iff {d : Tree} (hd : d ∈ tree.nodes)
    (horder : ∀ u ∈ tree.nodes, u.label.start ≤ u.label.stop) (hbounds : tree.OnBoundaries source) :
    (∃ key, (key = RuleKey.ofName rule ∨ key = .every) ∧ key ∈ declarationKeys source d) ↔
      ∃ clause, (d.children.find? fun c => c.kind.isModifiers) = some clause ∧
        ∃ note ∈ clause.children, note.kind.isAnnotation = true ∧
          note.SilencesRule source rule := by
  have hnode : ∀ {clause note : Tree},
      (d.children.find? fun c => c.kind.isModifiers) = some clause → note ∈ clause.children →
      note ∈ tree.nodes := fun hclause hnote =>
    Tree.mem_nodes_of_child (Tree.mem_nodes_of_child hd (List.mem_of_find?_eq_some hclause)) hnote
  simp only [mem_declarationKeys]
  constructor
  · rintro ⟨key, hkey, clause, hclause, note, hnote, hannotation, hmem⟩
    exact ⟨clause, hclause, note, hnote, hannotation,
      (exists_annotationKeys_iff (hnode hclause hnote) horder hbounds).1 ⟨key, hkey, hmem⟩⟩
  · rintro ⟨clause, hclause, note, hnote, hannotation, hsilences⟩
    obtain ⟨key, hkey, hmem⟩ :=
      (exists_annotationKeys_iff (hnode hclause hnote) horder hbounds).2 hsilences
    exact ⟨key, hkey, clause, hclause, note, hnote, hannotation, hmem⟩

/-! ### The regions of annotations -/

/-- The regions of one declaration reach from its start to its end, for all of its keys. -/
theorem exists_declarationRegions (source : String) {d : Tree} (hstop : d.label.stop < UInt32.size)
    (horder : d.label.start ≤ d.label.stop) :
    ∃ s : Suppressions, (declarationKeys source d).mapM (fun key => do pure ⟨key, ← d.span⟩) =
        Except.ok s ∧
      ∀ key o, s.Covers key o ↔
        key ∈ declarationKeys source d ∧ d.label.start ≤ o ∧ o < d.label.stop := by
  obtain ⟨span, hspan, hstart, hend⟩ :=
    Tree.exists_span (Nat.lt_of_le_of_lt horder hstop) horder
  refine ⟨(declarationKeys source d).map fun key => ⟨key, span⟩, ?_, fun key o => ?_⟩
  · refine Attempt.mapM_eq_ok_map fun key _ => ?_
    rw [hspan]
    rfl
  · rw [← hstart, ← hend hstop, Covers]
    constructor
    · rintro ⟨r, hr, rfl, hinside⟩
      obtain ⟨key, hkey, rfl⟩ := List.mem_map.1 hr
      exact ⟨hkey, hinside⟩
    · rintro ⟨hkey, hinside⟩
      exact ⟨_, List.mem_map_of_mem hkey, rfl, hinside⟩

/-- The regions of annotations are the declarations, each for its keys. -/
theorem exists_ofAnnotations_covers (hsize : source.utf8ByteSize < UInt32.size)
    (horder : ∀ u ∈ tree.nodes, u.label.start ≤ u.label.stop) (hbounds : tree.OnBoundaries source) :
    ∃ s, ofAnnotations source tree = .ok s ∧ ∀ key o, s.Covers key o ↔
      ∃ d ∈ tree.nodes, d.kind.isDeclaration = true ∧
        key ∈ declarationKeys source d ∧ d.label.start ≤ o ∧ o < d.label.stop := by
  have hstop : ∀ d ∈ tree.nodes, d.label.stop < UInt32.size := fun d hd =>
    Nat.lt_of_le_of_lt (hbounds d hd).2.le_rawEndPos hsize
  have hdeclaration : ∀ d ∈ tree.nodes, _ := fun d hd =>
    exists_declarationRegions source (hstop d hd) (horder d hd)
  have hregions : ∀ d ∈ tree.nodes.filter fun t => t.kind.isDeclaration,
      ∃ s : Suppressions, (declarationKeys source d).mapM (fun key => do pure ⟨key, ← d.span⟩) =
        Except.ok s := fun d hd =>
    (hdeclaration d (List.mem_filter.1 hd).1).imp fun _ => And.left
  obtain ⟨regions, hregions⟩ := Attempt.exists_mapM_ok hregions
  have hok : ofAnnotations source tree = .ok regions.flatten := by
    rw [ofAnnotations, Tree.walk_eq_nodes, hregions]
    rfl
  refine ⟨regions.flatten, hok, fun key o => ?_⟩
  rw [covers_flatten]
  simp only [Attempt.mem_of_mapM_ok hregions, List.mem_filter]
  constructor
  · rintro ⟨s, ⟨d, ⟨hd, hkind⟩, hs⟩, hcovers⟩
    obtain ⟨s', hs', hinside⟩ := hdeclaration d hd
    obtain rfl : s' = s := Except.ok.inj (hs'.symm.trans hs)
    exact ⟨d, hd, hkind, (hinside key o).1 hcovers⟩
  · rintro ⟨d, hd, hkind, hinside⟩
    obtain ⟨s, hs, hcovers⟩ := hdeclaration d hd
    exact ⟨s, ⟨d, ⟨hd, hkind⟩, hs⟩, (hcovers key o).2 hinside⟩

/-- By annotations a rule is silent where the tree has an annotation that silences it. -/
theorem exists_ofAnnotations_silences (hsize : source.utf8ByteSize < UInt32.size)
    (horder : ∀ u ∈ tree.nodes, u.label.start ≤ u.label.stop) (hbounds : tree.OnBoundaries source) :
    ∃ s, ofAnnotations source tree = .ok s ∧
      ∀ rule o, s.silences rule o = true ↔ tree.AnnotatedAt source rule o.val := by
  obtain ⟨s, hs, hcovers⟩ := exists_ofAnnotations_covers hsize horder hbounds
  refine ⟨s, hs, fun rule o => ?_⟩
  simp only [silences_iff, hcovers, Tree.AnnotatedAt]
  constructor
  · rintro ⟨key, hkey, d, hd, hkind, hmem, hle, hlt⟩
    exact ⟨d, hd, hkind, hle, hlt,
      (exists_declarationKeys_iff hd horder hbounds).1 ⟨key, hkey, hmem⟩⟩
  · rintro ⟨d, hd, hkind, hle, hlt, hnote⟩
    obtain ⟨key, hkey, hmem⟩ := (exists_declarationKeys_iff hd horder hbounds).2 hnote
    exact ⟨key, hkey, d, hd, hkind, hmem, hle, hlt⟩

/-- The regions of annotations are found in every tree whose nodes start and end in order and
between characters of the source. Behind any other regions they add the annotated declarations: a
rule is silent at an offset exactly if it was before, or if the offset lies in a declaration with an
annotation that names the rule or all rules. -/
theorem silences_append_ofAnnotations (source : String) (tree : Tree)
    (hsize : source.utf8ByteSize < UInt32.size)
    (horder : ∀ u ∈ tree.nodes, u.label.start ≤ u.label.stop) (hbounds : tree.OnBoundaries source) :
    ∃ added, ofAnnotations source tree = .ok added ∧
      ∀ (prior : Suppressions) (rule : String) (o : Offset),
        silences (prior ++ added) rule o = true ↔
          prior.silences rule o = true ∨ tree.AnnotatedAt source rule o.val := by
  obtain ⟨added, hadded, hsilences⟩ := exists_ofAnnotations_silences hsize horder hbounds
  refine ⟨added, hadded, fun prior rule o => ?_⟩
  rw [← hsilences, silences_append, Bool.or_eq_true]

end Suppressions

/-! ### A sample -/

/-- A declaration whose annotation names one rule, and all rules in a second literal. -/
def annotatedSource : String :=
  "@SuppressWarnings(\x7b\"checkstyle:X\", \"checkstyle:ALL\"\x7d) int i;"

/-- The syntax tree of the sample. -/
def annotatedTree : Tree :=
  .node ⟨"program", true, false, 0, 60, none⟩ [
    .node ⟨"local_variable_declaration", true, false, 0, 60, none⟩ [
      .node ⟨"modifiers", true, false, 0, 53, none⟩ [
        .node ⟨"annotation", true, false, 0, 53, none⟩ [
          .node ⟨"@", false, false, 0, 1, none⟩ [],
          .node ⟨"identifier", true, false, 1, 17, some "name"⟩ [],
          .node ⟨"annotation_argument_list", true, false, 17, 53, some "arguments"⟩ [
            .node ⟨"(", false, false, 17, 18, none⟩ [],
            .node ⟨"element_value_array_initializer", true, false, 18, 52, none⟩ [
              .node ⟨"\x7b", false, false, 18, 19, none⟩ [],
              .node ⟨"string_literal", true, false, 19, 33, none⟩ [
                .node ⟨"\"", false, false, 19, 20, none⟩ [],
                .node ⟨"string_fragment", true, false, 20, 32, none⟩ [],
                .node ⟨"\"", false, false, 32, 33, none⟩ []],
              .node ⟨",", false, false, 33, 34, none⟩ [],
              .node ⟨"string_literal", true, false, 35, 51, none⟩ [
                .node ⟨"\"", false, false, 35, 36, none⟩ [],
                .node ⟨"string_fragment", true, false, 36, 50, none⟩ [],
                .node ⟨"\"", false, false, 50, 51, none⟩ []],
              .node ⟨"\x7d", false, false, 51, 52, none⟩ []],
            .node ⟨")", false, false, 52, 53, none⟩ []]]],
      .node ⟨"integral_type", true, false, 54, 57, some "type"⟩ [
        .node ⟨"int", false, false, 54, 57, none⟩ []],
      .node ⟨"variable_declarator", true, false, 58, 59, some "declarator"⟩ [
        .node ⟨"identifier", true, false, 58, 59, some "name"⟩ []],
      .node ⟨";", false, false, 59, 60, none⟩ []]]

/-- The annotations of the sample, behind whatever else silences rules there. -/
theorem Suppressions.silences_append_ofAnnotations_sample :
    ∃ added, ofAnnotations annotatedSource annotatedTree = .ok added ∧
      ∀ (prior : Suppressions) (rule : String) (o : Offset),
        silences (prior ++ added) rule o = true ↔
          prior.silences rule o = true ∨ annotatedTree.AnnotatedAt annotatedSource rule o.val :=
  silences_append_ofAnnotations annotatedSource annotatedTree (by decide) (by decide) (by decide)

example : (Suppressions.ofAnnotations annotatedSource annotatedTree).toOption.map
    (·.map fun r => (r.key, r.span.start.val, r.span.stop.val)) =
      some [(.named "x", 0, 60), (.every, 0, 60)] := by
  decide +kernel

end JavaLint
