import JavaLint.Modifier.Clause
import JavaLint.Proofs.KeywordOrder
import JavaLint.Proofs.Lines
import JavaLint.Proofs.WellFormed

/-!
# What is found at a clause

The keywords of a clause are its children other than annotations, comments, skipped text and missing
tokens. What is found at a clause is said by their texts: nothing where these keep the suggested
order, and otherwise one diagnostic, on the first keyword with which they do not
(`Modifier.exists_flags`).

Annotations, comments and skipped text may then come and go between the keywords, and these may move
apart: the same keyword is found (`Modifier.rule_check_sameKeywords`).
-/

namespace JavaLint

open JavaLint.Text

/-! ### Nodes that cover a part of the source -/

/-- The node does not end before it starts, and starts and ends between characters of the source. -/
def Tree.Covers (source : String) (t : Tree) : Prop :=
  t.label.start ≤ t.label.stop ∧ String.Pos.Raw.IsValid source ⟨t.label.start⟩ ∧
    String.Pos.Raw.IsValid source ⟨t.label.stop⟩

instance (source : String) (t : Tree) : Decidable (t.Covers source) :=
  inferInstanceAs (Decidable (_ ∧ _ ∧ _))

theorem Tree.Covers.sliceText?_eq {source : String} {t : Tree} (h : t.Covers source) :
    sliceText? source t.label.start t.label.stop = some (t.text source) := by
  obtain ⟨horder, hstart, hstop⟩ := h
  rw [text, sliceText?, dif_pos ⟨horder, hstart, hstop⟩, Option.getD_some]

/-- A node that covers a part of a source of 32 bits has a span, from its start to its end, and its
text is what the source has there. -/
theorem Tree.Covers.exists_span {source : String} {t : Tree} (h : t.Covers source)
    (hsize : source.utf8ByteSize < UInt32.size) :
    ∃ s, t.span = .ok s ∧ s.start.val = t.label.start ∧ s.stop.val = t.label.stop ∧
      s.slice source = .ok (t.text source) := by
  have horder := h.1
  have hle : t.label.stop ≤ source.utf8ByteSize := h.2.2.le_rawEndPos
  obtain ⟨s, hs, hstart, hstop⟩ := Tree.exists_span (t := t) (by omega) horder
  have hstop := hstop (by omega)
  exact ⟨s, hs, hstart, hstop, by rw [Span.slice, hstart, hstop, h.sliceText?_eq]⟩

/-! ### The keywords of a clause -/

/-- A kind other than the remaining one has the names that are listed with it. -/
theorem NodeKind.ofRaw_eq_iff {name : String} {k : NodeKind} (hk : k ≠ other) :
    ofRaw name = k ↔ (name, k) ∈ names := by
  constructor
  · intro h
    rw [ofRaw] at h
    cases hlookup : names.lookup name with
    | none => exact absurd (by rw [← h, hlookup]; rfl) hk
    | some k' =>
      rw [hlookup, Option.getD_some] at h
      obtain ⟨before, after, hnames, -⟩ := List.lookup_eq_some_iff.1 hlookup
      rw [hnames, h]
      exact List.mem_append_right before List.mem_cons_self
  · intro h
    have hnames : ∀ e ∈ names, ofRaw e.1 = e.2 := by decide
    exact hnames _ h

/-- The node is an annotation, a comment, skipped text or a missing token. -/
def Tree.IsAside (t : Tree) : Prop :=
  t.rawKind ∈ ["annotation", "marker_annotation", "line_comment", "block_comment", "ERROR"] ∨
    t.label.missing = true

instance : DecidablePred Tree.IsAside := fun _ => inferInstanceAs (Decidable (_ ∨ _))

theorem Tree.isAside_iff {t : Tree} :
    (t.kind.isAnnotation || t.kind.isComment || t.isFlaw) = true ↔ t.IsAside := by
  have hkind : ∀ k ∈ [ NodeKind.annotation, NodeKind.markerAnnotation, .lineComment, .blockComment],
      t.kind = k ↔ (t.rawKind, k) ∈ NodeKind.names := by
    intro k hk
    refine NodeKind.ofRaw_eq_iff ?_
    rintro rfl
    exact absurd hk (by decide)
  simp only [List.forall_mem_cons, List.not_mem_nil, false_imp_iff, forall_const] at hkind
  obtain ⟨h₁, h₂, h₃, h₄, -⟩ := hkind
  simp only [NodeKind.isAnnotation, NodeKind.isComment, isFlaw, Bool.or_eq_true, beq_iff_eq, h₁, h₂,
    h₃, h₄]
  simp [NodeKind.names, IsAside, rawKind, errorKind, or_assoc]

namespace Modifier

/-- The keywords of a clause. -/
def keywords (clause : Tree) : List Tree := clause.children.filter fun c => ¬ c.IsAside

/-- The texts of the keywords of a clause. -/
def keywordTexts (source : String) (clause : Tree) : List String :=
  (keywords clause).map fun c => c.text source

/-- The token tells the text and the place of the node. -/
structure Token.IsOf (source : String) (c : Tree) (t : Token) : Prop where
  keyword_eq : t.keyword = c.text source
  start_eq : t.span.start.val = c.label.start
  stop_eq : t.span.stop.val = c.label.stop

/-- The diagnostic is on the node: it is at the place of the node, and says in full that the text of
the node is out of order. -/
structure IsOn (source : String) (c : Tree) (d : Diagnostic) : Prop where
  start_eq : d.span.start.val = c.label.start
  stop_eq : d.span.stop.val = c.label.stop
  body_eq : d.body =
    "'" ++ c.text source ++ "' modifier out of order with the JLS suggestions"

theorem Token.IsOf.isOn {source : String} {c : Tree} {t : Token} (h : t.IsOf source c) :
    IsOn source c (diagnostic t) where
  start_eq := h.start_eq
  stop_eq := h.stop_eq
  body_eq := by
    rw [← h.keyword_eq]
    rfl

variable {source : String} {clause : Tree} {lines : Lines}

theorem filter_children_eq (clause : Tree) :
    (clause.children.filter fun c => !(c.kind.isAnnotation || c.kind.isComment || c.isFlaw)) =
      keywords clause := by
  refine List.filter_congr fun c _ => ?_
  rw [Bool.eq_iff_iff, Bool.not_eq_true', ← Bool.not_eq_true, Tree.isAside_iff, decide_eq_true_iff]

/-- The keywords of a clause are found if its children cover parts of the source. -/
theorem exists_tokens (hsize : source.utf8ByteSize < UInt32.size) (hof : lines.Of source)
    (hcovers : ∀ c ∈ clause.children, c.Covers source) :
    ∃ ts, tokens lines clause = .ok ts ∧
      List.Forall₂ (fun c t => t.IsOf source c) (keywords clause) ts := by
  unfold tokens
  rw [filter_children_eq]
  refine Attempt.exists_mapM_ok_forall₂ fun c hc => ?_
  have hcovers := hcovers c (List.mem_filter.1 hc).1
  obtain ⟨span, hspan, hstart, hstop, hslice⟩ := hcovers.exists_span hsize
  obtain ⟨position, hposition⟩ := hof.exists_position hsize (hstart ▸ hcovers.2.1)
  refine ⟨⟨c.text source, position, span⟩, ?_, rfl, hstart, hstop⟩
  rw [hspan, Attempt.bind_ok, hof.text_eq, hslice, Attempt.bind_ok, hposition]
  rfl

/-! ### The diagnostics of a clause -/

/-- The diagnostics on the keywords of a clause, where at most the one at an index is found. -/
def Flags (source : String) (clause : Tree) : Option Nat → List Diagnostic → Prop
  | none, ds => ds = []
  | some k, ds => ∃ c d, (keywords clause)[k]? = some c ∧ IsOn source c d ∧ ds = [d]

/-- The rule finds something at the first keyword of a clause that breaks the order, and nothing else.
-/
theorem exists_flags {node : Cursor} (hsize : source.utf8ByteSize < UInt32.size)
    (hlines : Lines.ofText source = .ok lines) (hkind : node.kind = .modifiers)
    (hcovers : ∀ c ∈ node.focus.children, c.Covers source) :
    ∃ ds k?, rule.check lines node = .ok ds ∧ Flags source node.focus k? ds ∧
      BreaksAt (keywordTexts source node.focus) k? := by
  obtain ⟨ts, hts, htokens⟩ := exists_tokens hsize (Lines.of_ofText hsize hlines) hcovers
  have htexts : ts.map Token.keyword = keywordTexts source node.focus :=
    Attempt.map_eq_map_of_forall₂ (htokens.imp fun _ _ h => h.keyword_eq)
  have hcheck : rule.check lines node =
      .ok ((firstMisplaced? Token.keyword ts).map diagnostic).toList := by
    simp only [rule, NodeKind.isModifiers, hkind, beq_self_eq_true, if_true, hts, Attempt.bind_ok,
      Attempt.pure_eq_ok]
  obtain ⟨k?, hk⟩ := exists_breaksAt (keywordTexts source node.focus)
  refine ⟨_, k?, hcheck, ?_, hk⟩
  rw [← htexts] at hk
  cases k? with
  | none =>
    have hnone : firstMisplaced? Token.keyword ts = none := firstMisplacedFrom_eq_none_iff.2 hk
    rw [hnone]
    rfl
  | some k =>
    have hlt : k < ts.length := by simpa using hk.1.1
    have hlt' : k < (keywords node.focus).length := htokens.length_eq ▸ hlt
    have hsome := FirstBreak.firstMisplaced?_eq hk (List.getElem?_eq_getElem hlt)
    rw [hsome]
    exact ⟨_, _, List.getElem?_eq_getElem hlt', (htokens.get hlt' hlt).isOn, rfl⟩

namespace Flags

variable {k? : Option Nat} {ds : List Diagnostic}

theorem length_le_one (h : Flags source clause k? ds) : ds.length ≤ 1 := by
  cases k? with
  | none =>
    obtain rfl : ds = [] := h
    exact Nat.zero_le 1
  | some k =>
    obtain ⟨c, d, -, -, rfl⟩ := h
    exact Nat.le_refl 1

theorem eq_nil_iff (h : Flags source clause k? ds)
    (hbreaks : BreaksAt (keywordTexts source clause) k?) :
    ds = [] ↔ (keywordTexts source clause).Sublist table := by
  cases k? with
  | none => exact iff_of_true h hbreaks
  | some k =>
    obtain ⟨c, d, -, -, rfl⟩ := h
    exact iff_of_false (List.cons_ne_nil d []) hbreaks.not_sublist

theorem exists_keyword (h : Flags source clause k? ds)
    (hbreaks : BreaksAt (keywordTexts source clause) k?) {d : Diagnostic} (hd : d ∈ ds) :
    ∃ k c, FirstBreak (keywordTexts source clause) k ∧ (keywords clause)[k]? = some c ∧
      IsOn source c d := by
  cases k? with
  | none =>
    obtain rfl : ds = [] := h
    exact absurd hd List.not_mem_nil
  | some k =>
    obtain ⟨c, d', hc, hon, rfl⟩ := h
    obtain rfl := List.mem_singleton.1 hd
    exact ⟨k, c, hbreaks, hc, hon⟩

end Flags

/-! ### Clauses that differ beside their keywords -/

/-- The children of two clauses that differ by annotations, comments, skipped text and missing tokens
at any places, and by where the keywords stand in the two sources. -/
inductive SameKeywords (source source' : String) : List Tree → List Tree → Prop
  | nil : SameKeywords source source' [] []
  | left {c : Tree} {cs cs' : List Tree} (hc : c.IsAside)
      (h : SameKeywords source source' cs cs') : SameKeywords source source' (c :: cs) cs'
  | right {c' : Tree} {cs cs' : List Tree} (hc' : c'.IsAside)
      (h : SameKeywords source source' cs cs') : SameKeywords source source' cs (c' :: cs')
  | keyword {c c' : Tree} {cs cs' : List Tree} (hc : ¬ c.IsAside) (hc' : ¬ c'.IsAside)
      (htext : c.text source = c'.text source') (h : SameKeywords source source' cs cs') :
      SameKeywords source source' (c :: cs) (c' :: cs')

theorem SameKeywords.keywordTexts_eq {source source' : String} {clause clause' : Tree}
    (h : SameKeywords source source' clause.children clause'.children) :
    keywordTexts source clause = keywordTexts source' clause' := by
  unfold keywordTexts keywords
  generalize clause.children = cs, clause'.children = cs' at h
  induction h with
  | nil => rfl
  | left hc _ ih =>
    rw [List.filter_cons_of_neg (by simpa using hc)]
    exact ih
  | right hc' _ ih =>
    rw [List.filter_cons_of_neg (by simpa using hc')]
    exact ih
  | keyword hc hc' htext _ ih =>
    rw [List.filter_cons_of_pos (by simpa using hc), List.filter_cons_of_pos (by simpa using hc'),
      List.map_cons, List.map_cons, htext, ih]

/-- At a node that is no clause nothing is found. At a clause at most one thing is found, and nothing
exactly if its keywords keep the order; what is found stands at the first keyword that breaks it,
and says of its text that it is out of order. If another clause, of any source, differs from it
beside the keywords only, then nothing is found at either or the keyword of one index at both. -/
theorem rule_check_sameKeywords (source : String) (node : Cursor)
    (hsize : source.utf8ByteSize < UInt32.size)
    (hcovers : ∀ c ∈ node.focus.children, c.Covers source) :
    ∃ lines ds, Lines.ofText source = .ok lines ∧ rule.check lines node = .ok ds ∧
      (node.kind ≠ .modifiers → ds = []) ∧
      (node.kind = .modifiers → ds.length ≤ 1 ∧
        (ds = [] ↔ (keywordTexts source node.focus).Sublist table) ∧
        (∀ d ∈ ds, ∃ k c, FirstBreak (keywordTexts source node.focus) k ∧
          (keywords node.focus)[k]? = some c ∧ IsOn source c d) ∧
        ∀ source' (node' : Cursor), source'.utf8ByteSize < UInt32.size →
          (∀ c ∈ node'.focus.children, c.Covers source') → node'.kind = .modifiers →
          SameKeywords source source' node.focus.children node'.focus.children →
          ∃ lines' ds' k?, Lines.ofText source' = .ok lines' ∧ rule.check lines' node' = .ok ds' ∧
            Flags source node.focus k? ds ∧ Flags source' node'.focus k? ds') := by
  obtain ⟨lines, hlines, -⟩ := Lines.exists_ofText hsize
  by_cases hkind : node.kind = .modifiers
  · obtain ⟨ds, k?, hcheck, hflags, hbreaks⟩ := exists_flags hsize hlines hkind hcovers
    refine ⟨lines, ds, hlines, hcheck, fun h => absurd hkind h, fun _ => ⟨hflags.length_le_one,
      hflags.eq_nil_iff hbreaks, fun d => hflags.exists_keyword hbreaks, ?_⟩⟩
    intro source' node' hsize' hcovers' hkind' hsame
    obtain ⟨lines', hlines', -⟩ := Lines.exists_ofText hsize'
    obtain ⟨ds', l?, hcheck', hflags', hbreaks'⟩ := exists_flags hsize' hlines' hkind' hcovers'
    rw [← hsame.keywordTexts_eq] at hbreaks'
    obtain rfl := hbreaks.unique hbreaks'
    exact ⟨lines', ds', k?, hlines', hcheck', hflags, hflags'⟩
  · have hno : node.kind.isModifiers = false := by simpa [NodeKind.isModifiers] using hkind
    refine ⟨lines, [], hlines, ?_, fun _ => rfl, fun h => absurd h hkind⟩
    simp only [rule, hno, Bool.false_eq_true, if_false, Attempt.pure_eq_ok]

/-- The clause of the sample, and one with an annotation in front and a comment between the keywords.
-/
theorem rule_check_sameKeywords_sample :
    let clause : Tree := .node ⟨"modifiers", true, false, 19, 31, none⟩ [
      .node ⟨"final", false, false, 19, 24, none⟩ [],
      .node ⟨"public", false, false, 25, 31, none⟩ []]
    let source' := "@A final/**/public int i;"
    let clause' : Tree := .node ⟨"modifiers", true, false, 0, 18, none⟩ [
      .node ⟨"marker_annotation", true, false, 0, 2, none⟩ [],
      .node ⟨"final", false, false, 3, 8, none⟩ [],
      .node ⟨"block_comment", true, false, 8, 12, none⟩ [],
      .node ⟨"public", false, false, 12, 18, none⟩ []]
    ∃ lines ds lines' ds' k?, Lines.ofText sampleSource = .ok lines ∧
      rule.check lines clause = .ok ds ∧ ds ≠ [] ∧ Lines.ofText source' = .ok lines' ∧
      rule.check lines' clause' = .ok ds' ∧ Flags sampleSource clause k? ds ∧
      Flags source' clause' k? ds' := by
  intro clause source' clause'
  have hsame : SameKeywords sampleSource source' clause.children clause'.children :=
    .right (by decide) (.keyword (by decide) (by decide) (by decide)
      (.right (by decide) (.keyword (by decide) (by decide) (by decide) .nil)))
  obtain ⟨lines, ds, hlines, hcheck, -, hclause⟩ :=
    rule_check_sameKeywords sampleSource clause sampleSource_size (by decide)
  obtain ⟨-, hnil, -, hother⟩ := hclause (by decide)
  obtain ⟨lines', ds', k?, hlines', hcheck', hflags, hflags'⟩ :=
    hother source' clause' (by decide) (by decide) (by decide) hsame
  have hne : ds ≠ [] := fun h => absurd (hnil.1 h) (by decide)
  exact ⟨lines, ds, lines', ds', k?, hlines, hcheck, hne, hlines', hcheck', hflags, hflags'⟩

end Modifier

end JavaLint
