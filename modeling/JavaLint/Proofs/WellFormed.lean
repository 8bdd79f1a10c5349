import JavaLint.Lint.Rule
import JavaLint.Proofs.Preorder

/-!
# Well-formed trees over a text

A tree is well-formed over a text when every node lies in the text, children lie in their parent,
and siblings come one after the other without overlap. The nodes of such a tree start in the order
in which they are listed (`Tree.WellFormed.pairwise_start`), its leaves do not overlap
(`Tree.WellFormed.pairwise_leaves`), and each node has a span (`Tree.WellFormed.exists_span`).
-/

namespace JavaLint

open JavaLint.Text

namespace Tree

/-- A node lies in a text of the given length, and its children lie in it one after the other. -/
structure Seated (length : Nat) (t : Tree) : Prop where
  start_le_stop : t.label.start ≤ t.label.stop
  stop_le : t.label.stop ≤ length
  inside : ∀ c ∈ t.children, t.label.start ≤ c.label.start ∧ c.label.stop ≤ t.label.stop
  ordered : t.children.Pairwise fun a b => a.label.stop ≤ b.label.start

instance (length : Nat) (t : Tree) : Decidable (t.Seated length) :=
  decidable_of_iff
    (t.label.start ≤ t.label.stop ∧ t.label.stop ≤ length ∧
      (∀ c ∈ t.children, t.label.start ≤ c.label.start ∧ c.label.stop ≤ t.label.stop) ∧
      t.children.Pairwise fun a b => a.label.stop ≤ b.label.start)
    ⟨fun ⟨h₁, h₂, h₃, h₄⟩ => ⟨h₁, h₂, h₃, h₄⟩, fun ⟨h₁, h₂, h₃, h₄⟩ => ⟨h₁, h₂, h₃, h₄⟩⟩

/-- Every node of the tree is seated in a text of the given length. -/
def WellFormed (length : Nat) (t : Tree) : Prop := ∀ u ∈ t.nodes, u.Seated length

instance (length : Nat) (t : Tree) : Decidable (t.WellFormed length) :=
  inferInstanceAs (Decidable (∀ u ∈ t.nodes, u.Seated length))

namespace WellFormed

variable {length : Nat} {t : Tree} {l : NodeLabel} {cs : List Tree}

theorem seated (h : t.WellFormed length) : t.Seated length := h t t.self_mem_nodes

theorem child (h : (node l cs).WellFormed length) {c : Tree} (hc : c ∈ cs) :
    c.WellFormed length := by
  intro u hu
  apply h
  rw [nodes_node]
  exact List.mem_cons_of_mem _ (List.mem_flatMap.2 ⟨c, hc, hu⟩)

/-- All nodes of a well-formed tree lie in the root. -/
theorem within (h : t.WellFormed length) {u : Tree} (hu : u ∈ t.nodes) :
    t.label.start ≤ u.label.start ∧ u.label.stop ≤ t.label.stop := by
  induction t using Tree.inductionOn with
  | node l cs ih =>
    rw [nodes_node] at hu
    rcases List.mem_cons.1 hu with rfl | hu
    · exact ⟨Nat.le_refl _, Nat.le_refl _⟩
    · obtain ⟨c, hc, hu⟩ := List.mem_flatMap.1 hu
      obtain ⟨hstart, hstop⟩ := ih c hc (h.child hc) hu
      obtain ⟨hstart', hstop'⟩ := h.seated.inside c hc
      exact ⟨Nat.le_trans hstart' hstart, Nat.le_trans hstop hstop'⟩

/-- What lies in a child ends before what lies in a later one starts. -/
theorem pairwise_siblings (h : (node l cs).WellFormed length) :
    cs.Pairwise fun a b => ∀ u ∈ a.nodes, ∀ v ∈ b.nodes, u.label.stop ≤ v.label.start := by
  refine h.seated.ordered.imp_of_mem fun {a b} ha hb hab u hu v hv => ?_
  have hau := (h.child ha).within hu
  have hbv := (h.child hb).within hv
  exact Nat.le_trans hau.2 (Nat.le_trans hab hbv.1)

/-- The nodes of a well-formed tree are listed in the order of their starts. -/
theorem pairwise_start (h : t.WellFormed length) :
    t.nodes.Pairwise fun a b => a.label.start ≤ b.label.start := by
  induction t using Tree.inductionOn with
  | node l cs ih =>
    have hroot := fun u hu => (h.within (u := u) hu).1
    rw [nodes_node] at hroot ⊢
    refine List.pairwise_cons.2 ⟨fun u hu => hroot u (List.mem_cons_of_mem _ hu), ?_⟩
    rw [List.pairwise_flatMap]
    refine ⟨fun c hc => ih c hc (h.child hc), ?_⟩
    refine h.pairwise_siblings.imp_of_mem fun ha _ hab u hu v hv => ?_
    exact Nat.le_trans (h.child ha u hu).start_le_stop (hab u hu v hv)

/-- The leaves of a well-formed tree are listed one after the other without overlap. -/
theorem pairwise_leaves (h : t.WellFormed length) :
    t.nodes.Pairwise fun a b =>
      a.children = [] → b.children = [] → a.label.stop ≤ b.label.start := by
  induction t using Tree.inductionOn with
  | node l cs ih =>
    rw [nodes_node]
    refine List.pairwise_cons.2 ⟨fun u hu hroot => ?_, ?_⟩
    · -- a root that is a leaf has nothing below it
      obtain rfl : cs = [] := hroot
      exact absurd hu List.not_mem_nil
    · rw [List.pairwise_flatMap]
      refine ⟨fun c hc => ih c hc (h.child hc), ?_⟩
      exact h.pairwise_siblings.imp fun hab u hu v hv _ _ => hab u hu v hv

end WellFormed

/-- A node that starts within 32 bits and does not end before it starts has a span, which starts
where the node starts. It also ends where the node ends, if that is within 32 bits. -/
theorem exists_span {t : Tree} (hstart : t.label.start < UInt32.size)
    (hstop : t.label.start ≤ t.label.stop) :
    ∃ s, t.span = .ok s ∧ s.start.val = t.label.start ∧
      (t.label.stop < UInt32.size → s.stop.val = t.label.stop) := by
  have hofStart : Offset.ofNat? t.label.start = some ⟨t.label.start, hstart⟩ := dif_pos hstart
  by_cases hfit : t.label.stop < UInt32.size
  · have hofStop : Offset.ofNat? t.label.stop = some ⟨t.label.stop, hfit⟩ := dif_pos hfit
    refine ⟨⟨⟨_, hstart⟩, ⟨_, hfit⟩, hstop⟩, ?_, rfl, fun _ => rfl⟩
    simp only [span, hofStart, hofStop, Option.getD_some]
    exact dif_pos hstop
  · have hofStop : Offset.ofNat? t.label.stop = none := dif_neg hfit
    refine ⟨⟨⟨_, hstart⟩, ⟨_, hstart⟩, Nat.le_refl _⟩, ?_, rfl, fun h => absurd h hfit⟩
    simp only [span, hofStart, hofStop, Option.getD_some, Option.getD_none]
    exact dif_pos (Nat.le_refl _)

/-- The nodes of a well-formed tree over a text of 32 bits have spans from their start to their end.
-/
theorem WellFormed.exists_span {length : Nat} {t : Tree} (h : t.WellFormed length)
    (hlength : length < UInt32.size) {u : Tree} (hu : u ∈ t.nodes) :
    ∃ s, u.span = .ok s ∧ s.start.val = u.label.start ∧ s.stop.val = u.label.stop := by
  have hseat := h u hu
  have hstop : u.label.stop < UInt32.size := Nat.lt_of_le_of_lt hseat.stop_le hlength
  have hstart : u.label.start < UInt32.size := Nat.lt_of_le_of_lt hseat.start_le_stop hstop
  obtain ⟨s, hs, hsstart, hsstop⟩ := Tree.exists_span hstart hseat.start_le_stop
  exact ⟨s, hs, hsstart, hsstop hstop⟩

end Tree

/-! ### A sample -/

/-- A declaration with modifiers out of order, between two comments for a filter. -/
def sampleSource : String := "//CHECKSTYLE:OFF:X\nfinal public int i;\n//CHECKSTYLE:ON:X"

/-- The syntax tree of the sample. -/
def sampleTree : Tree :=
  .node ⟨"program", true, false, 0, 56, none⟩ [
    .node ⟨"line_comment", true, false, 0, 18, none⟩ [],
    .node ⟨"local_variable_declaration", true, false, 19, 38, none⟩ [
      .node ⟨"modifiers", true, false, 19, 31, none⟩ [
        .node ⟨"final", false, false, 19, 24, none⟩ [],
        .node ⟨"public", false, false, 25, 31, none⟩ []],
      .node ⟨"integral_type", true, false, 32, 35, some "type"⟩ [
        .node ⟨"int", false, false, 32, 35, none⟩ []],
      .node ⟨"variable_declarator", true, false, 36, 37, some "declarator"⟩ [
        .node ⟨"identifier", true, false, 36, 37, some "name"⟩ []],
      .node ⟨";", false, false, 37, 38, none⟩ []],
    .node ⟨"line_comment", true, false, 39, 56, none⟩ []]

theorem sampleSource_size : sampleSource.utf8ByteSize < UInt32.size := by decide

theorem sampleTree_wellFormed : sampleTree.WellFormed sampleSource.utf8ByteSize := by decide

end JavaLint
