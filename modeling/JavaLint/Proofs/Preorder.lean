import Mathlib.Data.List.Perm.Basic
import JavaLint.Tree.Walk

/-!
# The order of a walk

The places of a tree are its nodes, each with the way back to the root; they are listed by
recursion, each node before those below it. A walk goes through the places in that order, every
place once (`Tree.cursors_eq_places`), and the nodes that it meets are those of the tree
(`Tree.walk_eq_nodes`). In another order these are the root and the children of all nodes
(`Tree.nodes_perm`).

The walk is driven by a cursor that only sees its own surroundings. The statement that carries the
induction is about a cursor anywhere in a tree: the walk from there lists the places at and below
it, and goes on at the next sibling of the nearest ancestor that has one (`Cursor.walkFrom_eq`).
-/

namespace JavaLint

namespace Tree

/-- What holds of a tree when it holds of all its children holds of every tree. -/
@[elab_as_elim]
theorem inductionOn {motive : Tree → Prop}
    (node : ∀ l cs, (∀ c ∈ cs, motive c) → motive (.node l cs)) : (t : Tree) → motive t
  | .node l cs => node l cs fun c _ => inductionOn node c

theorem nodesAll_eq_flatMap (ts : List Tree) : nodesAll ts = ts.flatMap nodes := by
  induction ts with
  | nil => rfl
  | cons t ts ih => rw [nodesAll, ih, List.flatMap_cons]

theorem nodes_node (l : NodeLabel) (cs : List Tree) :
    (node l cs).nodes = node l cs :: cs.flatMap nodes := by
  rw [nodes, nodesAll_eq_flatMap]

theorem self_mem_nodes (t : Tree) : t ∈ t.nodes := by
  cases t
  rw [nodes_node]
  exact List.mem_cons_self

theorem mem_nodes_of_child {t u c : Tree} (hu : u ∈ t.nodes) (hc : c ∈ u.children) :
    c ∈ t.nodes := by
  induction t using inductionOn with
  | node l cs ih =>
    rw [nodes_node] at hu ⊢
    refine List.mem_cons_of_mem _ (List.mem_flatMap.2 ?_)
    rcases List.mem_cons.1 hu with rfl | hu
    · exact ⟨c, hc, c.self_mem_nodes⟩
    · obtain ⟨d, hd, hu⟩ := List.mem_flatMap.1 hu
      exact ⟨d, hd, ih d hd hu⟩

/-- Every node but the root is a child of one node, at one place. -/
theorem nodes_perm (t : Tree) : t.nodes.Perm (t :: t.nodes.flatMap children) := by
  induction t using inductionOn with
  | node l cs ih =>
    -- the children of a node stand together, each listed with the children of what is below it
    have heach := List.Perm.flatMap_left cs ih
    have hsplit := List.map_append_flatMap_perm cs id fun c => c.nodes.flatMap children
    rw [List.map_id] at hsplit
    rw [nodes_node, List.flatMap_cons, List.flatMap_assoc]
    exact (heach.trans hsplit.symm).cons _

mutual

/-- The places at a node and below it, where `way` leads from the node to the root. -/
def placesOn (way : List Crumb) : Tree → List Cursor
  | node l cs => ⟨node l cs, way⟩ :: placesOnEach way l [] cs

/-- The places at some children of a node and below them; `before` are the children before those,
the nearest first. -/
def placesOnEach (way : List Crumb) (l : NodeLabel) (before : List Tree) : List Tree → List Cursor
  | [] => []
  | t :: ts => placesOn (⟨l, before, ts⟩ :: way) t ++ placesOnEach way l (t :: before) ts

end

/-- All nodes with the way back to the root, each before those below it. -/
def places (t : Tree) : List Cursor := t.placesOn []

end Tree

namespace Cursor

/-- Where a walk goes on behind all that is below the cursor. -/
def leave? (c : Cursor) : Option Cursor :=
  match c.nextSibling? with
  | some d => some d
  | none => climb? c.crumbs c.focus

/-- The walk behind all that is below the cursor. -/
def onward (c : Cursor) : List Cursor := c.leave?.elim [] walkFrom

theorem walkFrom_of_firstChild {c d : Cursor} (h : c.firstChild? = some d) :
    c.walkFrom = c :: d.walkFrom := by
  have hnext : c.next? = some d := by simp only [next?, h]
  rw [walkFrom]
  split
  · rename_i e he
    rw [hnext] at he
    rw [Option.some.inj he]
  · rename_i he
    rw [hnext] at he
    exact absurd he (Option.some_ne_none d)

theorem walkFrom_of_no_child {c : Cursor} (h : c.firstChild? = none) :
    c.walkFrom = c :: c.onward := by
  have hnext : c.next? = c.leave? := by
    rw [next?, h]
    rfl
  rw [walkFrom, onward]
  split
  · rename_i d hd
    rw [← hnext, hd, Option.elim_some]
  · rename_i hd
    rw [← hnext, hd, Option.elim_none]

theorem onward_of_sibling (t u : Tree) (l : NodeLabel) (before after : List Tree)
    (way : List Crumb) :
    onward ⟨t, ⟨l, before, u :: after⟩ :: way⟩ =
      walkFrom ⟨u, ⟨l, t :: before, after⟩ :: way⟩ := rfl

theorem onward_of_last (t : Tree) (l : NodeLabel) (before : List Tree) (way : List Crumb) :
    onward ⟨t, ⟨l, before, []⟩ :: way⟩ =
      onward ⟨.node l (before.reverse ++ [t]), way⟩ := rfl

/-- The walk through children that are left, if it is known from each of them on. -/
private theorem walkFrom_children {l : NodeLabel} {way : List Crumb} (before : List Tree) (t : Tree)
    (after : List Tree)
    (hwalk : ∀ u ∈ t :: after, ∀ way, walkFrom ⟨u, way⟩ = u.placesOn way ++ onward ⟨u, way⟩) :
    walkFrom ⟨t, ⟨l, before, after⟩ :: way⟩ =
      Tree.placesOnEach way l before (t :: after) ++
        onward ⟨.node l (before.reverse ++ t :: after), way⟩ := by
  induction after generalizing before t with
  | nil =>
    rw [hwalk t List.mem_cons_self, onward_of_last]
    simp only [Tree.placesOnEach, List.append_nil]
  | cons u after ih =>
    rw [hwalk t List.mem_cons_self, onward_of_sibling,
      ih (t :: before) u fun v hv => hwalk v (List.mem_cons_of_mem t hv)]
    simp only [Tree.placesOnEach, List.append_assoc, List.reverse_cons, List.cons_append,
      List.nil_append]

/-- A walk lists the places at and below the cursor, and then goes on behind them. -/
theorem walkFrom_eq (t : Tree) (way : List Crumb) :
    walkFrom ⟨t, way⟩ = t.placesOn way ++ onward ⟨t, way⟩ := by
  induction t using Tree.inductionOn generalizing way with
  | node l cs ih =>
    cases cs with
    | nil => exact walkFrom_of_no_child rfl
    | cons t after =>
      have hfirst : firstChild? ⟨.node l (t :: after), way⟩ = some ⟨t, ⟨l, [], after⟩ :: way⟩ := rfl
      rw [walkFrom_of_firstChild hfirst, walkFrom_children [] t after ih]
      simp only [Tree.placesOn, List.reverse_nil, List.nil_append, List.cons_append]

end Cursor

namespace Tree

/-- A walk from the root goes through all places in their order. -/
theorem cursors_eq_places (t : Tree) : t.cursors = t.places := by
  have hroot : Cursor.onward (Cursor.atRoot t) = [] := rfl
  rw [cursors, places, Cursor.atRoot, Cursor.walkFrom_eq, ← Cursor.atRoot, hroot, List.append_nil]

private theorem map_focus_placesOnEach {way : List Crumb} {l : NodeLabel} {ts : List Tree}
    (hplaces : ∀ t ∈ ts, ∀ way, (t.placesOn way).map (·.focus) = t.nodes) (before : List Tree) :
    (placesOnEach way l before ts).map (·.focus) = ts.flatMap nodes := by
  induction ts generalizing before with
  | nil => rfl
  | cons t ts ih =>
    rw [placesOnEach, List.map_append, hplaces t List.mem_cons_self,
      ih (fun u hu => hplaces u (List.mem_cons_of_mem t hu)), List.flatMap_cons]

theorem map_focus_placesOn (t : Tree) (way : List Crumb) :
    (t.placesOn way).map (·.focus) = t.nodes := by
  induction t using inductionOn generalizing way with
  | node l cs ih => rw [placesOn, List.map_cons, map_focus_placesOnEach ih, nodes_node]

theorem map_focus_places (t : Tree) : t.places.map (·.focus) = t.nodes :=
  t.map_focus_placesOn []

theorem focus_mem_nodes {t : Tree} {c : Cursor} (hc : c ∈ t.places) : c.focus ∈ t.nodes :=
  t.map_focus_places ▸ List.mem_map_of_mem hc

/-- The nodes that a walk meets are those of the tree, in order. -/
theorem walk_eq_nodes (t : Tree) : t.walk = t.nodes := by
  rw [walk, cursors_eq_places, map_focus_places]

end Tree

end JavaLint
