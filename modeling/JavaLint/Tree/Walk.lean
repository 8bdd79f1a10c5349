import JavaLint.Tree.Basic

/-!
# Walking a tree

A cursor stands at a node of a tree and knows the way back to the root. A walk moves it to the
first child, else to the next sibling, else up until a next sibling is found. The order is that of
the nodes in the tree, each before those below it.
-/

namespace JavaLint

namespace Tree

mutual

/-- The number of nodes. -/
def size : Tree → Nat
  | node _ cs => 1 + sizeAll cs

/-- The number of nodes of several trees. -/
def sizeAll : List Tree → Nat
  | [] => 0
  | t :: ts => t.size + sizeAll ts

end

mutual

/-- All nodes, each before those below it. -/
def nodes : Tree → List Tree
  | node l cs => node l cs :: nodesAll cs

/-- All nodes of several trees, in order. -/
def nodesAll : List Tree → List Tree
  | [] => []
  | t :: ts => t.nodes ++ nodesAll ts

end

theorem size_pos (t : Tree) : 0 < t.size := by
  cases t; simp only [size]; omega

end Tree

/-- A step of the way from the root to a node: its parent, and the siblings on either side. -/
structure Crumb where
  label : NodeLabel
  /-- The siblings before the node, the nearest first. -/
  before : List Tree
  /-- The siblings after the node. -/
  after : List Tree
deriving Inhabited

/-- A node of a tree with the way back to the root. -/
structure Cursor where
  focus : Tree
  /-- The way to the root, the parent first. -/
  crumbs : List Crumb
deriving Inhabited

namespace Cursor

/-- The cursor at the root. -/
def atRoot (t : Tree) : Cursor := ⟨t, []⟩

/-- A tree on its own stands for the cursor at its root. -/
instance : Coe Tree Cursor := ⟨atRoot⟩

/-- The kind that the grammar gives the node. -/
def rawKind (c : Cursor) : String := c.focus.rawKind

/-- The first child. -/
def firstChild? (c : Cursor) : Option Cursor :=
  match c.focus with
  | .node _ [] => none
  | .node l (t :: ts) => some ⟨t, ⟨l, [], ts⟩ :: c.crumbs⟩

/-- The next sibling. -/
def nextSibling? (c : Cursor) : Option Cursor :=
  match c.crumbs with
  | ⟨l, before, t :: after⟩ :: rest => some ⟨t, ⟨l, c.focus :: before, after⟩ :: rest⟩
  | _ => none

/-- The parent. -/
def parent? (c : Cursor) : Option Cursor :=
  match c.crumbs with
  | ⟨l, before, after⟩ :: rest => some ⟨.node l (before.reverse ++ c.focus :: after), rest⟩
  | [] => none

/-- The next sibling of the nearest ancestor that has one. -/
def climb? : List Crumb → Tree → Option Cursor
  | [], _ => none
  | ⟨l, before, after⟩ :: rest, focus =>
    let parent : Cursor := ⟨.node l (before.reverse ++ focus :: after), rest⟩
    match parent.nextSibling? with
    | some c => some c
    | none => climb? rest parent.focus

/-- The next node of the walk. -/
def next? (c : Cursor) : Option Cursor :=
  match c.firstChild? with
  | some d => some d
  | none => match c.nextSibling? with
    | some d => some d
    | none => climb? c.crumbs c.focus

/-- The number of nodes in the siblings after the nodes of a way. -/
def ahead : List Crumb → Nat
  | [] => 0
  | crumb :: rest => Tree.sizeAll crumb.after + ahead rest

/-- The number of nodes from the cursor on. -/
def remaining (c : Cursor) : Nat := c.focus.size + ahead c.crumbs

private theorem remaining_firstChild {c d : Cursor} (h : c.firstChild? = some d) :
    d.remaining < c.remaining := by
  obtain ⟨focus, crumbs⟩ := c
  cases focus with
  | node l cs =>
    cases cs with
    | nil => simp [firstChild?] at h
    | cons t ts =>
      simp only [firstChild?, Option.some.injEq] at h
      subst h
      simp only [remaining, ahead, Tree.size, Tree.sizeAll]
      omega

private theorem remaining_nextSibling {c d : Cursor} (h : c.nextSibling? = some d) :
    d.remaining ≤ ahead c.crumbs := by
  obtain ⟨focus, crumbs⟩ := c
  cases crumbs with
  | nil => simp [nextSibling?] at h
  | cons crumb rest =>
    obtain ⟨l, before, after⟩ := crumb
    cases after with
    | nil => simp [nextSibling?] at h
    | cons t ts =>
      simp only [nextSibling?, Option.some.injEq] at h
      subst h
      simp only [remaining, ahead, Tree.sizeAll]
      omega

private theorem remaining_climb {crumbs : List Crumb} {focus : Tree} {d : Cursor}
    (h : climb? crumbs focus = some d) : d.remaining ≤ ahead crumbs := by
  induction crumbs generalizing focus with
  | nil => simp [climb?] at h
  | cons crumb rest ih =>
    obtain ⟨l, before, after⟩ := crumb
    simp only [climb?] at h
    split at h
    · next c hc =>
      simp only [Option.some.injEq] at h
      subst h
      have := remaining_nextSibling hc
      simp only [ahead] at this ⊢
      omega
    · have := ih h
      simp only [ahead]
      omega

/-- Every step of the walk leaves fewer nodes. -/
theorem remaining_next {c d : Cursor} (h : c.next? = some d) : d.remaining < c.remaining := by
  have size := c.focus.size_pos
  unfold next? at h
  split at h
  · next e he =>
    simp only [Option.some.injEq] at h
    subst h
    exact remaining_firstChild he
  · split at h
    · next e he =>
      simp only [Option.some.injEq] at h
      subst h
      have := remaining_nextSibling he
      simp only [remaining] at this ⊢
      omega
    · have := remaining_climb h
      simp only [remaining] at this ⊢
      omega

/-- The cursors of the walk from a cursor on. -/
def walkFrom (c : Cursor) : List Cursor :=
  match _h : c.next? with
  | some d => c :: walkFrom d
  | none => [c]
termination_by c.remaining
decreasing_by exact remaining_next (by assumption)

end Cursor

/-- The cursors at all nodes, in the order of the walk. -/
def Tree.cursors (t : Tree) : List Cursor := (Cursor.atRoot t).walkFrom

/-- All nodes, in the order of the walk. -/
def Tree.walk (t : Tree) : List Tree := t.cursors.map (·.focus)

end JavaLint
