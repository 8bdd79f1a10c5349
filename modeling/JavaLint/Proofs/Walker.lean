import JavaLint.Proofs.Addresses

/-!
# A walk as a sequence of calls

A walker is called again and again. It answers the place where its cursor stands, but before that it
has already moved the cursor on: to the first child, else to the next sibling, else up, parent by
parent, until there is a next sibling or no parent is left. After that it answers nothing.

What one call does is said by relations, so that a loop that never ended would have no outcome. What
a call answers is the head of what is left of the walk, and the tail is left after it
(`Walker.Calls.rest_eq`). Main statement: calls always come back, and their answers are the places
of the tree in the order of their addresses, each once, and then nothing
(`Walker.runs_ofTree`).
-/

namespace JavaLint

namespace Cursor

/-- The rounds of climbing: up to the parent, and on to its next sibling if it has one. Without a
parent the walk is done. -/
inductive Climbs : Cursor → Nat → Cursor → Bool → Prop
  | top {c : Cursor} (hparent : c.parent? = none) : Climbs c 1 c true
  | found {c p d : Cursor} (hparent : c.parent? = some p) (hsibling : p.nextSibling? = some d) :
      Climbs c 1 d false
  | further {c p d : Cursor} {rounds : Nat} {done : Bool} (hparent : c.parent? = some p)
      (hsibling : p.nextSibling? = none) (hclimb : Climbs p rounds d done) :
      Climbs c (rounds + 1) d done

/-- Climbing ends after at most one round for every node above the cursor and one more. -/
theorem exists_climbs (c : Cursor) :
    ∃ rounds d done, c.Climbs rounds d done ∧ rounds ≤ c.crumbs.length + 1 := by
  obtain ⟨focus, crumbs⟩ := c
  induction crumbs generalizing focus with
  | nil => exact ⟨1, _, true, .top rfl, Nat.le_refl 1⟩
  | cons k way ih =>
    let p : Cursor := ⟨.node k.label (k.before.reverse ++ focus :: k.after), way⟩
    have hparent : parent? ⟨focus, k :: way⟩ = some p := rfl
    cases hsibling : p.nextSibling? with
    | some d => exact ⟨1, d, false, .found hparent hsibling, by simp⟩
    | none =>
      obtain ⟨rounds, d, done, hclimb, hle⟩ := ih p.focus
      exact ⟨rounds + 1, d, done, .further hparent hsibling hclimb, by simpa using hle⟩

theorem climb?_of_parent {c p : Cursor} (h : c.parent? = some p) :
    climb? c.crumbs c.focus = p.leave? := by
  obtain ⟨focus, crumbs⟩ := c
  cases crumbs with
  | nil => exact nomatch h
  | cons k way =>
    obtain rfl := Option.some.inj h
    rfl

/-- Climbing ends where the walk goes on, or the walk is done. -/
theorem Climbs.climb?_eq {c d : Cursor} {rounds : Nat} {done : Bool} (h : c.Climbs rounds d done) :
    climb? c.crumbs c.focus = if done then none else some d := by
  induction h with
  | @top c hparent =>
    obtain ⟨focus, crumbs⟩ := c
    cases crumbs with
    | nil => rfl
    | cons k way => exact nomatch hparent
  | found hparent hsibling =>
    rw [climb?_of_parent hparent, leave?, hsibling]
    rfl
  | further hparent hsibling _ ih =>
    rw [climb?_of_parent hparent, leave?, hsibling]
    exact ih

end Cursor

/-- What calls go on from: the cursor, and whether the walk is done. -/
structure Walker where
  cursor : Cursor
  done : Bool

namespace Walker

/-- A walker that has not been called, at the root of a tree. -/
def ofTree (t : Tree) : Walker := ⟨.atRoot t, false⟩

/-- One call with its answer. -/
inductive Calls : Walker → Option Cursor → Walker → Prop
  | ended {c : Cursor} : Calls ⟨c, true⟩ none ⟨c, true⟩
  | child {c d : Cursor} (hchild : c.firstChild? = some d) : Calls ⟨c, false⟩ (some c) ⟨d, false⟩
  | sibling {c d : Cursor} (hchild : c.firstChild? = none) (hsibling : c.nextSibling? = some d) :
      Calls ⟨c, false⟩ (some c) ⟨d, false⟩
  | climb {c d : Cursor} {rounds : Nat} {done : Bool} (hchild : c.firstChild? = none)
      (hsibling : c.nextSibling? = none) (hclimb : c.Climbs rounds d done) :
      Calls ⟨c, false⟩ (some c) ⟨d, done⟩

/-- Several calls, one after the other, with their answers. -/
inductive Runs : Walker → List (Option Cursor) → Walker → Prop
  | nil {w : Walker} : Runs w [] w
  | cons {w w' w'' : Walker} {a : Option Cursor} {as : List (Option Cursor)} (hcall : w.Calls a w')
      (hruns : Runs w' as w'') : Runs w (a :: as) w''

/-- Every call comes back. -/
theorem exists_calls (w : Walker) : ∃ a w', w.Calls a w' := by
  obtain ⟨c, done⟩ := w
  cases done with
  | true => exact ⟨none, _, .ended⟩
  | false =>
    cases hchild : c.firstChild? with
    | some d => exact ⟨some c, _, .child hchild⟩
    | none =>
      cases hsibling : c.nextSibling? with
      | some d => exact ⟨some c, _, .sibling hchild hsibling⟩
      | none =>
        obtain ⟨rounds, d, done, hclimb, -⟩ := c.exists_climbs
        exact ⟨some c, _, .climb hchild hsibling hclimb⟩

theorem exists_runs (w : Walker) (n : Nat) : ∃ as w', as.length = n ∧ w.Runs as w' := by
  induction n generalizing w with
  | zero => exact ⟨[], w, rfl, .nil⟩
  | succ n ih =>
    obtain ⟨a, w', hcall⟩ := w.exists_calls
    obtain ⟨as, w'', hlength, hruns⟩ := ih w'
    exact ⟨a :: as, w'', congrArg (· + 1) hlength, .cons hcall hruns⟩

/-- What is left of the walk. -/
def rest (w : Walker) : List Cursor := if w.done then [] else w.cursor.walkFrom

/-- A call answers the next place that is left, if there is one, and leaves the others. -/
theorem Calls.rest_eq {w w' : Walker} {a : Option Cursor} (h : w.Calls a w') :
    a = w.rest.head? ∧ w'.rest = w.rest.tail := by
  cases h with
  | ended => exact ⟨rfl, rfl⟩
  | child hchild =>
    simp only [rest, Bool.false_eq_true, if_false, Cursor.walkFrom_of_firstChild hchild]
    exact ⟨rfl, rfl⟩
  | sibling hchild hsibling =>
    simp only [rest, Bool.false_eq_true, if_false, Cursor.walkFrom_of_no_child hchild,
      Cursor.onward, Cursor.leave?, hsibling]
    exact ⟨rfl, rfl⟩
  | @climb c d rounds done hchild hsibling hclimb =>
    simp only [rest, Bool.false_eq_true, if_false, Cursor.walkFrom_of_no_child hchild,
      Cursor.onward, Cursor.leave?, hsibling, hclimb.climb?_eq]
    cases done with
    | true => exact ⟨rfl, rfl⟩
    | false => exact ⟨rfl, rfl⟩

/-- The answers of several calls are what is left of the walk, and then nothing. -/
theorem Runs.getElem?_eq {w w' : Walker} {as : List (Option Cursor)} (h : w.Runs as w') {i : Nat}
    (hi : i < as.length) : as[i]? = some w.rest[i]? := by
  induction h generalizing i with
  | nil => exact absurd hi (Nat.not_lt_zero i)
  | cons hcall _ ih =>
    obtain ⟨rfl, hrest⟩ := hcall.rest_eq
    cases i with
    | zero => rw [List.getElem?_cons_zero, List.head?_eq_getElem?]
    | succ i =>
      rw [List.getElem?_cons_succ, ih (Nat.lt_of_succ_lt_succ hi), hrest, List.getElem?_tail]

/-- However often a walker at the root of a tree is called, every call comes back, its climb after no
more rounds than nodes lie above the cursor and one more. The answers are the cursors of the walk in
turn, and nothing after the last. These stand at the nodes as they are listed by recursion, each
before those below it; in the order of their addresses, so that none comes twice; and at every
address of the tree, at the node that it has there. From each of them the cursor moves to its first
child, its next sibling and its parent exactly if the tree has a node there. -/
theorem runs_ofTree (t : Tree) :
    (∀ n, ∃ as w, as.length = n ∧ (ofTree t).Runs as w) ∧
      (∀ c : Cursor, ∃ rounds d done, c.Climbs rounds d done ∧ rounds ≤ c.crumbs.length + 1) ∧
      (∀ as w, (ofTree t).Runs as w → ∀ i < as.length, as[i]? = some t.cursors[i]?) ∧
      t.cursors.map (·.focus) = t.nodes ∧
      (t.cursors.map (·.address)).Pairwise (· < ·) ∧
      (∀ p u, (∃ c ∈ t.cursors, c.address = p ∧ c.focus = u) ↔ t.at? p = some u) ∧
      ∀ c ∈ t.cursors, c.MovesIn t := by
  refine ⟨(ofTree t).exists_runs, Cursor.exists_climbs, fun as w h i => h.getElem?_eq, ?_⟩
  rw [t.cursors_eq_places]
  exact ⟨t.map_focus_places, t.pairwise_address, fun p u => Tree.exists_place_iff,
    fun c hc => Tree.movesIn hc⟩

end Walker

end JavaLint
