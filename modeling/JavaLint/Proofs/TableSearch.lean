import JavaLint.Modifier.Order

/-!
# Searching the table of modifiers by places

The search for modifiers goes on with what is left of the table. The same search can keep a place in
the table, look a keyword up in the slots from there on, and move the place behind the slot that it
finds. Then it has to be known that the place never leaves the table. It does not, and both searches
answer the same (`Modifier.searchFrom_eq`).
-/

namespace JavaLint.Modifier

/-- The slots of the table from a place on. There are none, not even an empty list, for a place
behind the end. -/
def slotsFrom? (place : Nat) : Option (List String) :=
  if place ≤ table.length then some (table.drop place) else none

/-- The first of some tokens whose keyword is not found in the slots from a place on, which moves
behind the slot of each keyword that is found. No answer at all means that the place has left the
table. -/
def searchFrom {α : Type} (keyword : α → String) (place : Nat) : List α → Option (Option α)
  | [] => some none
  | t :: rest =>
    (slotsFrom? place).bind fun slots =>
      match slots.idxOf? (keyword t) with
      | some found => searchFrom keyword (place + (found + 1)) rest
      | none => some (some t)

/-- What is left of the table is what stands behind the first slot of the keyword. -/
theorem after?_eq_map (slots : List String) (keyword : String) :
    after? slots keyword = (slots.idxOf? keyword).map fun i => slots.drop (i + 1) := by
  induction slots with
  | nil => rfl
  | cons s rest ih =>
    by_cases hs : s = keyword
    · have hfound : (s :: rest).idxOf? keyword = some 0 := by simp [List.idxOf?_cons, hs]
      rw [after?, if_pos hs, hfound]
      rfl
    · have hlater : (s :: rest).idxOf? keyword = (rest.idxOf? keyword).map (· + 1) := by
        simp [List.idxOf?_cons, hs]
      rw [after?, if_neg hs, ih, hlater, Option.map_map]
      rfl

/-- The place stays in the table, and the search by places answers what the other one does. -/
theorem searchFrom_eq {α : Type} (keyword : α → String) {place : Nat}
    (hplace : place ≤ table.length) (tokens : List α) :
    searchFrom keyword place tokens =
      some (firstMisplacedFrom keyword (table.drop place) tokens) := by
  induction tokens generalizing place with
  | nil => rfl
  | cons t rest ih =>
    have hslots : slotsFrom? place = some (table.drop place) := if_pos hplace
    rw [searchFrom, hslots, Option.bind_some, firstMisplacedFrom, after?_eq_map]
    cases hfound : (table.drop place).idxOf? (keyword t) with
    | none => rfl
    | some found =>
      have hlt : found < (table.drop place).length := by
        rw [List.idxOf?_eq_some_iff] at hfound
        exact hfound.1
      rw [List.length_drop] at hlt
      simp only [Option.map_some, List.drop_drop]
      exact ih (by omega)

end JavaLint.Modifier
