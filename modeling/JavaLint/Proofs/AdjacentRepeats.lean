import Mathlib.Data.ENat.Lattice
import JavaLint.Proofs.KeywordOrder

/-!
# Keywords that repeat the one before

The order can also be read so that a keyword which is found keeps its slot: the place in the table
advances to the slot of each keyword and stays there, and the first keyword for which it runs to the
end of the table is missing (`Modifier.firstMissing?`). Read so, a keyword may follow itself, while
the search of this library moves behind the slot and finds no keyword twice.

The two searches stand side by side (`Modifier.Abreast`): the slots that are left to the one start
behind the place of the other. A keyword that differs from the one before is found by both or by
neither, and a repeated one by the second search only. Main statement: the index at which a keyword
is out of order is the smaller one of the index at which a keyword is missing and of the first index
with the keyword of the index before (`Modifier.index_firstMisplaced?_eq_min`).
-/

namespace JavaLint.Modifier

/-- Advances a place in the table until the keyword stands there or the end is reached. -/
def advance (keyword : String) (place : Nat) : Nat :=
  if place < table.length ∧ table[place]? ≠ some keyword then advance keyword (place + 1)
  else place
termination_by table.length - place

variable {α : Type}

/-- The first of some tokens for which the place runs to the end of the table. It stays at the slot
of each keyword that is found. -/
def firstMissingFrom (keyword : α → String) (place : Nat) : List α → Option α
  | [] => none
  | t :: rest =>
    if advance (keyword t) place < table.length then
      firstMissingFrom keyword (advance (keyword t) place) rest
    else some t

/-- The first of some tokens whose keyword is missing in the table from the slot of the one before
on. -/
def firstMissing? (keyword : α → String) (tokens : List α) : Option α :=
  firstMissingFrom keyword 0 tokens

/-! ### Indices -/

/-- The index of a numbered token; infinite if there is none. -/
def index (t? : Option (α × Nat)) : ℕ∞ := t?.elim ⊤ fun t => (t.2 : ℕ∞)

/-- The keyword before an index. -/
def previous? (keywords : List String) : Nat → Option String
  | 0 => none
  | i + 1 => keywords[i]?

/-- The keyword at the index is the one before it. -/
def RepeatsAt (keywords : List String) (i : Nat) : Prop :=
  ∃ w, previous? keywords i = some w ∧ keywords[i]? = some w

/-- The first index whose keyword is the one before it; infinite if there is none. -/
noncomputable def firstRepeat (keywords : List String) : ℕ∞ :=
  ⨅ (i : ℕ) (_ : RepeatsAt keywords i), (i : ℕ∞)

theorem le_firstRepeat {keywords : List String} {n : Nat}
    (h : ∀ i < n, ¬ RepeatsAt keywords i) : (n : ℕ∞) ≤ firstRepeat keywords := by
  refine le_iInf₂ fun i hi => Nat.cast_le.2 ?_
  by_contra hlt
  exact h i (not_le.1 hlt) hi

theorem firstRepeat_eq {keywords : List String} {n : Nat} (hn : RepeatsAt keywords n)
    (h : ∀ i < n, ¬ RepeatsAt keywords i) : firstRepeat keywords = n :=
  le_antisymm (iInf₂_le n hn) (le_firstRepeat h)

theorem firstRepeat_eq_top_iff {keywords : List String} :
    firstRepeat keywords = ⊤ ↔ ∀ i, ¬ RepeatsAt keywords i := by
  simp only [firstRepeat, iInf_eq_top, ENat.natCast_ne_top, imp_false]

/-- No keyword repeats the one before exactly if neighbours differ. -/
theorem firstRepeat_eq_top_iff_isChain {keywords : List String} :
    firstRepeat keywords = ⊤ ↔ keywords.IsChain (· ≠ ·) := by
  rw [firstRepeat_eq_top_iff, List.isChain_iff_getElem]
  constructor
  · intro h i hi heq
    exact h (i + 1) ⟨keywords[i], List.getElem?_eq_getElem _, by
      rw [heq, List.getElem?_eq_getElem]⟩
  · rintro h (_ | i) ⟨w, hprevious, hw⟩
    · exact absurd hprevious.symm (Option.some_ne_none w)
    · obtain ⟨hi, rfl⟩ := List.getElem?_eq_some_iff.1 hw
      obtain ⟨hi', heq⟩ := List.getElem?_eq_some_iff.1 hprevious
      exact h i hi heq

/-! ### One step of both searches -/

/-- No slot is left behind those that a keyword is not among. -/
theorem after?_eq_none_iff {slots : List String} {keyword : String} :
    after? slots keyword = none ↔ keyword ∉ slots := by
  induction slots with
  | nil => simp [after?]
  | cons s slots ih =>
    rw [after?, List.mem_cons]
    split
    · rename_i hs
      simp [hs]
    · rename_i hs
      rw [ih, not_or]
      exact (and_iff_right fun h => hs h.symm).symm

theorem advance_of_getElem? {keyword : String} {place : Nat} (h : table[place]? = some keyword) :
    advance keyword place = place := by
  rw [advance, if_neg fun hmore => hmore.2 h]

/-- From a slot of another keyword the place goes on. -/
theorem advance_of_ne {keyword v : String} {place : Nat} (h : table[place]? = some v)
    (hv : v ≠ keyword) : advance keyword place = advance keyword (place + 1) := by
  have hlt := (List.getElem?_eq_some_iff.1 h).1
  rw [advance, if_pos ⟨hlt, by rwa [h, ne_eq, Option.some.injEq]⟩]

/-- The place comes to the slot that the other search finds, or both find none. -/
theorem advance_cases (keyword : String) {place : Nat} (hplace : place ≤ table.length) :
    (after? (table.drop place) keyword = none ∧ advance keyword place = table.length) ∨
      (table[advance keyword place]? = some keyword ∧
        after? (table.drop place) keyword = some (table.drop (advance keyword place + 1))) := by
  induction hleft : table.length - place generalizing place with
  | zero =>
    have hend : place = table.length := by omega
    subst hend
    refine .inl ⟨by rw [List.drop_length, after?], ?_⟩
    rw [advance, if_neg fun hmore => Nat.lt_irrefl _ hmore.1]
  | succ left ih =>
    have hlt : place < table.length := by omega
    have hslot : table[place]? = some table[place] := List.getElem?_eq_getElem hlt
    rw [List.drop_eq_getElem_cons hlt, after?]
    split
    · rename_i hhere
      rw [hhere] at hslot
      rw [advance_of_getElem? hslot]
      exact .inr ⟨hslot, rfl⟩
    · rename_i hother
      rw [advance_of_ne hslot hother]
      exact ih (by omega) (by omega)

/-- The slots that are left to the first search start behind the place of the second one, which
stands on the last keyword. At the start there is no last keyword, and all slots are left. -/
inductive Abreast : Option String → List String → Nat → Prop
  | start : Abreast none table 0
  | behind {w : String} {place : Nat} (h : table[place]? = some w) :
    Abreast (some w) (table.drop (place + 1)) place

namespace Abreast

variable {last? : Option String} {slots : List String} {place : Nat} {keyword : String}

/-- A keyword that repeats the last one is found by the second search only. -/
theorem of_repeat (h : Abreast (some keyword) slots place) :
    after? slots keyword = none ∧ advance keyword place < table.length ∧
      advance keyword place = place := by
  cases h with
  | behind h =>
    obtain ⟨hlt, hkeyword⟩ := List.getElem?_eq_some_iff.1 h
    have hnodup := nodup_table.sublist (List.drop_sublist place table)
    rw [List.drop_eq_getElem_cons hlt, hkeyword, List.nodup_cons] at hnodup
    rw [advance_of_getElem? h]
    exact ⟨after?_eq_none_iff.2 hnodup.1, hlt, rfl⟩

/-- Another keyword is found by neither search, or by both, which then stand side by side again. -/
theorem of_ne (h : Abreast last? slots place) (hother : last? ≠ some keyword) :
    (after? slots keyword = none ∧ ¬ advance keyword place < table.length) ∨
      ∃ left, after? slots keyword = some left ∧ advance keyword place < table.length ∧
        Abreast (some keyword) left (advance keyword place) := by
  have hcases : ∃ p ≤ table.length, slots = table.drop p ∧
      advance keyword place = advance keyword p := by
    cases h with
    | start => exact ⟨0, Nat.zero_le _, rfl, rfl⟩
    | behind h =>
      have hlt := (List.getElem?_eq_some_iff.1 h).1
      exact ⟨place + 1, hlt, rfl, advance_of_ne h fun heq => hother (congrArg some heq)⟩
  obtain ⟨p, hp, rfl, hadvance⟩ := hcases
  rw [hadvance]
  rcases advance_cases keyword hp with ⟨hnone, hend⟩ | ⟨hslot, hleft⟩
  · exact .inl ⟨hnone, hend ▸ Nat.lt_irrefl _⟩
  · exact .inr ⟨_, hleft, (List.getElem?_eq_some_iff.1 hslot).1, .behind hslot⟩

end Abreast

/-! ### Whole sequences -/

variable {keyword : α → String} {tokens : List α}

theorem mem_of_firstMissingFrom {place : Nat} {t : α}
    (h : firstMissingFrom keyword place tokens = some t) : t ∈ tokens := by
  induction tokens generalizing place with
  | nil => exact absurd h.symm (Option.some_ne_none t)
  | cons u rest ih =>
    rw [firstMissingFrom] at h
    split at h
    · exact List.mem_cons_of_mem u (ih h)
    · exact Option.some.inj h ▸ List.mem_cons_self

/-- A missing token stands at the number where the tokens start, or behind. -/
theorem le_index_firstMissingFrom (keyword : α × Nat → String) (tokens : List α)
    (place n : Nat) :
    (n : ℕ∞) ≤ index (firstMissingFrom keyword place (tokens.zipIdx n)) := by
  cases h : firstMissingFrom keyword place (tokens.zipIdx n) with
  | none => exact le_top
  | some t => exact Nat.cast_le.2 (List.le_snd_of_mem_zipIdx (mem_of_firstMissingFrom h))

/-- The searches side by side, from a number on before which no keyword repeats the one before. -/
theorem Abreast.index_eq_min {keywords : List String} {slots : List String} {place n : Nat}
    (h : Abreast (previous? keywords n) slots place)
    (hrest : keywords.drop n = tokens.map keyword) (hbefore : ∀ i < n, ¬ RepeatsAt keywords i) :
    index (firstMisplacedFrom (fun t => keyword t.1) slots (tokens.zipIdx n)) =
      min (index (firstMissingFrom (fun t => keyword t.1) place (tokens.zipIdx n)))
        (firstRepeat keywords) := by
  induction tokens generalizing slots place n with
  | nil =>
    have hlength : keywords.length ≤ n := List.drop_eq_nil_iff.1 hrest
    have hnone : firstRepeat keywords = ⊤ := firstRepeat_eq_top_iff.2 fun i hi => by
      have hlt := (List.getElem?_eq_some_iff.1 hi.choose_spec.2).1
      exact hbefore i (by omega) hi
    rw [hnone, min_top_right]
    rfl
  | cons t rest ih =>
    have hkeyword : keywords[n]? = some (keyword t) := by
      rw [← List.head?_drop, hrest, List.map_cons, List.head?_cons]
    have hrest' : keywords.drop (n + 1) = rest.map keyword := by
      rw [← List.tail_drop, hrest, List.map_cons, List.tail_cons]
    rw [List.zipIdx_cons, firstMisplacedFrom, firstMissingFrom]
    by_cases hlast : previous? keywords n = some (keyword t)
    · -- the keyword repeats: only the second search goes on, and reports a later token
      rw [hlast] at h
      obtain ⟨hnone, hlt, -⟩ := h.of_repeat
      have hlater := le_index_firstMissingFrom (fun t => keyword t.1) rest
        (advance (keyword t) place) (n + 1)
      rw [hnone, if_pos hlt, firstRepeat_eq ⟨_, hlast, hkeyword⟩ hbefore, min_eq_right]
      · rfl
      · exact le_trans (Nat.cast_le.2 (Nat.le_succ n)) hlater
    · have hbefore' : ∀ i < n + 1, ¬ RepeatsAt keywords i := by
        intro i hi
        rcases Nat.lt_succ_iff_lt_or_eq.1 hi with hi | rfl
        · exact hbefore i hi
        · rintro ⟨w, hprevious, hw⟩
          exact hlast (hprevious.trans (hw.symm.trans hkeyword))
      rcases h.of_ne hlast with ⟨hnone, hend⟩ | ⟨left, hleft, hlt, hnext⟩
      · rw [hnone, if_neg hend]
        exact (min_eq_left (le_firstRepeat hbefore)).symm
      · rw [hleft, if_pos hlt]
        rw [← hkeyword] at hnext
        exact ih hnext hrest' hbefore'

/-! ### Numbered tokens -/

theorem firstMisplacedFrom_map {β : Type} (keyword : α → String) (f : β → α)
    (slots : List String) (tokens : List β) :
    firstMisplacedFrom keyword slots (tokens.map f) =
      (firstMisplacedFrom (fun t => keyword (f t)) slots tokens).map f := by
  induction tokens generalizing slots with
  | nil => rfl
  | cons t rest ih =>
    rw [List.map_cons, firstMisplacedFrom, firstMisplacedFrom]
    cases after? slots (keyword (f t)) with
    | none => rfl
    | some left => exact ih left

theorem firstMissingFrom_map {β : Type} (keyword : α → String) (f : β → α) (place : Nat)
    (tokens : List β) :
    firstMissingFrom keyword place (tokens.map f) =
      (firstMissingFrom (fun t => keyword (f t)) place tokens).map f := by
  induction tokens generalizing place with
  | nil => rfl
  | cons t rest ih =>
    rw [List.map_cons, firstMissingFrom, firstMissingFrom]
    split
    · exact ih _
    · rfl

theorem mem_of_firstMisplacedFrom {slots : List String} {t : α}
    (h : firstMisplacedFrom keyword slots tokens = some t) : t ∈ tokens := by
  induction tokens generalizing slots with
  | nil => exact absurd h.symm (Option.some_ne_none t)
  | cons u rest ih =>
    rw [firstMisplacedFrom] at h
    split at h
    · exact List.mem_cons_of_mem u (ih h)
    · exact Option.some.inj h ▸ List.mem_cons_self

/-- Numbered tokens of one index are the same. -/
theorem eq_of_index_eq {t? u? : Option (α × Nat)} (ht : ∀ t ∈ t?, t ∈ tokens.zipIdx)
    (hu : ∀ u ∈ u?, u ∈ tokens.zipIdx) (h : index t? = index u?) : t? = u? := by
  cases t? with
  | none =>
    cases u? with
    | none => rfl
    | some u => exact absurd h.symm (ENat.natCast_ne_top u.2)
  | some t =>
    cases u? with
    | none => exact absurd h (ENat.natCast_ne_top t.2)
    | some u =>
      have hsame : t.2 = u.2 := Nat.cast_injective h
      have ht := List.mem_zipIdx_iff_getElem?.1 (ht t rfl)
      have hu := List.mem_zipIdx_iff_getElem?.1 (hu u rfl)
      rw [hsame, hu, Option.some.injEq] at ht
      exact congrArg some (Prod.ext ht.symm hsame)

/-- Numbering the tokens does not change what the two searches find. The index at which a keyword is
out of order is the smaller one of two: the index at which a keyword is missing where found keywords
keep their slots, and the first index with the keyword of the index before. So where neighbours
differ, both searches find the same. -/
theorem index_firstMisplaced?_eq_min (keyword : α → String) (tokens : List α) :
    ((firstMisplaced? (fun t => keyword t.1) tokens.zipIdx).map (·.1) =
        firstMisplaced? keyword tokens ∧
      (firstMissing? (fun t => keyword t.1) tokens.zipIdx).map (·.1) =
        firstMissing? keyword tokens) ∧
    index (firstMisplaced? (fun t => keyword t.1) tokens.zipIdx) =
      min (index (firstMissing? (fun t => keyword t.1) tokens.zipIdx))
        (firstRepeat (tokens.map keyword)) ∧
    ((tokens.map keyword).IsChain (· ≠ ·) →
      firstMisplaced? keyword tokens = firstMissing? keyword tokens) := by
  have hmisplaced := firstMisplacedFrom_map keyword Prod.fst table tokens.zipIdx
  have hmissing := firstMissingFrom_map keyword Prod.fst 0 tokens.zipIdx
  rw [List.zipIdx_map_fst] at hmisplaced hmissing
  have hstart : Abreast (previous? (tokens.map keyword) 0) table 0 := .start
  have hmin : index (firstMisplaced? (fun t => keyword t.1) tokens.zipIdx) =
      min (index (firstMissing? (fun t => keyword t.1) tokens.zipIdx))
        (firstRepeat (tokens.map keyword)) :=
    hstart.index_eq_min List.drop_zero fun i hi => absurd hi (Nat.not_lt_zero i)
  refine ⟨⟨hmisplaced.symm, hmissing.symm⟩, hmin, fun hchain => ?_⟩
  rw [firstRepeat_eq_top_iff_isChain.2 hchain, min_top_right] at hmin
  have hsame := eq_of_index_eq (fun t ht => mem_of_firstMisplacedFrom ht)
    (fun t ht => mem_of_firstMissingFrom ht) hmin
  rw [firstMisplaced?, firstMissing?, hmisplaced, hmissing]
  exact congrArg (Option.map Prod.fst) hsame

/-- Both searches stop at a keyword that belongs before the one in front of it. -/
theorem index_firstMisplaced?_eq_min_sample :
    ["final", "static", "final"].IsChain (· ≠ ·) ∧
      firstMisplaced? id ["final", "static", "final"] =
        firstMissing? id ["final", "static", "final"] :=
  ⟨by decide, (index_firstMisplaced?_eq_min id ["final", "static", "final"]).2.2 (by decide)⟩

example : firstMisplaced? id ["public", "public"] = some "public" ∧
    firstMissing? id ["public", "public"] = none := by
  decide +kernel

end JavaLint.Modifier
