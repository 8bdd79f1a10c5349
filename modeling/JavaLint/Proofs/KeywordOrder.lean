import Mathlib.Data.List.Sort
import Mathlib.Order.Bounds.Basic
import Mathlib.Order.Nat
import JavaLint.Proofs.TableSearch

/-!
# The first keyword out of order

Keywords keep the suggested order when they are a sublist of the table, that is when all of them are
in the table and their places there increase. The search takes for each keyword the first slot that
is left and never comes back to a slot that it has passed. Taking the first one costs nothing: if the
keywords can be found in the slots at all, then the later ones can be found behind the first slot of
the first one (`Modifier.cons_sublist_iff_after?`).

Main statement: the search finds every keyword exactly if the keywords keep the order, and otherwise
stops at the first one with which they do not (`Modifier.firstMisplaced?_firstBreak`).
-/

namespace JavaLint.Modifier

/-- The keyword at the index is the first with which the keywords are no sublist of the table. -/
def FirstBreak (keywords : List String) (k : Nat) : Prop :=
  IsLeast {i | i < keywords.length ∧ ¬ (keywords.take (i + 1)).Sublist table} k

/-! ### The search -/

/-- Keywords can be found in the slots if the first one can, and the others behind its first slot. -/
theorem cons_sublist_iff_after? {slots : List String} {keyword : String} {rest : List String} :
    (keyword :: rest).Sublist slots ↔
      ∃ left, after? slots keyword = some left ∧ rest.Sublist left := by
  induction slots with
  | nil => simp [after?]
  | cons s slots ih =>
    by_cases hs : s = keyword
    · subst hs
      rw [after?, if_pos rfl, List.cons_sublist_cons]
      simp only [Option.some.injEq, exists_eq_left']
    · rw [after?, if_neg hs, ← ih]
      constructor
      · rintro (h | h)
        · assumption
        · exact absurd rfl hs
      · exact List.Sublist.cons s

variable {α : Type} {keyword : α → String} {slots : List String}

/-- The search finds all keywords that can be found one after the other. -/
theorem firstMisplacedFrom_eq_none_iff {tokens : List α} :
    firstMisplacedFrom keyword slots tokens = none ↔ (tokens.map keyword).Sublist slots := by
  induction tokens generalizing slots with
  | nil => simp [firstMisplacedFrom]
  | cons t rest ih =>
    rw [List.map_cons, cons_sublist_iff_after?, firstMisplacedFrom]
    cases after? slots (keyword t) with
    | none => simp
    | some left => simp [ih]

/-- The search stops where the keywords can no longer be found one after the other, and does not
look at what is behind. -/
theorem firstMisplacedFrom_append_cons {before : List α} {t : α} (later : List α)
    (hbefore : (before.map keyword).Sublist slots)
    (hbreak : ¬ ((before ++ [t]).map keyword).Sublist slots) :
    firstMisplacedFrom keyword slots (before ++ t :: later) = some t := by
  induction before generalizing slots with
  | nil =>
    rw [List.nil_append, List.map_singleton, cons_sublist_iff_after?] at hbreak
    rw [List.nil_append, firstMisplacedFrom]
    cases hleft : after? slots (keyword t) with
    | none => rfl
    | some left => exact absurd ⟨left, hleft, List.nil_sublist left⟩ hbreak
  | cons b before ih =>
    rw [List.map_cons, cons_sublist_iff_after?] at hbefore
    obtain ⟨left, hleft, hbefore⟩ := hbefore
    rw [List.cons_append, List.map_cons, cons_sublist_iff_after?] at hbreak
    rw [List.cons_append, firstMisplacedFrom, hleft]
    exact ih hbefore fun h => hbreak ⟨left, hleft, h⟩

/-! ### Places in the table -/

/-- In a list without repeats, sublists are what is in it at increasing places. -/
theorem sublist_iff_pairwise_idxOf {slots keywords : List String} (hslots : slots.Nodup) :
    keywords.Sublist slots ↔ (∀ w ∈ keywords, w ∈ slots) ∧
      keywords.Pairwise fun v w => slots.idxOf v < slots.idxOf w := by
  have hplaces : slots.Pairwise fun v w => slots.idxOf v < slots.idxOf w := by
    rw [List.pairwise_iff_getElem]
    intro i j hi hj hij
    rwa [hslots.idxOf_getElem, hslots.idxOf_getElem]
  refine ⟨fun h => ⟨fun w hw => h.subset hw, hplaces.sublist h⟩, fun ⟨hmem, hkeywords⟩ => ?_⟩
  have hnodup : keywords.Nodup := hkeywords.imp fun {v w} hlt heq => by
    rw [heq] at hlt
    exact Nat.lt_irrefl _ hlt
  exact List.sublist_of_subperm_of_pairwise (List.subperm_of_subset hnodup hmem) hkeywords hplaces

theorem nodup_table : table.Nodup := by decide

/-! ### The first break -/

/-- Keywords that do not keep the order have a first one with which they do not. -/
theorem exists_firstBreak {keywords : List String} (h : ¬ keywords.Sublist table) :
    ∃ k, FirstBreak keywords k := by
  have hbreaks : ∃ i, i < keywords.length ∧ ¬ (keywords.take (i + 1)).Sublist table := by
    have hpos : 0 < keywords.length := by
      rw [List.length_pos_iff]
      rintro rfl
      exact h (List.nil_sublist table)
    refine ⟨keywords.length - 1, by omega, ?_⟩
    rwa [List.take_of_length_le (by omega)]
  exact ⟨_, Nat.isLeast_find hbreaks⟩

namespace FirstBreak

variable {keywords : List String} {k : Nat}

/-- What is in front of the first break keeps the order. -/
theorem sublist_take (h : FirstBreak keywords k) : (keywords.take k).Sublist table := by
  obtain ⟨⟨hlt, -⟩, hleast⟩ := h
  cases k with
  | zero => exact List.nil_sublist table
  | succ i =>
    by_contra hi
    have := hleast ⟨by omega, hi⟩
    omega

theorem not_sublist (h : FirstBreak keywords k) : ¬ keywords.Sublist table := fun hsub =>
  h.1.2 ((List.take_sublist (k + 1) keywords).trans hsub)

/-- The search stops at the first break, whatever is behind it. -/
theorem firstMisplaced?_take_append {tokens : List α} {t : α}
    (h : FirstBreak (tokens.map keyword) k) (ht : tokens[k]? = some t) (later : List α) :
    firstMisplaced? keyword (tokens.take (k + 1) ++ later) = some t := by
  have htake : tokens.take (k + 1) = tokens.take k ++ [t] := by
    rw [List.take_add_one, ht, Option.toList_some]
  have hbefore := h.sublist_take
  have hbreak := h.1.2
  rw [← List.map_take] at hbefore hbreak
  rw [htake] at hbreak ⊢
  rw [List.append_assoc, List.singleton_append]
  exact firstMisplacedFrom_append_cons later hbefore hbreak

theorem firstMisplaced?_eq {tokens : List α} {t : α} (h : FirstBreak (tokens.map keyword) k)
    (ht : tokens[k]? = some t) : firstMisplaced? keyword tokens = some t := by
  have hstop := h.firstMisplaced?_take_append ht (tokens.drop (k + 1))
  rwa [List.take_append_drop] at hstop

end FirstBreak

/-- Where keywords break the order: nowhere, or first at an index. -/
def BreaksAt (keywords : List String) : Option Nat → Prop
  | none => keywords.Sublist table
  | some k => FirstBreak keywords k

theorem exists_breaksAt (keywords : List String) : ∃ k?, BreaksAt keywords k? := by
  by_cases h : keywords.Sublist table
  · exact ⟨none, h⟩
  · obtain ⟨k, hk⟩ := exists_firstBreak h
    exact ⟨some k, hk⟩

/-- Keywords break the order at one place only. -/
theorem BreaksAt.unique {keywords : List String} {k? l? : Option Nat} (hk : BreaksAt keywords k?)
    (hl : BreaksAt keywords l?) : k? = l? := by
  cases k? with
  | none =>
    cases l? with
    | none => rfl
    | some l => exact absurd hk hl.not_sublist
  | some k =>
    cases l? with
    | none => exact absurd hl hk.not_sublist
    | some l => exact congrArg some (IsLeast.unique hk hl)

/-- The search finds every keyword exactly if the keywords are a sublist of the table, which they
are if all are in the table and their places increase. Otherwise there is a first keyword with which
they are none; the search stops at the token there, and would do so whatever tokens followed it. The
same search by places never leaves the table. -/
theorem firstMisplaced?_firstBreak (keyword : α → String) (tokens : List α) :
    (firstMisplaced? keyword tokens = none ↔ (tokens.map keyword).Sublist table) ∧
      ((tokens.map keyword).Sublist table ↔ (∀ w ∈ tokens.map keyword, w ∈ table) ∧
        (tokens.map keyword).Pairwise fun v w => table.idxOf v < table.idxOf w) ∧
      ((tokens.map keyword).Sublist table ∨ ∃ k t, FirstBreak (tokens.map keyword) k ∧
        ((tokens.take k).map keyword).Sublist table ∧ tokens[k]? = some t ∧
        firstMisplaced? keyword tokens = some t ∧
        ∀ later, firstMisplaced? keyword (tokens.take (k + 1) ++ later) = some t) ∧
      searchFrom keyword 0 tokens = some (firstMisplaced? keyword tokens) := by
  refine ⟨firstMisplacedFrom_eq_none_iff, sublist_iff_pairwise_idxOf nodup_table, ?_,
    searchFrom_eq keyword (Nat.zero_le _) tokens⟩
  by_cases hsub : (tokens.map keyword).Sublist table
  · exact .inl hsub
  · obtain ⟨k, hk⟩ := exists_firstBreak hsub
    have hlt : k < tokens.length := by simpa using hk.1.1
    have ht : tokens[k]? = some tokens[k] := List.getElem?_eq_getElem hlt
    refine .inr ⟨k, tokens[k], hk, ?_, ht, hk.firstMisplaced?_eq ht,
      hk.firstMisplaced?_take_append ht⟩
    rw [List.map_take]
    exact hk.sublist_take

end JavaLint.Modifier
