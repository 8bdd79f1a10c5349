import Mathlib.Data.List.Basic
import Mathlib.Data.Prod.Lex
import Mathlib.Data.String.Basic
import JavaLint.Lint.Linter

/-!
# The order of reports

Reports are sorted by line, column and name of the rule, and reports that agree in all three keep
their order. So a sorted list is known from what it holds of each key (`Sorting.eq_of_pairwise`),
and dropping reports before or after sorting is the same (`Sorting.filter_sortBy`).
-/

namespace JavaLint

/-! ### Stable sorting by a key -/

namespace Sorting

variable {α κ : Type} [LinearOrder κ] (key : α → κ)

/-- The elements by their keys; those of one key keep their order. -/
def sortBy (xs : List α) : List α := xs.mergeSort fun a b => key a ≤ key b

theorem sortBy_perm (xs : List α) : (sortBy key xs).Perm xs := List.mergeSort_perm xs _

private theorem key_le_trans (a b c : α) (hab : decide (key a ≤ key b) = true)
    (hbc : decide (key b ≤ key c) = true) : decide (key a ≤ key c) = true :=
  decide_eq_true (le_trans (of_decide_eq_true hab) (of_decide_eq_true hbc))

private theorem key_le_total (a b : α) :
    (decide (key a ≤ key b) || decide (key b ≤ key a)) = true := by
  rw [Bool.or_eq_true, decide_eq_true_eq, decide_eq_true_eq]
  exact le_total (key a) (key b)

theorem pairwise_sortBy (xs : List α) :
    (sortBy key xs).Pairwise fun a b => key a ≤ key b :=
  (List.pairwise_mergeSort (key_le_trans key) (key_le_total key) xs).imp of_decide_eq_true

/-- Sorting keeps the order within each key. -/
theorem filter_key_sortBy (xs : List α) (k : κ) :
    ((sortBy key xs).filter fun a => key a = k) = xs.filter fun a => key a = k := by
  have hclass : (xs.filter fun a => key a = k).Pairwise fun a b => decide (key a ≤ key b) := by
    refine List.pairwise_of_forall_mem_list fun a ha b hb => decide_eq_true ?_
    have ha := of_decide_eq_true (List.mem_filter.1 ha).2
    have hb := of_decide_eq_true (List.mem_filter.1 hb).2
    exact le_of_eq (ha.trans hb.symm)
  have hsub := (List.sublist_mergeSort (key_le_trans key) (key_le_total key) hclass
    List.filter_sublist).filter fun a => key a = k
  rw [List.filter_filter] at hsub
  simp only [Bool.and_self] at hsub
  refine (hsub.eq_of_length ?_).symm
  exact ((sortBy_perm key xs).filter _).length_eq.symm

/-- Sorted lists that hold the same of each key are equal. -/
theorem eq_of_pairwise {xs ys : List α} (hxs : xs.Pairwise fun a b => key a ≤ key b)
    (hys : ys.Pairwise fun a b => key a ≤ key b)
    (h : ∀ k, (xs.filter fun a => key a = k) = ys.filter fun a => key a = k) : xs = ys := by
  have hmem : ∀ a, a ∈ xs ↔ a ∈ ys := by
    intro a
    have := congrArg (a ∈ ·) (h (key a))
    simpa only [List.mem_filter, decide_true, and_true, eq_iff_iff] using this
  induction xs generalizing ys with
  | nil =>
    refine (List.eq_nil_iff_forall_not_mem.2 fun a ha => ?_).symm
    exact absurd ((hmem a).2 ha) List.not_mem_nil
  | cons x xs ih =>
    cases ys with
    | nil => exact absurd ((hmem x).1 List.mem_cons_self) List.not_mem_nil
    | cons y ys =>
      obtain ⟨hx, hxs'⟩ := List.pairwise_cons.1 hxs
      obtain ⟨hy, hys'⟩ := List.pairwise_cons.1 hys
      have hxy : key x = key y := by
        refine le_antisymm ?_ ?_
        · rcases List.mem_cons.1 ((hmem y).2 List.mem_cons_self) with rfl | hmem
          · exact le_refl _
          · exact hx y hmem
        · rcases List.mem_cons.1 ((hmem x).1 List.mem_cons_self) with rfl | hmem
          · exact le_refl _
          · exact hy x hmem
      -- the first elements are both the first of their key
      have hfirst := h (key x)
      simp only [List.filter_cons, hxy, decide_true, ↓reduceIte] at hfirst
      obtain ⟨rfl, -⟩ := List.cons.inj hfirst
      have hrest : ∀ k, (xs.filter fun a => key a = k) = ys.filter fun a => key a = k := by
        intro k
        have hk := h k
        simp only [List.filter_cons] at hk
        split at hk
        · exact (List.cons.inj hk).2
        · exact hk
      refine congrArg (x :: ·) (ih hxs' hys' hrest fun a => ?_)
      have := congrArg (a ∈ ·) (hrest (key a))
      simpa only [List.mem_filter, decide_true, and_true, eq_iff_iff] using this

/-- Lists that hold the same of each key are sorted alike. -/
theorem sortBy_eq_of_filter_key {xs ys : List α}
    (h : ∀ k, (xs.filter fun a => key a = k) = ys.filter fun a => key a = k) :
    sortBy key xs = sortBy key ys := by
  refine eq_of_pairwise key (pairwise_sortBy key xs) (pairwise_sortBy key ys) fun k => ?_
  rw [filter_key_sortBy, filter_key_sortBy, h]

/-- If no two elements have the same key, all lists of them hold the same of each key. -/
theorem filter_key_eq_of_perm {xs ys : List α} (hperm : xs.Perm ys) (hnodup : (xs.map key).Nodup)
    (k : κ) : (xs.filter fun a => key a = k) = ys.filter fun a => key a = k := by
  -- of two elements with that key one would be repeated, so no order has to be kept
  have halone : ∀ zs : List α, (zs.map key).Nodup →
      (zs.filter fun a => key a = k).Pairwise fun _ _ => False := by
    intro zs hzs
    refine ((List.pairwise_map.1 hzs).filter _).imp_of_mem fun {a b} ha hb hne => hne ?_
    rw [of_decide_eq_true (List.mem_filter.1 ha).2, of_decide_eq_true (List.mem_filter.1 hb).2]
  exact (hperm.filter _).eq_of_pairwise (fun _ _ _ _ h _ => h.elim) (halone xs hnodup)
    (halone ys ((hperm.map key).nodup hnodup))

/-- Dropping elements before or after sorting is the same. -/
theorem filter_sortBy (p : α → Bool) (xs : List α) :
    (sortBy key xs).filter p = sortBy key (xs.filter p) := by
  refine eq_of_pairwise key ((pairwise_sortBy key xs).filter p) (pairwise_sortBy key _) fun k => ?_
  rw [filter_key_sortBy, List.filter_filter, List.filter_filter]
  have hcomm : (fun a => decide (key a = k) && p a) = fun a => p a && decide (key a = k) :=
    funext fun a => Bool.and_comm _ _
  rw [hcomm, ← List.filter_filter, filter_key_sortBy, List.filter_filter]

end Sorting

/-! ### Reports -/

namespace Message

/-- What reports are ordered by: the line, then the column, then the name of the rule. -/
def key (m : Message) : ℕ ×ₗ ℕ ×ₗ String :=
  toLex (m.position.line.val, toLex (m.position.column.val, m.rule))

private theorem compare_oneBased (a b : Text.OneBased) : compare a b = compare a.val b.val := rfl

private theorem compare_position (a b : Text.Position) :
    compare a b = (compare a.line b.line).then (compare a.column b.column) := rfl

theorem le_eq_decide (a b : Message) : a.le b = decide (a.key ≤ b.key) := by
  have hrule : (compare a.rule b.rule).isLE = true ↔ a.rule ≤ b.rule :=
    Ordering.isLE_iff_ne_gt.trans compare_le_iff_le
  rw [Bool.eq_iff_iff, decide_eq_true_eq, le, key, key, compare_position, compare_oneBased,
    compare_oneBased, Ordering.then_assoc]
  simp only [Ordering.isLE_then_iff_or, Prod.Lex.toLex_le_toLex, compare_lt_iff_lt,
    compare_eq_iff_eq, hrule]

/-- The reports in order. -/
def sort (ms : List Message) : List Message := Sorting.sortBy key ms

theorem mergeSort_le (ms : List Message) : ms.mergeSort le = sort ms := by
  rw [sort, Sorting.sortBy, funext₂ le_eq_decide]

/-- Reports are sorted alike if they are the same, in the same order, for each rule. -/
theorem sort_eq_of_filter_rule {ms ms' : List Message}
    (h : ∀ name, (ms.filter fun m => m.rule = name) = ms'.filter fun m => m.rule = name) :
    sort ms = sort ms' := by
  refine Sorting.sortBy_eq_of_filter_key key fun k => ?_
  -- the key tells the rule
  have hrule : ∀ m : Message, m.key = k → m.rule = (ofLex (ofLex k).2).2 := by
    rintro m rfl
    rfl
  have hkey : (fun m : Message => decide (m.key = k)) =
      fun m => decide (m.key = k) && decide (m.rule = (ofLex (ofLex k).2).2) := by
    funext m
    by_cases hm : m.key = k
    · rw [decide_eq_true hm, decide_eq_true (hrule m hm), Bool.and_self]
    · rw [decide_eq_false hm, Bool.false_and]
  rw [hkey, ← List.filter_filter, ← List.filter_filter, h]

end Message

end JavaLint
