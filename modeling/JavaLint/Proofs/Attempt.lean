import Mathlib.Data.List.Forall2

/-!
# Operations that may fail, one after the other

What a sequence of operations answers when each of them has an answer. The statements are used
wherever something is found out for every element of a list and any of the elements could have no
answer.
-/

namespace JavaLint.Attempt

variable {ε α β γ : Type}

theorem bind_ok (a : α) (f : α → Except ε β) : (Except.ok a >>= f) = f a := rfl

theorem pure_eq_ok (a : α) : (pure a : Except ε α) = .ok a := rfl

/-- An answer is known if it is known without its failures, which need not be comparable. -/
theorem eq_ok_of_toOption {x : Except ε α} {a : α} (h : x.toOption = some a) : x = .ok a := by
  cases x with
  | error e => exact nomatch h
  | ok b => exact congrArg Except.ok (Option.some.inj h)

/-- Two operations, one behind the other, have an answer if both have. -/
theorem bind_eq_ok_iff {x : Except ε α} {f : α → Except ε β} {b : β} :
    (x >>= f) = .ok b ↔ ∃ a, x = .ok a ∧ f a = .ok b := by
  cases x with
  | error e =>
    refine iff_of_false (fun h => nomatch h) ?_
    rintro ⟨a, h, -⟩
    exact nomatch h
  | ok a => simp only [bind_ok, Except.ok.injEq, exists_eq_left']

/-- The answers belong to the elements in order. -/
theorem mapM_eq_ok_iff {f : α → Except ε β} {xs : List α} {ys : List β} :
    xs.mapM f = .ok ys ↔ List.Forall₂ (fun x y => f x = .ok y) xs ys := by
  induction xs generalizing ys with
  | nil =>
    rw [List.mapM_nil, List.forall₂_nil_left_iff, pure_eq_ok, Except.ok.injEq]
    exact eq_comm
  | cons x xs ih =>
    rw [List.mapM_cons, List.forall₂_cons_left_iff]
    cases hx : f x with
    | error e =>
      refine iff_of_false (fun h => nomatch h) ?_
      rintro ⟨y, us, h, -⟩
      exact nomatch h
    | ok y =>
      cases hxs : xs.mapM f with
      | error e =>
        refine iff_of_false (fun h => nomatch h) ?_
        rintro ⟨-, us, -, h, -⟩
        rw [← ih, hxs] at h
        exact nomatch h
      | ok us =>
        simp only [bind_ok, pure_eq_ok, Except.ok.injEq, ← ih, hxs, exists_eq_left',
          exists_and_left, eq_comm]

/-- If each element has an answer that is related to it, then so has the list, one for one. -/
theorem exists_mapM_ok_forall₂ {f : α → Except ε β} {R : α → β → Prop} {xs : List α}
    (h : ∀ x ∈ xs, ∃ y, f x = .ok y ∧ R x y) : ∃ ys, xs.mapM f = .ok ys ∧ List.Forall₂ R xs ys := by
  induction xs with
  | nil => exact ⟨[], rfl, .nil⟩
  | cons x xs ih =>
    obtain ⟨y, hy, hR⟩ := h x List.mem_cons_self
    obtain ⟨ys, hys, hRs⟩ := ih fun z hz => h z (List.mem_cons_of_mem x hz)
    exact ⟨y :: ys, mapM_eq_ok_iff.2 (.cons hy (mapM_eq_ok_iff.1 hys)), .cons hR hRs⟩

/-- What is known of related elements one for one is known of the lists. -/
theorem map_eq_map_of_forall₂ {g : β → γ} {g' : α → γ} {xs : List α} {ys : List β}
    (h : List.Forall₂ (fun x y => g y = g' x) xs ys) : ys.map g = xs.map g' := by
  rw [← List.forall₂_eq_eq_eq, List.forall₂_map_left_iff, List.forall₂_map_right_iff]
  exact h.flip

/-- If each element has an answer, and of the answer something is known, then so it is for the list.
-/
theorem exists_mapM_ok_map {f : α → Except ε β} {g : β → γ} {g' : α → γ} {xs : List α}
    (h : ∀ x ∈ xs, ∃ y, f x = .ok y ∧ g y = g' x) :
    ∃ ys, xs.mapM f = .ok ys ∧ ys.map g = xs.map g' := by
  obtain ⟨ys, hys, hg⟩ := exists_mapM_ok_forall₂ h
  exact ⟨ys, hys, map_eq_map_of_forall₂ hg⟩

theorem exists_mapM_ok {f : α → Except ε β} {xs : List α} (h : ∀ x ∈ xs, ∃ y, f x = .ok y) :
    ∃ ys, xs.mapM f = .ok ys := by
  have hunit : ∀ x ∈ xs, ∃ y, f x = .ok y ∧ (fun _ => ()) y = (fun _ => ()) x := fun x hx =>
    (h x hx).imp fun _ hy => ⟨hy, rfl⟩
  obtain ⟨ys, hys, -⟩ := exists_mapM_ok_map hunit
  exact ⟨ys, hys⟩

/-- The answers are those of the elements. -/
theorem mem_of_mapM_ok {f : α → Except ε β} {xs : List α} {ys : List β} (h : xs.mapM f = .ok ys)
    {y : β} : y ∈ ys ↔ ∃ x ∈ xs, f x = .ok y := by
  rw [mapM_eq_ok_iff] at h
  induction h with
  | nil => simp only [List.not_mem_nil, false_and, exists_false]
  | @cons x z xs ys hxz _ ih =>
    simp only [List.mem_cons, ih, exists_eq_or_imp, hxz, Except.ok.injEq]
    exact or_congr_left eq_comm

theorem mapM_eq_ok_map {f : α → Except ε β} {g : α → β} {xs : List α}
    (h : ∀ x ∈ xs, f x = .ok (g x)) : xs.mapM f = .ok (xs.map g) := by
  rw [mapM_eq_ok_iff, List.forall₂_map_right_iff, List.forall₂_same]
  exact h

end JavaLint.Attempt
