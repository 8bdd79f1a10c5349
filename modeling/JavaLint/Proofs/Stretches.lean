import Mathlib.Data.List.Induction
import Mathlib.Data.List.Nodup
import JavaLint.Lint.Suppression
import JavaLint.Proofs.Attempt

/-!
# Silent stretches between comments

The silent stretches of a filter are found by going once through the comments and keeping, for each
key, where a stretch has started. What that comes to is said without the table of started stretches
(`CommentFilter.SilentAt`): an offset is silent when some comment at or before it turns the key off
and every comment from that one on that turns it on stands behind the offset.

The invariant of the pass (`Suppressions.exists_foldlM_note`) says that the stretches found so far
cover exactly the offsets that are silent after the comments seen so far; a comment adds to them by
starting a stretch (`Suppressions.Stretches.covers_start`) and cuts them off by ending one
(`Suppressions.Stretches.exists_stop`). The order in which stretches that no comment ends are
visited does not show (`Suppressions.exists_ofFilter`).
-/

namespace JavaLint

open JavaLint.Text

/-- Among some comments, each with its start and its text, one turns the key off no later than at
the offset, and those from that one on that turn the key on start behind the offset. In one comment
turning off counts before turning on. -/
def CommentFilter.SilentAt (f : CommentFilter) (comments : List (Nat × String)) (key : RuleKey)
    (o : Nat) : Prop :=
  ∃ (i : Nat) (c : Nat × String), comments[i]? = some c ∧ f.offKey? c.2 = some key ∧ c.1 ≤ o ∧
    ∀ (j : Nat) (d : Nat × String), i ≤ j → comments[j]? = some d →
      f.onKey? d.2 = some key → o < d.1

private theorem getElem?_concat_eq_some_iff {α : Type} {xs : List α} {x y : α} {i : Nat} :
    (xs ++ [x])[i]? = some y ↔ xs[i]? = some y ∨ i = xs.length ∧ x = y := by
  grind

namespace CommentFilter

variable {f : CommentFilter} {key : RuleKey} {o : Nat}

theorem not_silentAt_nil : ¬ f.SilentAt [] key o := by
  rintro ⟨i, c, h, -⟩
  exact absurd h (by simp)

/-- One more comment silences what it turns off, and only leaves silent what lies before it of what
it turns on. -/
theorem silentAt_concat {comments : List (Nat × String)} {c : Nat × String} :
    f.SilentAt (comments ++ [c]) key o ↔
      (f.SilentAt comments key o ∨ f.offKey? c.2 = some key ∧ c.1 ≤ o) ∧
        (f.onKey? c.2 = some key → o < c.1) := by
  constructor
  · rintro ⟨i, d, hd, hoff, hle, hon⟩
    have hi : i ≤ comments.length := by
      have := (List.getElem?_eq_some_iff.1 hd).1
      simp only [List.length_append, List.length_singleton] at this
      omega
    refine ⟨?_, hon _ c hi (getElem?_concat_eq_some_iff.2 (.inr ⟨rfl, rfl⟩))⟩
    rcases getElem?_concat_eq_some_iff.1 hd with hd | ⟨-, rfl⟩
    · exact .inl ⟨i, d, hd, hoff, hle, fun j e hij he =>
        hon j e hij (getElem?_concat_eq_some_iff.2 (.inl he))⟩
    · exact .inr ⟨hoff, hle⟩
  · rintro ⟨⟨i, d, hd, hoff, hle, hon⟩ | ⟨hoff, hle⟩, hlast⟩
    · refine ⟨i, d, getElem?_concat_eq_some_iff.2 (.inl hd), hoff, hle, fun j e hij he => ?_⟩
      rcases getElem?_concat_eq_some_iff.1 he with he | ⟨-, rfl⟩
      · exact hon j e hij he
      · exact hlast
    · refine ⟨comments.length, c, getElem?_concat_eq_some_iff.2 (.inr ⟨rfl, rfl⟩), hoff, hle,
        fun j e hij he => ?_⟩
      rcases getElem?_concat_eq_some_iff.1 he with he | ⟨-, rfl⟩
      · exact absurd (List.getElem?_eq_some_iff.1 he).1 (Nat.not_lt.2 hij)
      · exact hlast

end CommentFilter

namespace Suppressions

/-! ### Regions -/

/-- A region of the key holds the offset. -/
def Covers (s : Suppressions) (key : RuleKey) (o : Nat) : Prop :=
  ∃ r ∈ s, r.key = key ∧ r.span.start.val ≤ o ∧ o < r.span.stop.val

theorem covers_append {s t : Suppressions} {key : RuleKey} {o : Nat} :
    Covers (s ++ t) key o ↔ s.Covers key o ∨ t.Covers key o := by
  simp only [Covers, List.mem_append, or_and_right, exists_or]

theorem covers_cons {r : Region} {s : Suppressions} {key : RuleKey} {o : Nat} :
    Covers (r :: s) key o ↔
      (r.key = key ∧ r.span.start.val ≤ o ∧ o < r.span.stop.val) ∨ s.Covers key o := by
  simp only [Covers, List.exists_mem_cons_iff]

theorem covers_flatten {ss : List Suppressions} {key : RuleKey} {o : Nat} :
    Covers ss.flatten key o ↔ ∃ s ∈ ss, s.Covers key o := by
  simp only [Covers, List.mem_flatten]
  constructor
  · rintro ⟨r, ⟨s, hs, hr⟩, h⟩
    exact ⟨s, hs, r, hr, h⟩
  · rintro ⟨s, hs, r, hr, h⟩
    exact ⟨r, ⟨s, hs, hr⟩, h⟩

/-- A rule is silent where a region of its own key or of all rules is. -/
theorem silences_iff {s : Suppressions} {rule : String} {o : Offset} :
    s.silences rule o = true ↔
      ∃ key, (key = RuleKey.ofName rule ∨ key = .every) ∧ s.Covers key o.val := by
  simp only [silences, List.any_eq_true, Bool.and_eq_true, Bool.or_eq_true, beq_iff_eq,
    Span.contains, decide_eq_true_eq]
  constructor
  · rintro ⟨r, hr, hkey, hstart, hstop⟩
    exact ⟨r.key, hkey, r, hr, rfl, hstart, hstop⟩
  · rintro ⟨key, hkey, r, hr, rfl, hstart, hstop⟩
    exact ⟨r, hr, hkey, hstart, hstop⟩

theorem silences_append (s t : Suppressions) (rule : String) (o : Offset) :
    silences (s ++ t) rule o = (s.silences rule o || t.silences rule o) :=
  List.any_append

/-! ### One comment -/

namespace Stretches

/-- A stretch of the key that has ended holds the offset, or one that has started did so by then. -/
def Covers (s : Stretches) (key : RuleKey) (o : Nat) : Prop :=
  Suppressions.Covers s.ended key o ∨ ∃ a, (key, a) ∈ s.started ∧ a.val ≤ o

/-- All that is known lies at or before a limit, and no key has two started stretches. -/
structure Within (s : Stretches) (limit : Nat) : Prop where
  nodup : (s.started.map Prod.fst).Nodup
  started_le : ∀ e ∈ s.started, e.2.val ≤ limit
  ended_le : ∀ r ∈ s.ended, r.span.stop.val ≤ limit

variable {s : Stretches} {o : Offset} {key? : Option RuleKey} {key : RuleKey} {p : Nat}

theorem Within.mono {limit limit' : Nat} (h : s.Within limit) (hle : limit ≤ limit') :
    s.Within limit' :=
  ⟨h.nodup, fun e he => Nat.le_trans (h.started_le e he) hle,
    fun r hr => Nat.le_trans (h.ended_le r hr) hle⟩

theorem Within.lt_of_ended {limit : Nat} (h : s.Within limit)
    (hcovers : Suppressions.Covers s.ended key p) : p < limit := by
  obtain ⟨r, hr, -, -, hstop⟩ := hcovers
  exact Nat.lt_of_lt_of_le hstop (h.ended_le r hr)

private theorem mem_of_lookup {entries : List (RuleKey × Offset)} {a : Offset}
    (h : entries.lookup key = some a) : (key, a) ∈ entries := by
  obtain ⟨l₁, l₂, rfl, -⟩ := List.lookup_eq_some_iff.1 h
  exact List.mem_append_right l₁ List.mem_cons_self

private theorem not_mem_of_lookup {entries : List (RuleKey × Offset)}
    (h : entries.lookup key = none) {a : Offset} : (key, a) ∉ entries := by
  intro hmem
  have := List.lookup_eq_none_iff.1 h (key, a) hmem
  simp at this

theorem Within.start (h : s.Within o.val) (key? : Option RuleKey) :
    (s.start key? o).Within o.val := by
  cases key? with
  | none => exact h
  | some key =>
    simp only [Stretches.start]
    split
    · exact h
    · rename_i hnone
      rw [Option.not_isSome_iff_eq_none] at hnone
      refine ⟨?_, ?_, h.ended_le⟩
      · rw [List.map_cons, List.nodup_cons]
        refine ⟨fun hmem => ?_, h.nodup⟩
        obtain ⟨⟨key', a⟩, he, rfl⟩ := List.mem_map.1 hmem
        exact not_mem_of_lookup hnone he
      · intro e he
        rcases List.mem_cons.1 he with rfl | he
        · exact Nat.le_refl _
        · exact h.started_le e he

/-- Starting a stretch adds the offsets from there on. -/
theorem covers_start (h : s.Within o.val) :
    (s.start key? o).Covers key p ↔ s.Covers key p ∨ key? = some key ∧ o.val ≤ p := by
  cases key? with
  | none => simp [Stretches.start]
  | some k =>
    simp only [Stretches.start, Option.some.injEq]
    split
    · rename_i hsome
      obtain ⟨a, ha⟩ := Option.isSome_iff_exists.1 hsome
      refine ⟨.inl, ?_⟩
      rintro (hcovers | ⟨rfl, hle⟩)
      · exact hcovers
      · have ha := mem_of_lookup ha
        exact .inr ⟨a, ha, Nat.le_trans (h.started_le _ ha) hle⟩
    · simp only [Covers, List.mem_cons, Prod.mk.injEq]
      constructor
      · rintro (hended | ⟨a, ⟨rfl, rfl⟩ | ha, hle⟩)
        · exact .inl (.inl hended)
        · exact .inr ⟨rfl, hle⟩
        · exact .inl (.inr ⟨a, ha, hle⟩)
      · rintro ((hended | ⟨a, ha, hle⟩) | ⟨rfl, hle⟩)
        · exact .inl hended
        · exact .inr ⟨a, .inr ha, hle⟩
        · exact .inr ⟨o, .inl ⟨rfl, rfl⟩, hle⟩

/-- Ending a stretch takes away the offsets from there on. -/
theorem exists_stop (h : s.Within o.val) (key? : Option RuleKey) :
    ∃ s', s.stop key? o = .ok s' ∧ s'.Within o.val ∧
      ∀ key p, s'.Covers key p ↔ s.Covers key p ∧ (key? = some key → p < o.val) := by
  cases key? with
  | none => exact ⟨s, rfl, h, fun key p => by simp⟩
  | some k =>
    cases hlookup : s.started.lookup k with
    | none =>
      refine ⟨s, by simp only [Stretches.stop, hlookup, Attempt.pure_eq_ok], h, fun key p => ?_⟩
      refine ⟨fun hcovers => ⟨hcovers, ?_⟩, And.left⟩
      rintro ⟨rfl⟩
      rcases hcovers with hended | ⟨a, ha, -⟩
      · exact h.lt_of_ended hended
      · exact absurd ha (not_mem_of_lookup hlookup)
    | some a =>
      have hmem := mem_of_lookup hlookup
      have hle : a.val ≤ o.val := h.started_le _ hmem
      have hspan : Span.ofBounds a o = .ok ⟨a, o, hle⟩ := dif_pos hle
      refine ⟨⟨s.started.filter fun e => e.1 != k, ⟨k, ⟨a, o, hle⟩⟩ :: s.ended⟩, ?_, ?_, ?_⟩
      · simp only [Stretches.stop, hlookup, hspan, Attempt.bind_ok, Attempt.pure_eq_ok]
      · refine ⟨?_, fun e he => h.started_le e (List.mem_filter.1 he).1, ?_⟩
        · exact (List.filter_sublist.map _).nodup h.nodup
        · intro r hr
          rcases List.mem_cons.1 hr with rfl | hr
          · exact Nat.le_refl _
          · exact h.ended_le r hr
      · intro key p
        simp only [Covers, covers_cons, List.mem_filter, bne_iff_ne, Option.some.injEq]
        by_cases hkey : k = key
        · subst hkey
          -- the started stretch of the key is the one that ends here
          have hunique : ∀ b, (k, b) ∈ s.started → b = a := fun b hb =>
            congrArg Prod.snd (List.inj_on_of_nodup_map h.nodup hb hmem rfl)
          constructor
          · rintro ((⟨-, hap, hpo⟩ | hended) | ⟨b, ⟨-, hne⟩, -⟩)
            · exact ⟨.inr ⟨a, hmem, hap⟩, fun _ => hpo⟩
            · exact ⟨.inl hended, fun _ => h.lt_of_ended hended⟩
            · exact absurd rfl hne
          · rintro ⟨hended | ⟨b, hb, hbp⟩, hlt⟩
            · exact .inl (.inr hended)
            · exact .inl (.inl ⟨rfl, hunique b hb ▸ hbp, hlt rfl⟩)
        · simp only [hkey, false_and, false_or, false_imp_iff, and_true, Ne.symm hkey, ne_eq,
            not_false_eq_true]

/-- One comment does to the stretches what it does to silence. -/
theorem exists_note (f : CommentFilter) {c : Comment} (h : s.Within c.start.val) :
    ∃ s', s.note f c = .ok s' ∧ s'.Within c.start.val ∧
      ∀ key p, s'.Covers key p ↔
        (s.Covers key p ∨ f.offKey? c.text = some key ∧ c.start.val ≤ p) ∧
          (f.onKey? c.text = some key → p < c.start.val) := by
  obtain ⟨s', hs', hwithin, hcovers⟩ :=
    exists_stop (h.start (f.offKey? c.text)) (f.onKey? c.text)
  exact ⟨s', hs', hwithin, fun key p => by rw [hcovers, covers_start h]⟩

end Stretches

/-! ### All comments of a filter -/

/-- A comment as its start and its text. -/
def Comment.mark (c : Comment) : Nat × String := (c.start.val, c.text)

/-- A pass through comments in order succeeds, and finds what they silence. -/
theorem exists_foldlM_note (f : CommentFilter) {comments : List Comment}
    (hordered : comments.Pairwise fun a b => a.start.val ≤ b.start.val) :
    ∃ s, comments.foldlM (Stretches.note f) ⟨[], []⟩ = .ok s ∧
      (∀ limit, (∀ c ∈ comments, c.start.val ≤ limit) → s.Within limit) ∧
      ∀ key p, s.Covers key p ↔ f.SilentAt (comments.map Comment.mark) key p := by
  -- the pass goes from left to right, so the last comment is split off
  induction comments using List.reverseRecOn with
  | nil =>
    refine ⟨⟨[], []⟩, rfl, fun _ _ => ⟨List.nodup_nil, by simp, by simp⟩, fun key p => ?_⟩
    refine iff_of_false ?_ CommentFilter.not_silentAt_nil
    simp [Stretches.Covers, Covers]
  | append_singleton comments c ih =>
    rw [List.pairwise_append] at hordered
    obtain ⟨hinit, -, hlast⟩ := hordered
    obtain ⟨s, hs, hwithin, hcovers⟩ := ih hinit
    have hbefore : s.Within c.start.val :=
      hwithin _ fun d hd => hlast d hd c List.mem_cons_self
    obtain ⟨s', hs', hwithin', hcovers'⟩ := Stretches.exists_note f hbefore
    refine ⟨s', ?_, fun limit hlimit => ?_, fun key p => ?_⟩
    · rw [List.foldlM_append, hs, Attempt.bind_ok, List.foldlM_cons, hs']
      rfl
    · exact hwithin'.mono (hlimit c (List.mem_append_right _ List.mem_cons_self))
    · rw [hcovers', hcovers, List.map_append, List.map_singleton, CommentFilter.silentAt_concat]
      rfl

theorem regionUpTo_eq {e : RuleKey × Offset} {stop : Offset} (hle : e.2.val ≤ stop.val) :
    regionUpTo stop e = .ok ⟨e.1, ⟨e.2, stop, hle⟩⟩ := by
  have hspan : Span.ofBounds e.2 stop = .ok ⟨e.2, stop, hle⟩ := dif_pos hle
  rw [regionUpTo, hspan]
  rfl

/-- Stretches that have started cover what lies between there and an offset behind them. -/
theorem exists_mapM_regionUpTo {started : List (RuleKey × Offset)} {stop : Offset}
    (hstop : ∀ e ∈ started, e.2.val ≤ stop.val) :
    ∃ s, started.mapM (regionUpTo stop) = .ok s ∧
      ∀ key p, Covers s key p ↔ (∃ a, (key, a) ∈ started ∧ a.val ≤ p) ∧ p < stop.val := by
  obtain ⟨s, hs⟩ := Attempt.exists_mapM_ok fun e he => ⟨_, regionUpTo_eq (hstop e he)⟩
  refine ⟨s, hs, fun key p => ?_⟩
  simp only [Covers, Attempt.mem_of_mapM_ok hs]
  constructor
  · rintro ⟨r, ⟨e, he, hr⟩, rfl, hstart, hend⟩
    rw [regionUpTo_eq (hstop e he), Except.ok.injEq] at hr
    subst hr
    exact ⟨⟨e.2, he, hstart⟩, hend⟩
  · rintro ⟨⟨a, he, hstart⟩, hend⟩
    exact ⟨_, ⟨_, he, regionUpTo_eq (hstop _ he)⟩, rfl, hstart, hend⟩

/-- The stretches of a filter are found, and cover what its comments silence up to the end of the
text. -/
theorem exists_ofFilter (f : CommentFilter) (visit : Visit (RuleKey × Offset)) {stop : Offset}
    {comments : List Comment} (hordered : comments.Pairwise fun a b => a.start.val ≤ b.start.val)
    (hstop : ∀ c ∈ comments, c.start.val ≤ stop.val) :
    ∃ s, ofFilter comments stop f visit = .ok s ∧
      ∀ key p, s.Covers key p ↔
        f.SilentAt (comments.map Comment.mark) key p ∧ p < stop.val := by
  obtain ⟨s, hs, hwithin, hcovers⟩ := exists_foldlM_note f hordered
  replace hwithin := hwithin stop.val hstop
  have hvisit : ∀ e, e ∈ visit.order s.started ↔ e ∈ s.started := fun e =>
    (visit.perm s.started).mem_iff
  obtain ⟨unended, hunended, hclosed⟩ := exists_mapM_regionUpTo fun e he =>
    hwithin.started_le e ((hvisit e).1 he)
  refine ⟨s.ended ++ unended, ?_, fun key p => ?_⟩
  · rw [ofFilter, hs, Attempt.bind_ok, hunended]
    rfl
  · simp only [covers_append, hclosed, hvisit, ← hcovers, Stretches.Covers, or_and_right]
    exact or_congr_left ⟨fun h => ⟨h, hwithin.lt_of_ended h⟩, And.left⟩

end Suppressions

end JavaLint
