import JavaLint.Text.Offset

/-!
# Parts of a text

A text is cut at byte offsets. A cut is possible only between characters and inside the text. The parts
are told in two ways: as lists of characters, and as texts that are copied from the bytes. Main
statement: both are the same parts (`sliceText?_eq`).
-/

namespace JavaLint.Text

/-- The number of bytes of some characters. -/
def byteLength : List Char → Nat
  | [] => 0
  | c :: cs => c.utf8Size + byteLength cs

/-- Cuts a text after `n` bytes, if no character lies across that place. -/
def cut? : List Char → Nat → Option (List Char × List Char)
  | cs, 0 => some ([], cs)
  | [], _ + 1 => none
  | c :: cs, n + 1 =>
    if c.utf8Size ≤ n + 1 then
      (cut? cs (n + 1 - c.utf8Size)).map fun (head, tail) => (c :: head, tail)
    else none

/-- The characters between two byte offsets. -/
def slice? (cs : List Char) (start stop : Nat) : Option (List Char) :=
  if start ≤ stop then
    (cut? cs start).bind fun (_, tail) => (cut? tail (stop - start)).map (·.1)
  else none

/-- The text between two byte offsets. -/
def sliceText? (text : String) (start stop : Nat) : Option String :=
  if h : start ≤ stop ∧ String.Pos.Raw.IsValid text ⟨start⟩ ∧ String.Pos.Raw.IsValid text ⟨stop⟩ then
    some (text.extract (text.pos ⟨start⟩ h.2.1) (text.pos ⟨stop⟩ h.2.2))
  else none

/-! ## What the parts are -/

theorem byteLength_append (a b : List Char) :
    byteLength (a ++ b) = byteLength a + byteLength b := by
  induction a with
  | nil => simp [byteLength]
  | cons c a ih => simp [byteLength, ih, Nat.add_assoc]

theorem byteLength_cons (c : Char) (cs : List Char) :
    byteLength (c :: cs) = c.utf8Size + byteLength cs := by
  simp [byteLength]

theorem byteLength_eq_zero {cs : List Char} : byteLength cs = 0 ↔ cs = [] := by
  cases cs with
  | nil => simp [byteLength]
  | cons c cs =>
    have := c.utf8Size_pos
    simp only [byteLength_cons, reduceCtorEq, iff_false]
    omega

/-- Characters have a byte or more each. -/
theorem length_le_byteLength (cs : List Char) : cs.length ≤ byteLength cs := by
  induction cs with
  | nil => exact Nat.zero_le _
  | cons c cs ih =>
    have := c.utf8Size_pos
    rw [List.length_cons, byteLength_cons]
    omega

/-- Characters of ASCII have a byte each. -/
theorem byteLength_eq_length {cs : List Char} (h : ∀ c ∈ cs, c.val < 128) :
    byteLength cs = cs.length := by
  induction cs with
  | nil => rfl
  | cons c cs ih =>
    have hc : c.utf8Size = 1 := Char.utf8Size_eq_one_iff.2 (by
      have := h c List.mem_cons_self
      rw [UInt32.lt_iff_toNat_lt] at this
      rw [UInt32.le_iff_toNat_le]
      exact Nat.le_of_lt_succ this)
    rw [byteLength_cons, hc, ih fun d hd => h d (List.mem_cons_of_mem c hd), List.length_cons]
    omega

theorem byteLength_toList (s : String) : byteLength s.toList = s.utf8ByteSize := by
  induction s using String.push_induction with
  | empty => simp [byteLength]
  | push s c ih =>
    rw [String.toList_push, byteLength_append, ih, String.utf8ByteSize_push]
    simp [byteLength]

/-- An offset lies between characters if there are characters with as many bytes in front of it. -/
theorem isValid_iff_exists_append {text : String} {n : Nat} :
    String.Pos.Raw.IsValid text ⟨n⟩ ↔ ∃ a b, text.toList = a ++ b ∧ byteLength a = n := by
  rw [String.Pos.Raw.isValid_iff_exists_append]
  constructor
  · rintro ⟨a, b, rfl, h⟩
    refine ⟨a.toList, b.toList, String.toList_append, ?_⟩
    rw [byteLength_toList]
    simpa using (congrArg String.Pos.Raw.byteIdx h).symm
  · rintro ⟨a, b, hab, h⟩
    refine ⟨String.ofList a, String.ofList b, ?_, ?_⟩
    · rw [← String.ofList_append, ← hab, String.ofList_toList]
    · rw [String.Pos.Raw.ext_iff, String.byteIdx_rawEndPos, ← byteLength_toList,
        String.toList_ofList, h]

/-- A cut gives the two parts of a text of which the first has the given number of bytes. -/
theorem cut?_eq_some_iff {cs a b : List Char} {n : Nat} :
    cut? cs n = some (a, b) ↔ cs = a ++ b ∧ byteLength a = n := by
  induction cs generalizing a b n with
  | nil =>
    cases n with
    | zero => simp [cut?, byteLength_eq_zero]; grind
    | succ n =>
      simp only [cut?, reduceCtorEq, false_iff, not_and]
      intro h
      obtain ⟨rfl, rfl⟩ := List.append_eq_nil_iff.1 h.symm
      simp [byteLength]
  | cons c cs ih =>
    have hc := c.utf8Size_pos
    cases n with
    | zero => simp [cut?, byteLength_eq_zero]; grind
    | succ n =>
      simp only [cut?]
      split
      · rename_i h
        simp only [Option.map_eq_some_iff, Prod.exists, ih, Prod.mk.injEq]
        constructor
        · rintro ⟨a', b', ⟨rfl, h'⟩, rfl, rfl⟩
          exact ⟨rfl, by rw [byteLength_cons]; omega⟩
        · rintro ⟨h₁, h₂⟩
          cases a with
          | nil => simp [byteLength] at h₂
          | cons d a =>
            obtain ⟨rfl, rfl⟩ := List.cons.inj h₁
            rw [byteLength_cons] at h₂
            exact ⟨a, b, ⟨rfl, by omega⟩, rfl, rfl⟩
      · rename_i h
        simp only [reduceCtorEq, false_iff, not_and]
        intro h₁ h₂
        cases a with
        | nil => simp [byteLength] at h₂
        | cons d a =>
          obtain ⟨rfl, rfl⟩ := List.cons.inj h₁
          rw [byteLength_cons] at h₂
          omega

/-- The characters between two offsets are those between a part with as many bytes as the first says
and a rest. -/
theorem slice?_eq_some_iff {cs part : List Char} {start stop : Nat} :
    slice? cs start stop = some part ↔
      ∃ a b, cs = a ++ part ++ b ∧ byteLength a = start ∧ byteLength (a ++ part) = stop := by
  unfold slice?
  split
  · rename_i h
    simp only [Option.bind_eq_some_iff, Option.map_eq_some_iff, Prod.exists, cut?_eq_some_iff]
    constructor
    · rintro ⟨a, tail, ⟨rfl, ha⟩, p, b, ⟨rfl, hp⟩, rfl⟩
      exact ⟨a, b, by simp, ha, by rw [byteLength_append]; omega⟩
    · rintro ⟨a, b, rfl, ha, hp⟩
      rw [byteLength_append] at hp
      exact ⟨a, part ++ b, ⟨by simp, ha⟩, part, b, ⟨rfl, by omega⟩, rfl⟩
  · rename_i h
    simp only [reduceCtorEq, false_iff, not_exists, not_and]
    rintro a b rfl ha hp
    rw [byteLength_append] at hp
    omega

/-- The text between two offsets is that between a part with as many bytes as the first says and a
rest. -/
theorem sliceText?_eq_some_iff {text part : String} {start stop : Nat} :
    sliceText? text start stop = some part ↔
      ∃ a b, text = a ++ part ++ b ∧ a.utf8ByteSize = start ∧
        (a ++ part).utf8ByteSize = stop := by
  unfold sliceText?
  split
  · rename_i h
    rw [Option.some.injEq, String.extract_eq_copy_slice _ _ (by exact h.1)]
    have key := @String.copy_slice_eq_iff_splits part text (text.pos ⟨start⟩ h.2.1)
      (text.pos ⟨stop⟩ h.2.2)
    constructor
    · intro hp
      obtain ⟨a, b, ha, hb⟩ := key.1 ⟨_, hp⟩
      refine ⟨a, b, by rw [ha.eq_append, String.append_assoc], ?_, ?_⟩
      · simpa using (congrArg String.Pos.Raw.byteIdx ha.offset_eq_rawEndPos).symm
      · simpa using (congrArg String.Pos.Raw.byteIdx hb.offset_eq_rawEndPos).symm
    · rintro ⟨a, b, hab, ha, hb⟩
      obtain ⟨_, hp⟩ := key.2 ⟨a, b, ⟨by rw [hab, String.append_assoc],
        by simp [String.Pos.Raw.ext_iff, ha]⟩, ⟨hab, by simp [String.Pos.Raw.ext_iff, ← hb]⟩⟩
      exact hp
  · rename_i h
    simp only [reduceCtorEq, false_iff, not_exists, not_and]
    rintro a b rfl ha hb
    have hle : start ≤ stop := by rw [String.utf8ByteSize_append] at hb; omega
    have hstart : String.Pos.Raw.IsValid (a ++ part ++ b) ⟨start⟩ :=
      String.Pos.Raw.isValid_iff_exists_append.2
        ⟨a, part ++ b, String.append_assoc, by simp [String.Pos.Raw.ext_iff, ha]⟩
    have hstop : String.Pos.Raw.IsValid (a ++ part ++ b) ⟨stop⟩ :=
      String.Pos.Raw.isValid_iff_exists_append.2
        ⟨a ++ part, b, rfl, by simp [String.Pos.Raw.ext_iff, ← hb]⟩
    exact h ⟨hle, hstart, hstop⟩

/-- There is a text between two offsets that lie between characters. -/
theorem exists_sliceText? {text : String} {start stop : Nat} (hle : start ≤ stop)
    (hstart : String.Pos.Raw.IsValid text ⟨start⟩) (hstop : String.Pos.Raw.IsValid text ⟨stop⟩) :
    ∃ part, sliceText? text start stop = some part :=
  ⟨_, dif_pos ⟨hle, hstart, hstop⟩⟩

/-- The text between different offsets is not empty. -/
theorem length_pos_of_sliceText? {text part : String} {start stop : Nat} (hlt : start < stop)
    (h : sliceText? text start stop = some part) : 0 < part.length := by
  obtain ⟨a, b, -, ha, hstop⟩ := sliceText?_eq_some_iff.1 h
  rw [String.utf8ByteSize_append, ha, ← byteLength_toList] at hstop
  have hne : part.toList ≠ [] := by
    intro hnil
    rw [hnil, byteLength, Nat.add_zero] at hstop
    exact Nat.ne_of_lt hlt hstop
  rw [← String.length_toList]
  exact List.length_pos_iff.2 hne

/-- Parts that lie one behind the other make up the part from the first to the last offset. -/
theorem sliceText?_append {text part next : String} {start middle stop : Nat}
    (hpart : sliceText? text start middle = some part)
    (hnext : sliceText? text middle stop = some next) :
    sliceText? text start stop = some (part ++ next) := by
  obtain ⟨a, b, hab, ha, hmiddle⟩ := sliceText?_eq_some_iff.1 hpart
  obtain ⟨c, d, rfl, hc, hstop⟩ := sliceText?_eq_some_iff.1 hnext
  -- both say what is in front of the offset in the middle
  have hfront : a ++ part = c := by
    have hcut : cut? (c ++ next ++ d).toList middle = some ((a ++ part).toList, b.toList) :=
      cut?_eq_some_iff.2 ⟨by rw [hab, String.toList_append], by rw [byteLength_toList, hmiddle]⟩
    have hcut' : cut? (c ++ next ++ d).toList middle = some (c.toList, (next ++ d).toList) :=
      cut?_eq_some_iff.2 ⟨by rw [String.append_assoc, String.toList_append],
        by rw [byteLength_toList, hc]⟩
    exact String.toList_inj.1 (Prod.mk.inj (Option.some.inj (hcut.symm.trans hcut'))).1
  subst hfront
  exact sliceText?_eq_some_iff.2 ⟨a, d, by simp only [String.append_assoc], ha,
    by rw [← String.append_assoc, hstop]⟩

/-- The text between two offsets has the characters between them. -/
theorem sliceText?_eq (text : String) (start stop : Nat) :
    sliceText? text start stop = (slice? text.toList start stop).map String.ofList := by
  ext part
  rw [sliceText?_eq_some_iff, Option.map_eq_some_iff]
  constructor
  · rintro ⟨a, b, rfl, ha, hb⟩
    refine ⟨part.toList, slice?_eq_some_iff.2 ⟨a.toList, b.toList, by simp, ?_, ?_⟩, by simp⟩
    · rw [byteLength_toList, ha]
    · rw [← String.toList_append, byteLength_toList, hb]
  · rintro ⟨p, hp, rfl⟩
    obtain ⟨a, b, h, ha, hb⟩ := slice?_eq_some_iff.1 hp
    refine ⟨String.ofList a, String.ofList b, ?_, ?_, ?_⟩
    · rw [← String.ofList_append, ← String.ofList_append, ← h, String.ofList_toList]
    · rw [← byteLength_toList, String.toList_ofList, ha]
    · rw [← byteLength_toList, ← String.ofList_append, String.toList_ofList, hb]

end JavaLint.Text
