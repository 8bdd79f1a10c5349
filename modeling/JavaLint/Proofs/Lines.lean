import JavaLint.Proofs.Attempt
import JavaLint.Text.Lines

/-!
# The lines of a text

A text of 32 bits has lines (`Lines.exists_ofText`). They start in increasing order, the first at
the start of the text, and between characters. So the last line that starts no later than an offset
exists and its start comes no later (`Lines.Of.exists_lineOf`), and each offset between characters has
a position, whose column counts the characters of the line in front of it (`Lines.Of.exists_part`).
-/

namespace JavaLint.Text

/-! ### Where lines start -/

/-- Each start of a line comes directly after some characters. -/
theorem exists_of_mem_startsAfter {pos p : Nat} {cs : List Char} (h : p ∈ startsAfter pos cs) :
    ∃ a b, cs = a ++ b ∧ a ≠ [] ∧ p = pos + byteLength a := by
  fun_induction startsAfter pos cs with
  | case1 => simp at h
  | case2 pos cs ih =>
    have hfeed : byteLength ['\r', '\n'] = 2 := by decide
    rcases List.mem_cons.1 h with rfl | h
    · exact ⟨['\r', '\n'], cs, rfl, by simp, by rw [hfeed]⟩
    · obtain ⟨a, b, rfl, -, rfl⟩ := ih h
      refine ⟨['\r', '\n'] ++ a, b, rfl, by simp, ?_⟩
      rw [byteLength_append, hfeed, Nat.add_assoc]
  | case3 pos c cs _ next hc ih =>
    rcases List.mem_cons.1 h with rfl | h
    · exact ⟨[c], cs, rfl, by simp, by simp [byteLength, next]⟩
    · obtain ⟨a, b, rfl, -, rfl⟩ := ih h
      exact ⟨c :: a, b, rfl, by simp, by rw [byteLength_cons, ← Nat.add_assoc]⟩
  | case4 pos c cs _ next hc ih =>
    obtain ⟨a, b, rfl, -, rfl⟩ := ih h
    exact ⟨c :: a, b, rfl, by simp, by rw [byteLength_cons, ← Nat.add_assoc]⟩

theorem lt_of_mem_startsAfter {pos p : Nat} {cs : List Char} (h : p ∈ startsAfter pos cs) :
    pos < p := by
  obtain ⟨a, b, -, ha, rfl⟩ := exists_of_mem_startsAfter h
  have := mt byteLength_eq_zero.1 ha
  omega

theorem le_of_mem_startsAfter {pos p : Nat} {cs : List Char} (h : p ∈ startsAfter pos cs) :
    p ≤ pos + byteLength cs := by
  obtain ⟨a, b, rfl, -, rfl⟩ := exists_of_mem_startsAfter h
  rw [byteLength_append]
  omega

/-- Lines start in increasing order. -/
theorem pairwise_startsAfter (pos : Nat) (cs : List Char) :
    (startsAfter pos cs).Pairwise (· < ·) := by
  fun_induction startsAfter pos cs with
  | case1 => exact List.Pairwise.nil
  | case2 pos cs ih => exact List.pairwise_cons.2 ⟨fun _ => lt_of_mem_startsAfter, ih⟩
  | case3 pos c cs _ next hc ih => exact List.pairwise_cons.2 ⟨fun _ => lt_of_mem_startsAfter, ih⟩
  | case4 pos c cs _ next hc ih => exact ih

/-- There are no more line ends than bytes. -/
theorem length_startsAfter_le (pos : Nat) (cs : List Char) :
    (startsAfter pos cs).length ≤ byteLength cs := by
  fun_induction startsAfter pos cs with
  | case1 => exact Nat.zero_le _
  | case2 pos cs ih =>
    have hfeed : byteLength ('\r' :: '\n' :: cs) = 2 + byteLength cs :=
      byteLength_append ['\r', '\n'] cs
    rw [List.length_cons, hfeed]
    omega
  | case3 pos c cs _ next hc ih =>
    have := c.utf8Size_pos
    rw [List.length_cons, byteLength_cons]
    omega
  | case4 pos c cs _ next hc ih =>
    rw [byteLength_cons]
    omega

namespace Lines

/-- The lines are those of the text. -/
structure Of (text : String) (l : Lines) : Prop where
  text_eq : l.text = text
  starts_eq : l.starts.map Offset.val = 0 :: startsAfter 0 text.toList
  isAscii_eq : l.isAscii = text.toList.all fun c => c.val < 128

/-- A text of 32 bits has lines. -/
theorem exists_ofText {text : String} (hsize : text.utf8ByteSize < UInt32.size) :
    ∃ l, Lines.ofText text = .ok l ∧ l.Of text := by
  have hfits : ∀ p ∈ startsAfter 0 text.toList, ∃ o, Offset.ofNat p = .ok o ∧ o.val = id p := by
    intro p hp
    have hle := le_of_mem_startsAfter hp
    rw [byteLength_toList, Nat.zero_add] at hle
    have hlt : p < UInt32.size := Nat.lt_of_le_of_lt hle hsize
    have hsome : Offset.ofNat? p = some ⟨p, hlt⟩ := dif_pos hlt
    exact ⟨⟨p, hlt⟩, by rw [Offset.ofNat, hsome], rfl⟩
  obtain ⟨rest, hrest, hvals⟩ := Attempt.exists_mapM_ok_map hfits
  refine ⟨_, by rw [ofText, hrest]; rfl, rfl, ?_, rfl⟩
  rw [List.map_cons, hvals, List.map_id]
  rfl

/-- The lines of a text are found in one way only. -/
theorem of_ofText {text : String} {l : Lines} (hsize : text.utf8ByteSize < UInt32.size)
    (h : Lines.ofText text = .ok l) : l.Of text := by
  obtain ⟨l', hl', hof⟩ := exists_ofText hsize
  obtain rfl : l' = l := Except.ok.inj (hl'.symm.trans h)
  exact hof

/-! ### The line of an offset -/

/-- The starts that come no later than an offset are the first ones, as many as there are of them. -/
private theorem le_iff_lt_countP {starts : List Offset} {o s : Offset} {i : Nat}
    (hpairwise : starts.Pairwise fun a b => a.val < b.val) (hs : starts[i]? = some s) :
    s ≤ o ↔ i < starts.countP fun s => s ≤ o := by
  induction starts generalizing i with
  | nil => simp at hs
  | cons a starts ih =>
    obtain ⟨ha, hpairwise⟩ := List.pairwise_cons.1 hpairwise
    by_cases hao : a ≤ o
    · have hcount : ((a :: starts).countP fun s => s ≤ o) =
          (starts.countP fun s => s ≤ o) + 1 := List.countP_cons_of_pos (decide_eq_true hao)
      rw [hcount]
      cases i with
      | zero =>
        obtain rfl : a = s := Option.some.inj hs
        exact iff_of_true hao (Nat.succ_pos _)
      | succ i => rw [Nat.succ_lt_succ_iff, ih hpairwise hs]
    · -- no later start comes before the offset either
      have hnone : ∀ b ∈ a :: starts, ¬ b ≤ o := by
        intro b hb hbo
        rcases List.mem_cons.1 hb with rfl | hb
        · exact hao hbo
        · exact hao (Nat.le_trans (Nat.le_of_lt (ha b hb)) hbo)
      have hzero : ((a :: starts).countP fun s => s ≤ o) = 0 :=
        List.countP_eq_zero.2 fun b hb hbo => hnone b hb (of_decide_eq_true hbo)
      rw [hzero]
      exact iff_of_false (hnone s (List.mem_of_getElem? hs)) (Nat.not_lt_zero i)

variable {text : String} {l : Lines} {o : Offset}

theorem Of.pairwise (h : l.Of text) : l.starts.Pairwise fun a b => a.val < b.val := by
  have hstarts : (l.starts.map Offset.val).Pairwise (· < ·) := by
    rw [h.starts_eq]
    exact List.pairwise_cons.2 ⟨fun _ => lt_of_mem_startsAfter, pairwise_startsAfter 0 _⟩
  exact List.pairwise_map.1 hstarts

theorem Of.length_le (h : l.Of text) : l.starts.length ≤ text.utf8ByteSize + 1 := by
  have hlength := congrArg List.length h.starts_eq
  rw [List.length_map, List.length_cons] at hlength
  have := length_startsAfter_le 0 text.toList
  rw [byteLength_toList] at this
  omega

/-- Lines start between characters. -/
theorem Of.isValid (h : l.Of text) {s : Offset} (hs : s ∈ l.starts) :
    String.Pos.Raw.IsValid text ⟨s.val⟩ := by
  have hmem : s.val ∈ 0 :: startsAfter 0 text.toList := h.starts_eq ▸ List.mem_map_of_mem hs
  refine isValid_iff_exists_append.2 ?_
  rcases List.mem_cons.1 hmem with hzero | hmem
  · exact ⟨[], text.toList, rfl, hzero.symm⟩
  · obtain ⟨a, b, hab, -, hval⟩ := exists_of_mem_startsAfter hmem
    exact ⟨a, b, hab, by rw [hval, Nat.zero_add]⟩

/-- Every offset comes after the start of a line, so one less than the number of these lines is the
number of a line. -/
theorem Of.countP_pos (h : l.Of text) (o : Offset) : 0 < l.starts.countP fun s => s ≤ o := by
  have hzero : 0 ∈ l.starts.map Offset.val := h.starts_eq ▸ List.mem_cons_self
  obtain ⟨z, hz, hval⟩ := List.mem_map.1 hzero
  have hle : z.val ≤ o.val := hval ▸ Nat.zero_le _
  exact List.countP_pos_iff.2 ⟨z, hz, decide_eq_true hle⟩

/-- The line of an offset is the last one that starts no later than the offset. -/
theorem Of.exists_lineOf (h : l.Of text) (hsize : text.utf8ByteSize < UInt32.size) (o : Offset) :
    ∃ i s, l.starts[i]? = some s ∧ (l.lineOf o).val = i + 1 ∧
      ∀ j t, l.starts[j]? = some t → (t ≤ o ↔ j ≤ i) := by
  have hcount : (l.starts.countP fun s => s ≤ o) ≤ l.starts.length := List.countP_le_length
  have hlength := h.length_le
  obtain ⟨i, hi⟩ : ∃ i, (l.starts.countP fun s => s ≤ o) = i + 1 :=
    Nat.exists_eq_succ_of_ne_zero (Nat.ne_of_gt (h.countP_pos o))
  have hlt : i < l.starts.length := by omega
  have hlimits : UInt32.size < UInt64.size := by decide
  have hline : (l.lineOf o).val = i + 1 := by
    rw [lineOf, hi, Nat.add_sub_cancel, OneBased.val_ofZeroBased (by omega)]
  refine ⟨i, l.starts[i], List.getElem?_eq_getElem hlt, hline, fun j t ht => ?_⟩
  rw [le_iff_lt_countP h.pairwise ht, hi, Nat.lt_succ_iff]

/-- The line of an offset starts no later than the offset. -/
theorem Of.exists_startOf (h : l.Of text) (hsize : text.utf8ByteSize < UInt32.size) (o : Offset) :
    ∃ s, l.starts[(l.lineOf o).toZeroBased]? = some s ∧ l.startOf (l.lineOf o) = .ok s ∧
      s.val ≤ o.val := by
  obtain ⟨i, s, hs, hline, hlater⟩ := h.exists_lineOf hsize o
  have hget : l.starts[(l.lineOf o).toZeroBased]? = some s := by
    rw [OneBased.toZeroBased, hline, Nat.add_sub_cancel, hs]
  exact ⟨s, hget, by rw [startOf, hget], (hlater i s hs).2 (Nat.le_refl i)⟩

/-! ### The column of an offset -/

variable {s : Offset}

/-- In a text of ASCII characters the column counts the bytes from the start of the line on. -/
theorem position_of_isAscii (hascii : l.isAscii = true) (hstart : l.startOf (l.lineOf o) = .ok s)
    (hle : s.val ≤ o.val) :
    l.position o = .ok ⟨l.lineOf o, .ofZeroBased (o.val - s.val)⟩ := by
  have hsub : o.sub s = .ok ⟨o.val - s.val, Nat.lt_of_le_of_lt (Nat.sub_le _ _) o.lt_limit⟩ := by
    rw [Offset.sub, Offset.sub?, if_pos hle]
  rw [position, hstart, Attempt.bind_ok, if_pos hascii, hsub]
  rfl

/-- In other texts it counts the characters from there on, and there is none where the text cannot be
cut. -/
theorem position_of_not_isAscii (hascii : l.isAscii = false)
    (hstart : l.startOf (l.lineOf o) = .ok s) (hle : s.val ≤ o.val) :
    l.position o =
      (sliceText? l.text s.val o.val).elim (.error .unsliceable) fun part =>
        .ok ⟨l.lineOf o, .ofZeroBased part.length⟩ := by
  have hspan : Span.ofBounds s o = .ok ⟨s, o, hle⟩ := dif_pos hle
  rw [position, hstart, Attempt.bind_ok, hascii, if_neg Bool.false_ne_true, hspan, Attempt.bind_ok,
    Span.slice]
  cases sliceText? l.text s.val o.val with
  | none => rfl
  | some part => rfl

/-- Both ways of counting give the number of characters from the start of the line on. -/
theorem position_eq_of_part {part : String} (htext : l.text = text)
    (hascii : l.isAscii = true → ∀ c ∈ text.toList, c.val < 128)
    (hstart : l.startOf (l.lineOf o) = .ok s) (hpart : sliceText? text s.val o.val = some part) :
    l.position o = .ok ⟨l.lineOf o, .ofZeroBased part.length⟩ := by
  obtain ⟨front, back, rfl, hfront, hstop⟩ := sliceText?_eq_some_iff.1 hpart
  rw [String.utf8ByteSize_append] at hstop
  have hle : s.val ≤ o.val := by omega
  cases hflag : l.isAscii with
  | false => rw [position_of_not_isAscii hflag hstart hle, htext, hpart, Option.elim_some]
  | true =>
    have hbytes : part.utf8ByteSize = part.length := by
      rw [← byteLength_toList, ← String.length_toList]
      refine byteLength_eq_length fun c hc => hascii hflag c ?_
      simp only [String.toList_append, List.mem_append, hc, or_true, true_or]
    have hcount : o.val - s.val = part.length := by omega
    rw [position_of_isAscii hflag hstart hle, hcount]

theorem Of.forall_ascii_iff (h : l.Of text) :
    l.isAscii = true ↔ ∀ c ∈ text.toList, c.val < 128 := by
  rw [h.isAscii_eq, List.all_eq_true]
  exact forall₂_congr fun c _ => decide_eq_true_iff

/-- The text can be cut at an offset between characters and at the start of its line; the characters in
between are counted, and there are not too many of them. -/
theorem Of.exists_part (h : l.Of text) (hsize : text.utf8ByteSize < UInt32.size)
    (ho : String.Pos.Raw.IsValid text ⟨o.val⟩) :
    ∃ s part, l.startOf (l.lineOf o) = .ok s ∧ sliceText? text s.val o.val = some part ∧
      l.position o = .ok ⟨l.lineOf o, .ofZeroBased part.length⟩ ∧
      part.length + 1 < UInt64.size := by
  obtain ⟨s, hs, hstart, hle⟩ := h.exists_startOf hsize o
  obtain ⟨part, hpart⟩ := exists_sliceText? hle (h.isValid (List.mem_of_getElem? hs)) ho
  have hposition := position_eq_of_part h.text_eq h.forall_ascii_iff.1 hstart hpart
  refine ⟨s, part, hstart, hpart, hposition, ?_⟩
  obtain ⟨front, back, -, -, hstop⟩ := sliceText?_eq_some_iff.1 hpart
  have hlength := length_le_byteLength part.toList
  rw [byteLength_toList, String.length_toList] at hlength
  rw [String.utf8ByteSize_append] at hstop
  have hlimits : UInt32.size < UInt64.size := by decide
  have := o.lt_limit
  omega

/-- Each offset between characters has a position. -/
theorem Of.exists_position (h : l.Of text) (hsize : text.utf8ByteSize < UInt32.size)
    (ho : String.Pos.Raw.IsValid text ⟨o.val⟩) : ∃ p, l.position o = .ok p := by
  obtain ⟨s, part, -, -, hposition, -⟩ := h.exists_part hsize ho
  exact ⟨_, hposition⟩

end Lines

end JavaLint.Text
