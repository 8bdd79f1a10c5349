import Mathlib.Data.List.Induction
import JavaLint.Proofs.Columns
import JavaLint.Proofs.LineStarts
import JavaLint.Tree.Outline

/-!
# Rows and bytes, lines and characters

An outline tells where a node starts by the number of line feeds in front of it and the number of
bytes behind the last of these (`Outline.point_rows`). A report tells the line and counts its
characters. The lines end at carriage returns too, unless a line feed is directly behind them.

Main statement: both tell the same of all offsets between characters exactly if the text has ASCII
characters only and a line feed directly behind every carriage return
(`Text.Lines.agreesAt_iff`). In such a text the rows are the lines
(`Text.startsAfter_eq_rowsAfter`). In other texts they part at the end of a character: one of
several bytes is one column, but several bytes, and a carriage return without a line feed behind it
ends a line, but no row.
-/

namespace JavaLint

open JavaLint.Text

/-! ### Rows -/

namespace Outline

theorem rowsAfter_append (pos : Nat) (a b : List Char) :
    rowsAfter pos (a ++ b) = rowsAfter pos a ++ rowsAfter (pos + byteLength a) b := by
  induction a generalizing pos with
  | nil => rfl
  | cons c a ih =>
    rw [List.cons_append, rowsAfter, rowsAfter, ih, byteLength_cons, ← Nat.add_assoc]
    by_cases hc : c = '\n'
    · rw [if_pos hc, if_pos hc, List.cons_append]
    · rw [if_neg hc, if_neg hc]

theorem bounds_of_mem_rowsAfter {pos p : Nat} {cs : List Char} (h : p ∈ rowsAfter pos cs) :
    pos < p ∧ p ≤ pos + byteLength cs := by
  induction cs generalizing pos with
  | nil => exact nomatch h
  | cons c cs ih =>
    have hsize := c.utf8Size_pos
    rw [byteLength_cons]
    have hrest (h : p ∈ rowsAfter (pos + c.utf8Size) cs) :
        pos < p ∧ p ≤ pos + (c.utf8Size + byteLength cs) := by
      have := ih h
      omega
    by_cases hc : c = '\n'
    · rw [rowsAfter, if_pos hc] at h
      rcases List.mem_cons.1 h with rfl | h
      · omega
      · exact hrest h
    · rw [rowsAfter, if_neg hc] at h
      exact hrest h

/-- A row ends at every line feed. -/
theorem length_rowsAfter (pos : Nat) (cs : List Char) :
    (rowsAfter pos cs).length = cs.count '\n' := by
  induction cs generalizing pos with
  | nil => rfl
  | cons c cs ih =>
    rw [rowsAfter]
    by_cases hc : c = '\n'
    · rw [if_pos hc, List.length_cons, ih, hc, List.count_cons_self]
    · rw [if_neg hc, ih, List.count_cons_of_ne hc]

/-- What stands behind the last line feed. -/
def lastRow (cs : List Char) : List Char := (cs.reverse.takeWhile (· ≠ '\n')).reverse

theorem lastRow_concat_feed (cs : List Char) : lastRow (cs ++ ['\n']) = [] := by
  simp [lastRow]

theorem lastRow_concat {c : Char} (hc : c ≠ '\n') (cs : List Char) :
    lastRow (cs ++ [c]) = lastRow cs ++ [c] := by
  simp [lastRow, hc]

/-- The last row starts directly behind the last line feed. -/
theorem getLast?_rowsAfter (pos : Nat) (cs : List Char) :
    (rowsAfter pos cs).getLast?.getD pos + byteLength (lastRow cs) = pos + byteLength cs := by
  induction cs using List.reverseRecOn with
  | nil => rfl
  | append_singleton cs c ih =>
    rw [rowsAfter_append, byteLength_append]
    by_cases hc : c = '\n'
    · subst hc
      rw [lastRow_concat_feed, rowsAfter, if_pos rfl, rowsAfter, List.getLast?_concat,
        Option.getD_some, Nat.add_assoc]
      rfl
    · rw [lastRow_concat hc, rowsAfter, if_neg hc, rowsAfter, List.append_nil, byteLength_append,
        ← Nat.add_assoc, ih, Nat.add_assoc]

/-- The row of an offset is the last one that starts no later. -/
theorem point_append {front back : List Nat} {n : Nat} (hfront : ∀ s ∈ front, s ≤ n)
    (hback : ∀ s ∈ back, n < s) :
    point (front ++ back) n = (front.length - 1, n - front.getLast?.getD 0) := by
  have hnone : back.takeWhile (fun s => s ≤ n) = [] := by
    cases back with
    | nil => rfl
    | cons s back =>
      exact List.takeWhile_cons_of_neg (by simpa using hback s List.mem_cons_self)
  have hbefore : (front ++ back).takeWhile (fun s => s ≤ n) = front := by
    rw [List.takeWhile_append_of_pos fun s hs => decide_eq_true (hfront s hs), hnone,
      List.append_nil]
  rw [point, hbefore]

/-- The row of an offset between characters is the number of line feeds in front of it, and its
byte in that row the number of bytes behind the last of these. -/
theorem point_rows {text : String} {a b : List Char} (htext : text.toList = a ++ b) :
    point (rows text) (byteLength a) = (a.count '\n', byteLength (lastRow a)) := by
  have hrows : rows text = (0 :: rowsAfter 0 a) ++ rowsAfter (byteLength a) b := by
    rw [rows, htext, rowsAfter_append, Nat.zero_add, List.cons_append]
  have hlast := getLast?_rowsAfter 0 a
  rw [hrows, point_append, List.length_cons, Nat.add_sub_cancel, length_rowsAfter,
    List.getLast?_cons, Option.getD_some]
  · exact congrArg _ (by omega)
  · intro s hs
    rcases List.mem_cons.1 hs with rfl | hs
    · exact Nat.zero_le _
    · have := bounds_of_mem_rowsAfter hs
      omega
  · exact fun s hs => (bounds_of_mem_rowsAfter hs).1

/-- Behind a character that is no line feed the row is the same, and all bytes of the character are
counted. -/
theorem point_next {text : String} {a b : List Char} {c : Char}
    (htext : text.toList = a ++ c :: b) (hc : c ≠ '\n') :
    point (rows text) (byteLength a + c.utf8Size) =
      ((point (rows text) (byteLength a)).1,
        (point (rows text) (byteLength a)).2 + c.utf8Size) := by
  have hnext : text.toList = (a ++ [c]) ++ b := by
    rw [htext, List.append_assoc, List.singleton_append]
  have hsingle : byteLength [c] = c.utf8Size := rfl
  have hpoint := point_rows hnext
  rw [byteLength_append, hsingle, List.count_append, List.count_singleton,
    if_neg (by simpa using hc), lastRow_concat hc, byteLength_append, hsingle] at hpoint
  rw [point_rows htext, hpoint, Nat.add_zero]

end Outline

open Outline

namespace Text

/-! ### Rows and lines -/

/-- A line feed stands directly behind every carriage return. -/
def FeedsFollow (cs : List Char) : Prop := ∀ a b, cs = a ++ '\r' :: b → b.head? = some '\n'

theorem FeedsFollow.of_append {a b : List Char} (h : FeedsFollow (a ++ b)) : FeedsFollow b :=
  fun x y hxy => h (a ++ x) y (by rw [hxy, List.append_assoc])

/-- If a line feed stands directly behind every carriage return, lines end where rows end. -/
theorem startsAfter_eq_rowsAfter {cs : List Char} (h : FeedsFollow cs) (pos : Nat) :
    startsAfter pos cs = rowsAfter pos cs := by
  fun_induction startsAfter pos cs with
  | case1 => rfl
  | case2 pos cs ih =>
    have hpair : rowsAfter pos ('\r' :: '\n' :: cs) = (pos + 2) :: rowsAfter (pos + 2) cs := rfl
    rw [hpair, ih (FeedsFollow.of_append (a := ['\r', '\n']) h)]
  | case3 pos c cs hnot next hc ih =>
    rcases hc with rfl | rfl
    · rw [rowsAfter, if_pos rfl, ih (FeedsFollow.of_append (a := ['\n']) h)]
    · obtain ⟨cs', rfl⟩ := List.head?_eq_some_iff.1 (h [] cs rfl)
      exact absurd rfl (hnot cs' rfl)
  | case4 pos c cs hnot next hc ih =>
    rw [rowsAfter, if_neg fun hfeed => hc (.inl hfeed), ih (FeedsFollow.of_append (a := [c]) h)]

namespace Lines

/-- An outline and a report tell the same of an offset. -/
def AgreesAt (text : String) (l : Lines) (o : Offset) : Prop :=
  ∃ p, l.position o = .ok p ∧
    (p.line.val, p.column.val) = ((point (rows text) o.val).1 + 1, (point (rows text) o.val).2 + 1)

variable {text : String} {l : Lines} {o o' : Offset} {p p' : Position} {a b : List Char} {c : Char}

/-- In a text of ASCII characters whose lines are its rows, all offsets are told alike. -/
theorem Of.agreesAt (h : l.Of text) (hsize : text.utf8ByteSize < UInt32.size)
    (hascii : ∀ c ∈ text.toList, c.val < 128) (hfeeds : FeedsFollow text.toList) (o : Offset) :
    AgreesAt text l o := by
  have hrows : l.starts.map Offset.val = rows text := by
    rw [h.starts_eq, rows, startsAfter_eq_rowsAfter hfeeds]
  obtain ⟨i, s, hs, hline, hlater⟩ := h.exists_lineOf hsize o
  obtain ⟨s', p, hs', hp, hpline, hcolumn⟩ := h.exists_position_of_ascii hsize hascii o
  rw [OneBased.toZeroBased, hline, Nat.add_sub_cancel, hs] at hs'
  obtain rfl := Option.some.inj hs'
  obtain ⟨hlt, -⟩ := List.getElem?_eq_some_iff.1 hs
  -- the starts up to the line of the offset come no later than the offset, and the others later
  have hpoint : point (rows text) o.val = (i, o.val - s.val) := by
    rw [← hrows, ← List.take_append_drop (i + 1) (l.starts.map Offset.val), point_append,
      List.getLast?_take, if_neg (Nat.succ_ne_zero i), Nat.add_sub_cancel, List.getElem?_map, hs,
      List.length_take, List.length_map, Nat.min_eq_left hlt]
    · rfl
    · rw [← List.map_take, List.forall_mem_map]
      intro t ht
      obtain ⟨j, hj, rfl⟩ := List.mem_take_iff_getElem.1 ht
      exact (hlater j _ (List.getElem?_eq_getElem (by omega))).2 (by omega)
    · rw [← List.map_drop, List.forall_mem_map]
      intro t ht
      obtain ⟨j, hj, rfl⟩ := List.mem_drop_iff_getElem.1 ht
      have hget := List.getElem?_eq_getElem (l := l.starts) (i := i + 1 + j) (by omega)
      exact Nat.lt_of_not_le fun hle => absurd ((hlater _ _ hget).1 hle) (by omega)
  refine ⟨p, hp, ?_⟩
  rw [hpoint, hpline, hline, hcolumn]

/-- A carriage return without a line feed behind it ends a line. -/
theorem Of.lineOf_lt_of_lone (h : l.Of text) (hsize : text.utf8ByteSize < UInt32.size)
    (htext : text.toList = a ++ '\r' :: b) (hlone : b.head? ≠ some '\n')
    (ho : o.val = byteLength a) (ho' : o'.val = byteLength a + 1) :
    (l.lineOf o).val < (l.lineOf o').val := by
  have hbytes : bytesOf text = encode a ++ carriageReturn :: encode b := by
    rw [bytesOf_eq_encode, htext, encode_append]
    rfl
  have hreturn : (bytesOf text)[o.val]? = some carriageReturn := by
    rw [hbytes, ho, ← length_encode]
    simp
  have hnofeed : (bytesOf text)[o.val + 1]? ≠ some lineFeed := by
    rw [hbytes, ho, ← length_encode, List.getElem?_append_right (Nat.le_add_right _ 1),
      Nat.add_sub_cancel_left, List.getElem?_cons_succ, ← List.head?_eq_getElem?]
    intro hfeed
    obtain ⟨b', rfl⟩ := eq_cons_of_head?_encode hfeed
    exact hlone rfl
  obtain ⟨t, ht, hval⟩ := List.mem_map.1 (h.startsIn.lone o.val hreturn hnofeed)
  obtain ⟨j, hj⟩ := List.mem_iff_getElem?.1 ht
  obtain ⟨i, s, -, hline, hlater⟩ := h.exists_lineOf hsize o
  obtain ⟨i', s', -, hline', hlater'⟩ := h.exists_lineOf hsize o'
  have hbehind : ¬ t ≤ o := Nat.not_le_of_lt (by omega)
  have hreached : t ≤ o' := Nat.le_of_eq (by omega)
  rw [hlater j t hj] at hbehind
  rw [hlater' j t hj] at hreached
  omega

/-- Wherever the characters are parted is an offset. -/
theorem exists_offset (hsize : text.utf8ByteSize < UInt32.size) (htext : text.toList = a ++ b) :
    ∃ o : Offset, o.val = byteLength a ∧ String.Pos.Raw.IsValid text ⟨o.val⟩ := by
  have hle : byteLength a ≤ text.utf8ByteSize := by
    rw [← byteLength_toList, htext, byteLength_append]
    exact Nat.le_add_right _ _
  exact ⟨⟨byteLength a, Nat.lt_of_le_of_lt hle hsize⟩, rfl,
    isValid_iff_exists_append.2 ⟨a, b, htext, rfl⟩⟩

theorem Of.line_eq (h : l.Of text) (hsize : text.utf8ByteSize < UInt32.size)
    (hvalid : String.Pos.Raw.IsValid text ⟨o.val⟩) (hp : l.position o = .ok p) :
    p.line = l.lineOf o := by
  obtain ⟨s, part, -, -, hposition, -⟩ := h.exists_part hsize hvalid
  rw [Except.ok.inj (hp.symm.trans hposition)]

/-- In the same line a character makes one column. -/
theorem Of.column_next (h : l.Of text) (hsize : text.utf8ByteSize < UInt32.size)
    (htext : text.toList = a ++ c :: b) (hvalid : String.Pos.Raw.IsValid text ⟨o.val⟩)
    (hvalid' : String.Pos.Raw.IsValid text ⟨o'.val⟩) (ho : o.val = byteLength a)
    (ho' : o'.val = byteLength a + c.utf8Size) (hp : l.position o = .ok p)
    (hp' : l.position o' = .ok p') (hline : p'.line = p.line) :
    p'.column.val = p.column.val + 1 := by
  have hnext : sliceText? text o.val o'.val = some (String.singleton c) := by
    rw [sliceText?_eq, Option.map_eq_some_iff]
    refine ⟨[c], slice?_eq_some_iff.2 ⟨a, b, by simp [htext], ho.symm, ?_⟩, rfl⟩
    rw [byteLength_append, ho']
    rfl
  obtain ⟨s, part, hstart, hpart, hposition, hfits⟩ := h.exists_part hsize hvalid
  obtain ⟨s', part', hstart', hpart', hposition', hfits'⟩ := h.exists_part hsize hvalid'
  obtain rfl := Except.ok.inj (hp.symm.trans hposition)
  obtain rfl := Except.ok.inj (hp'.symm.trans hposition')
  have hsame : l.lineOf o' = l.lineOf o := hline
  rw [hsame, hstart] at hstart'
  obtain rfl := Except.ok.inj hstart'
  have hwhole := sliceText?_append hpart hnext
  rw [hpart', Option.some.injEq] at hwhole
  rw [OneBased.val_ofZeroBased hfits, OneBased.val_ofZeroBased hfits', hwhole,
    String.length_append, String.length_singleton]

/-- If all offsets are told alike, every character but the line feed is one of ASCII, and a carriage
return has a line feed behind it. -/
theorem Of.of_agreesAt (h : l.Of text) (hsize : text.utf8ByteSize < UInt32.size)
    (hagree : ∀ o : Offset, String.Pos.Raw.IsValid text ⟨o.val⟩ → AgreesAt text l o)
    (htext : text.toList = a ++ c :: b) (hc : c ≠ '\n') :
    c.val < 128 ∧ (c = '\r' → b.head? = some '\n') := by
  obtain ⟨o, ho, hvalid⟩ := exists_offset hsize htext
  obtain ⟨o', ho', hvalid'⟩ := exists_offset (a := a ++ [c]) (b := b) hsize (by simp [htext])
  have hsingle : byteLength [c] = c.utf8Size := rfl
  rw [byteLength_append, hsingle] at ho'
  obtain ⟨p, hp, hpoint⟩ := hagree o hvalid
  obtain ⟨p', hp', hpoint'⟩ := hagree o' hvalid'
  -- the row stays the same, so the line does, and each byte of the character is counted
  rw [ho', point_next htext hc, ← ho, Prod.mk.injEq] at hpoint'
  rw [Prod.mk.injEq] at hpoint
  have hline : p'.line = p.line := OneBased.ext (hpoint'.1.trans hpoint.1.symm)
  have hcolumn := h.column_next hsize htext hvalid hvalid' ho ho' hp hp' hline
  constructor
  · have hone : c.utf8Size = 1 := by omega
    have hle := Char.utf8Size_eq_one_iff.1 hone
    rw [UInt32.le_iff_toNat_le] at hle
    exact UInt32.lt_iff_toNat_lt.2 (Nat.lt_succ_of_le hle)
  · rintro rfl
    by_contra hlone
    have hlt := h.lineOf_lt_of_lone hsize htext hlone ho ho'
    rw [← h.line_eq hsize hvalid hp, ← h.line_eq hsize hvalid' hp', hline] at hlt
    exact Nat.lt_irrefl _ hlt

/-- Outlines tell of an offset how many line feeds stand in front of it and how many bytes behind
the last of these; reports tell lines and columns. In a text whose size has 32 bits they tell the
same of all offsets between characters exactly if the text has ASCII characters only and a line feed
directly behind every carriage return. -/
theorem agreesAt_iff (text : String) (hsize : text.utf8ByteSize < UInt32.size) :
    (∀ a b, text.toList = a ++ b →
      point (rows text) (byteLength a) = (a.count '\n', byteLength (lastRow a))) ∧
    ∃ l, Lines.ofText text = .ok l ∧
      ((∀ o : Offset, String.Pos.Raw.IsValid text ⟨o.val⟩ → AgreesAt text l o) ↔
        (∀ c ∈ text.toList, c.val < 128) ∧ FeedsFollow text.toList) := by
  obtain ⟨l, hl, hof⟩ := exists_ofText hsize
  refine ⟨fun a b => point_rows, l, hl, fun hagree => ⟨fun c hc => ?_, fun a b htext => ?_⟩,
    fun ⟨hascii, hfeeds⟩ o _ => hof.agreesAt hsize hascii hfeeds o⟩
  · obtain ⟨a, b, htext⟩ := List.append_of_mem hc
    by_cases hfeed : c = '\n'
    · subst hfeed
      decide
    · exact (hof.of_agreesAt hsize hagree htext hfeed).1
  · exact (hof.of_agreesAt hsize hagree htext (by decide)).2 rfl

/-- A text in which a carriage return has a line feed behind it. -/
theorem agreesAt_iff_sample :
    let text := "a\r\n\nb"
    (∀ a b, text.toList = a ++ b →
      point (rows text) (byteLength a) = (a.count '\n', byteLength (lastRow a))) ∧
    ∃ l, Lines.ofText text = .ok l ∧
      ((∀ o : Offset, String.Pos.Raw.IsValid text ⟨o.val⟩ → AgreesAt text l o) ↔
        (∀ c ∈ text.toList, c.val < 128) ∧ FeedsFollow text.toList) :=
  agreesAt_iff _ (by decide)

end Lines

end Text

end JavaLint
