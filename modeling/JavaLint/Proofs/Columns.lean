import Mathlib.Order.Bounds.Basic
import Mathlib.Order.Nat
import JavaLint.Proofs.Lines

/-!
# Lines and columns of offsets

The line of an offset is the last one that starts no later. It may be searched for among the starts of
lines: as these increase, a search ends at a line that starts at the offset or else between the lines
that start before it and those that start behind it (`Text.Lines.Search`), and there is always a line
that starts before it.

The column of an offset between characters counts the characters of its line in front of it. In a text
of ASCII characters bytes are counted instead, which comes to the same up to the end of the text and
goes on behind it. Other texts have no column behind their end or inside a character. Main statement:
`Text.Lines.position_ofText`.
-/

namespace JavaLint.Text

/-! ### Offsets inside characters -/

/-- The offset lies behind the first byte of a character and in front of its end. -/
def InsideCharacter (text : String) (n : Nat) : Prop :=
  ∃ a c b, text.toList = a ++ c :: b ∧ byteLength a < n ∧ n < byteLength a + c.utf8Size

/-- Some characters have as many bytes as are wanted, or there are too few bytes, or the last byte that
is wanted lies inside a character. -/
private theorem exists_append_or (cs : List Char) (n : Nat) :
    (∃ a b, cs = a ++ b ∧ byteLength a = n) ∨ byteLength cs < n ∨
      ∃ a c b, cs = a ++ c :: b ∧ byteLength a < n ∧ n < byteLength a + c.utf8Size := by
  induction cs generalizing n with
  | nil =>
    rcases Nat.eq_zero_or_pos n with rfl | hpos
    · exact .inl ⟨[], [], rfl, rfl⟩
    · exact .inr (.inl hpos)
  | cons c cs ih =>
    rcases Nat.eq_zero_or_pos n with rfl | hpos
    · exact .inl ⟨[], c :: cs, rfl, rfl⟩
    · by_cases hc : n < c.utf8Size
      · exact .inr (.inr ⟨[], c, cs, rfl, hpos, by rw [byteLength]; omega⟩)
      · rcases ih (n - c.utf8Size) with ⟨a, b, rfl, ha⟩ | hshort | ⟨a, d, b, rfl, ha, hd⟩
        · exact .inl ⟨c :: a, b, rfl, by rw [byteLength_cons]; omega⟩
        · exact .inr (.inl (by rw [byteLength_cons]; omega))
        · refine .inr (.inr ⟨c :: a, d, b, rfl, ?_, ?_⟩) <;> rw [byteLength_cons] <;> omega

theorem InsideCharacter.not_isValid {text : String} {n : Nat} (h : InsideCharacter text n) :
    ¬ String.Pos.Raw.IsValid text ⟨n⟩ := by
  obtain ⟨a, c, b, hsplit, hlt, hgt⟩ := h
  intro hvalid
  obtain ⟨front, back, hfront, rfl⟩ := isValid_iff_exists_append.1 hvalid
  rw [hfront] at hsplit
  rcases List.append_eq_append_iff.1 hsplit with ⟨x, rfl, -⟩ | ⟨x, rfl, hx⟩
  · rw [byteLength_append] at hlt
    omega
  · cases x with
    | nil => simp at hlt
    | cons d x =>
      obtain ⟨rfl, -⟩ := List.cons.inj hx
      rw [byteLength_append, byteLength_cons] at hgt
      omega

/-- An offset does not lie between characters exactly if it is past the end or inside a character. -/
theorem not_isValid_iff {text : String} {n : Nat} :
    ¬ String.Pos.Raw.IsValid text ⟨n⟩ ↔ text.utf8ByteSize < n ∨ InsideCharacter text n := by
  constructor
  · intro hno
    rcases exists_append_or text.toList n with h | h
    · exact absurd (isValid_iff_exists_append.2 h) hno
    · rwa [byteLength_toList] at h
  · rintro (hpast | hinside)
    · intro hvalid
      exact absurd hvalid.le_rawEndPos (Nat.not_le_of_lt hpast)
    · exact hinside.not_isValid

namespace Lines

variable {text : String} {l : Lines} {o : Offset}

/-! ### Searching for a line -/

/-- How a search for an offset among the starts of lines may end. -/
inductive SearchEnd where
  /-- At the line with this index, which starts at the offset. -/
  | hit (index : Nat)
  /-- In front of the line with this index, or behind all lines. -/
  | miss (next : Nat)

/-- A search for an offset may end at a line that starts there, or else where such a line would have to
be put in. -/
inductive Search (l : Lines) (o : Offset) : SearchEnd → Prop
  | hit {i : Nat} (h : l.starts[i]? = some o) : Search l o (.hit i)
  | miss {n : Nat} (hn : n ≤ l.count) (hbefore : ∀ i s, l.starts[i]? = some s → i < n → s < o)
      (hbehind : ∀ i s, l.starts[i]? = some s → n ≤ i → o < s) : Search l o (.miss n)

/-- The line of an offset is the greatest one that starts no later. A search for the offset comes to an
end, and wherever that is, it tells the line: if no line starts at the offset, it ends directly behind
the line, and so never in front of all lines. -/
structure FindsLine (l : Lines) (o : Offset) : Prop where
  isGreatest : ∃ i, IsGreatest {i | ∃ s, l.starts[i]? = some s ∧ s ≤ o} i ∧
    (l.lineOf o).val = i + 1
  exists_search : ∃ e, l.Search o e
  hit : ∀ i, l.Search o (.hit i) → (l.lineOf o).val = i + 1
  miss : ∀ n, l.Search o (.miss n) → 0 < n ∧ (l.lineOf o).val = n

theorem Of.findsLine (h : l.Of text) (hsize : text.utf8ByteSize < UInt32.size) (o : Offset) :
    l.FindsLine o := by
  obtain ⟨i, s, hs, hline, hlater⟩ := h.exists_lineOf hsize o
  have hle : s ≤ o := (hlater i s hs).2 (Nat.le_refl i)
  obtain ⟨hlt, hget⟩ := List.getElem?_eq_some_iff.1 hs
  refine ⟨⟨i, ⟨⟨s, hs, hle⟩, fun j ⟨t, ht, hto⟩ => (hlater j t ht).1 hto⟩, hline⟩, ?_, ?_, ?_⟩
  · by_cases ho : o ∈ l.starts
    · obtain ⟨j, hj⟩ := List.getElem?_of_mem ho
      exact ⟨.hit j, .hit hj⟩
    · refine ⟨.miss (i + 1), .miss hlt (fun j t ht hj => ?_) fun j t ht hj => ?_⟩
      · have hto : t ≤ o := (hlater j t ht).2 (Nat.le_of_lt_succ hj)
        refine Nat.lt_of_le_of_ne hto fun heq => ho ?_
        rw [← Offset.ext heq]
        exact List.mem_of_getElem? ht
      · exact Nat.lt_of_not_le fun hto => absurd ((hlater j t ht).1 hto) (Nat.not_le_of_lt hj)
  · rintro j ⟨hj⟩
    have hji : j ≤ i := (hlater j o hj).1 (Nat.le_refl o.val)
    obtain ⟨hjlt, hjget⟩ := List.getElem?_eq_some_iff.1 hj
    -- two starts that are no later than each other are one
    rcases Nat.eq_or_lt_of_le hji with rfl | hji
    · exact hline
    · have hos := List.pairwise_iff_getElem.1 h.pairwise j i hjlt hlt hji
      rw [hjget, hget] at hos
      exact absurd hle (Nat.not_le_of_lt hos)
  · rintro n (_ | ⟨hn, hbefore, hbehind⟩)
    have hin : i < n := Nat.lt_of_not_le fun hni =>
      absurd hle (Nat.not_le_of_lt (hbehind i s hs hni))
    have hni : n ≤ i + 1 := by
      by_contra hlast
      have hnext : i + 1 < l.starts.length := Nat.lt_of_lt_of_le (Nat.lt_of_not_le hlast) hn
      have hget := List.getElem?_eq_getElem hnext
      have hto := Nat.le_of_lt (hbefore (i + 1) _ hget (Nat.lt_of_not_le hlast))
      exact absurd ((hlater (i + 1) _ hget).1 hto) (Nat.not_succ_le_self i)
    exact ⟨Nat.zero_lt_of_lt hin, by omega⟩

/-! ### Counting characters -/

/-- The position of an offset: its line, and the number of characters between the start of the line and
the offset, counted from one. -/
def CountsCharacters (text : String) (l : Lines) (o : Offset) (p : Position) : Prop :=
  p.line = l.lineOf o ∧ ∃ s front part back, l.startOf p.line = .ok s ∧
    text = front ++ part ++ back ∧ front.utf8ByteSize = s.val ∧
    (front ++ part).utf8ByteSize = o.val ∧ p.column.val = part.length + 1

theorem Of.exists_countsCharacters (h : l.Of text) (hsize : text.utf8ByteSize < UInt32.size)
    (ho : String.Pos.Raw.IsValid text ⟨o.val⟩) :
    ∃ p, l.position o = .ok p ∧ CountsCharacters text l o p := by
  obtain ⟨s, part, hstart, hpart, hposition, hfits⟩ := h.exists_part hsize ho
  obtain ⟨front, back, htext, hfront, hstop⟩ := sliceText?_eq_some_iff.1 hpart
  exact ⟨_, hposition, rfl, s, front, part, back, hstart, htext, hfront, hstop,
    OneBased.val_ofZeroBased hfits⟩

/-- In a text of ASCII characters it makes no difference whether bytes or characters are counted. -/
theorem Of.position_eq_of_ascii (h : l.Of text) (hsize : text.utf8ByteSize < UInt32.size)
    (hascii : ∀ c ∈ text.toList, c.val < 128) (ho : String.Pos.Raw.IsValid text ⟨o.val⟩)
    (flag : Bool) : ({ l with isAscii := flag } : Lines).position o = l.position o := by
  obtain ⟨s, part, hstart, hpart, hposition, -⟩ := h.exists_part hsize ho
  have hsame : ({ l with isAscii := flag } : Lines).startOf (l.lineOf o) = .ok s := hstart
  rw [hposition]
  exact position_eq_of_part (l := { l with isAscii := flag }) h.text_eq (fun _ => hascii) hsame hpart

/-- Other texts have no position exactly behind their end and inside a character. -/
theorem Of.exists_error_iff (h : l.Of text) (hsize : text.utf8ByteSize < UInt32.size)
    (hascii : ¬ ∀ c ∈ text.toList, c.val < 128) :
    (∃ e, l.position o = .error e) ↔ text.utf8ByteSize < o.val ∨ InsideCharacter text o.val := by
  rw [← not_isValid_iff]
  constructor
  · rintro ⟨e, he⟩ hvalid
    obtain ⟨p, hp⟩ := h.exists_position hsize hvalid
    exact nomatch he.symm.trans hp
  · intro hno
    obtain ⟨s, -, hstart, hle⟩ := h.exists_startOf hsize o
    have hflag : l.isAscii = false := Bool.eq_false_iff.2 (mt h.forall_ascii_iff.1 hascii)
    have hnone : sliceText? text s.val o.val = none := dif_neg fun hcut => hno hcut.2.2
    refine ⟨.unsliceable, ?_⟩
    rw [position_of_not_isAscii hflag hstart hle, h.text_eq, hnone, Option.elim_none]

/-! ### Counting bytes -/

/-- In a text of ASCII characters all offsets have a position, which counts bytes from the start of the
line on. -/
theorem Of.exists_position_of_ascii (h : l.Of text) (hsize : text.utf8ByteSize < UInt32.size)
    (hascii : ∀ c ∈ text.toList, c.val < 128) (o : Offset) :
    ∃ s p, l.starts[(l.lineOf o).toZeroBased]? = some s ∧ l.position o = .ok p ∧
      p.line = l.lineOf o ∧ p.column.val = o.val - s.val + 1 := by
  obtain ⟨s, hs, hstart, hle⟩ := h.exists_startOf hsize o
  have hlimits : UInt32.size < UInt64.size := by decide
  have hcolumn : o.val - s.val + 1 < UInt64.size := by
    have := o.lt_limit
    omega
  exact ⟨s, _, hs, position_of_isAscii (h.forall_ascii_iff.2 hascii) hstart hle, rfl,
    OneBased.val_ofZeroBased hcolumn⟩

/-- Behind the end of the text is the last line. -/
theorem Of.lineOf_of_lt (h : l.Of text) (hsize : text.utf8ByteSize < UInt32.size)
    (ho : text.utf8ByteSize < o.val) : (l.lineOf o).val = l.count := by
  obtain ⟨i, s, hs, hline, hlater⟩ := h.exists_lineOf hsize o
  have hlt : i < l.starts.length := (List.getElem?_eq_some_iff.1 hs).1
  have hlast : l.starts.length - 1 < l.starts.length := by omega
  have hget := List.getElem?_eq_getElem hlast
  have hle : l.starts[l.starts.length - 1].val ≤ text.utf8ByteSize :=
    (h.isValid (List.getElem_mem hlast)).le_rawEndPos
  have hi := (hlater _ _ hget).1 (Nat.le_trans hle (Nat.le_of_lt ho))
  rw [hline, count]
  omega

/-! ### All offsets -/

/-- What the lines of a text tell of offsets. -/
structure Locates (text : String) (l : Lines) : Prop where
  /-- Every offset has a line. -/
  findsLine : ∀ o, l.FindsLine o
  /-- Between characters, the column counts characters. -/
  countsCharacters : ∀ o, String.Pos.Raw.IsValid text ⟨o.val⟩ →
    ∃ p, l.position o = .ok p ∧ CountsCharacters text l o p
  /-- In a text of ASCII characters, counting bytes there gives the same as counting characters. -/
  position_eq_of_ascii : (∀ c ∈ text.toList, c.val < 128) → ∀ o,
    String.Pos.Raw.IsValid text ⟨o.val⟩ →
      ({ l with isAscii := true } : Lines).position o =
        ({ l with isAscii := false } : Lines).position o
  /-- In other texts, positions are lacking behind the end and inside characters. -/
  exists_error_iff : (¬ ∀ c ∈ text.toList, c.val < 128) → ∀ o,
    (∃ e, l.position o = .error e) ↔ text.utf8ByteSize < o.val ∨ InsideCharacter text o.val
  /-- In a text of ASCII characters they never are, and behind the end bytes are counted from the start
  of the last line on. -/
  exists_position_of_ascii : (∀ c ∈ text.toList, c.val < 128) → ∀ o,
    ∃ p, l.position o = .ok p ∧ (text.utf8ByteSize < o.val →
      ∃ s, l.starts.getLast? = some s ∧ p.line.val = l.count ∧ p.column.val = o.val - s.val + 1)

/-- The lines of a text of 32 bits are found. Every offset has a line, the last one that starts no
later; offsets between characters have a position in it, which counts characters. -/
theorem position_ofText (text : String) (hsize : text.utf8ByteSize < UInt32.size) :
    ∃ l, Lines.ofText text = .ok l ∧ Locates text l := by
  obtain ⟨l, hl, hof⟩ := exists_ofText hsize
  refine ⟨l, hl, hof.findsLine hsize, fun o => hof.exists_countsCharacters hsize,
    fun hascii o ho => ?_, fun hascii o => hof.exists_error_iff hsize hascii,
    fun hascii o => ?_⟩
  · exact (hof.position_eq_of_ascii hsize hascii ho true).trans
      (hof.position_eq_of_ascii hsize hascii ho false).symm
  · obtain ⟨s, p, hs, hp, hline, hcolumn⟩ := hof.exists_position_of_ascii hsize hascii o
    refine ⟨p, hp, fun ho => ?_⟩
    have hlast := hof.lineOf_of_lt hsize ho
    refine ⟨s, ?_, hline ▸ hlast, hcolumn⟩
    rwa [OneBased.toZeroBased, hlast, count, ← List.getLast?_eq_getElem?] at hs

/-- A text with characters of one and of two bytes. -/
theorem position_ofText_sample :
    ∃ l, Lines.ofText "/* größe */\r\nstatic" = .ok l ∧ Locates "/* größe */\r\nstatic" l :=
  position_ofText _ (by decide)

end Lines

end JavaLint.Text
