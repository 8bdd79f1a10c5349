import JavaLint.Proofs.Lines

/-!
# Where lines start, by bytes

The starts of lines are found in the characters of a text. They can be told from its bytes alone: a
line starts at the start of the text, behind every line feed, and behind every carriage return with
no line feed behind it (`Text.EndsLine`). For a byte of a line feed or a carriage return is never a
part of another character.

A scan for the next such byte, taken up again behind each end of a line, finds the same starts. The
scan is said by a relation, so that a scan that went on for ever would find nothing
(`Text.Scans`). Main statement: in a text of 32 bits the starts of lines are found; they
increase, they are those that the bytes tell and those that the scan finds, and they lie between
characters (`Text.Lines.starts_ofText`).
-/

namespace JavaLint.Text

/-! ### The bytes of a text -/

/-- The bytes of some characters. -/
def encode (cs : List Char) : List UInt8 := cs.flatMap String.utf8EncodeChar

/-- The bytes of a text. -/
def bytesOf (text : String) : List UInt8 := text.toByteArray.data.toList

theorem bytesOf_eq_encode (text : String) : bytesOf text = encode text.toList := by
  have htext : text.toByteArray = text.toList.utf8Encode := by
    rw [← String.toByteArray_ofList, String.ofList_toList]
  rw [bytesOf, htext, List.utf8Encode]
  simp [encode]

theorem encode_cons (c : Char) (cs : List Char) :
    encode (c :: cs) = String.utf8EncodeChar c ++ encode cs := List.flatMap_cons

theorem encode_append (a b : List Char) : encode (a ++ b) = encode a ++ encode b :=
  List.flatMap_append

theorem length_encode (cs : List Char) : (encode cs).length = byteLength cs := by
  induction cs with
  | nil => rfl
  | cons c cs ih => rw [encode_cons, List.length_append, String.length_utf8EncodeChar, ih, byteLength]

/-- A byte below 128 stands for the character with that number, and is no part of another one. -/
theorem toNat_eq_of_mem_utf8EncodeChar {c : Char} {b : UInt8} (h : b ∈ String.utf8EncodeChar c)
    (hb : b.toNat < 128) : c.val.toNat = b.toNat := by
  simp only [String.utf8EncodeChar] at h
  split at h
  · obtain rfl := List.mem_singleton.1 h
    rw [UInt8.toNat_ofNat']
    omega
  · -- all bytes of a longer code are 128 or more
    exfalso
    split at h
    · simp only [List.mem_cons, List.not_mem_nil, or_false] at h
      rcases h with rfl | rfl <;> rw [UInt8.toNat_ofNat'] at hb <;> omega
    · split at h
      · simp only [List.mem_cons, List.not_mem_nil, or_false] at h
        rcases h with rfl | rfl | rfl <;> rw [UInt8.toNat_ofNat'] at hb <;> omega
      · simp only [List.mem_cons, List.not_mem_nil, or_false] at h
        rcases h with rfl | rfl | rfl | rfl <;> rw [UInt8.toNat_ofNat'] at hb <;> omega

/-! ### The ends of lines in the bytes -/

def lineFeed : UInt8 := 10

def carriageReturn : UInt8 := 13

/-- Whether the byte ends a line, or may be the first of two that do. -/
def isTerminator (b : UInt8) : Bool := b == lineFeed || b == carriageReturn

theorem isTerminator_iff {b : UInt8} : isTerminator b = true ↔ b = lineFeed ∨ b = carriageReturn := by
  rw [isTerminator, Bool.or_eq_true, beq_iff_eq, beq_iff_eq]

/-- A line ends directly before the place: behind a line feed, or behind a carriage return with no
line feed behind it. -/
def EndsLine (bytes : List UInt8) (p : Nat) : Prop :=
  0 < p ∧ (bytes[p - 1]? = some lineFeed ∨
    bytes[p - 1]? = some carriageReturn ∧ bytes[p]? ≠ some lineFeed)

/-- Where the scan goes on behind a terminator: behind the line feed after a carriage return, else
directly behind the terminator. -/
def behind (bytes : List UInt8) (i : Nat) : Nat :=
  if bytes[i]? = some carriageReturn ∧ bytes[i + 1]? = some lineFeed then i + 2 else i + 1

variable {bytes : List UInt8}

theorem EndsLine.exists_terminator {p : Nat} (h : EndsLine bytes p) :
    ∃ b, bytes[p - 1]? = some b ∧ isTerminator b = true := by
  obtain ⟨-, h | ⟨h, -⟩⟩ := h
  · exact ⟨_, h, rfl⟩
  · exact ⟨_, h, rfl⟩

theorem EndsLine.le_length {p : Nat} (h : EndsLine bytes p) : p ≤ bytes.length := by
  obtain ⟨b, hb, -⟩ := h.exists_terminator
  obtain ⟨hlt, -⟩ := List.getElem?_eq_some_iff.1 hb
  omega

theorem lt_behind (bytes : List UInt8) (i : Nat) : i < behind bytes i := by
  unfold behind
  split <;> omega

/-- A line ends behind every terminator. -/
theorem endsLine_behind {i : Nat} {b : UInt8} (hb : bytes[i]? = some b)
    (hterminator : isTerminator b = true) : EndsLine bytes (behind bytes i) := by
  unfold behind
  split
  · rename_i h
    exact ⟨Nat.succ_pos _, .inl h.2⟩
  · rename_i h
    refine ⟨Nat.succ_pos _, ?_⟩
    rw [Nat.add_sub_cancel]
    rcases isTerminator_iff.1 hterminator with rfl | rfl
    · exact .inl hb
    · exact .inr ⟨hb, fun hfeed => h ⟨hb, hfeed⟩⟩

/-- No line ends between a carriage return and the line feed behind it. -/
theorem EndsLine.behind_le {i p : Nat} (h : EndsLine bytes p) (hlt : i < p) :
    behind bytes i ≤ p := by
  unfold behind
  split
  · rename_i hpair
    by_contra hge
    obtain rfl : p = i + 1 := by omega
    obtain ⟨-, hfeed | ⟨-, hno⟩⟩ := h
    · rw [Nat.add_sub_cancel, hpair.1] at hfeed
      exact absurd hfeed (by decide)
    · exact hno hpair.2
  · exact hlt

/-- The rounds of the scan: each looks for the next terminator in the bytes from a place on, which lies
in the text, and the next round goes on behind it. -/
inductive Scans (bytes : List UInt8) : Nat → List Nat → Prop
  | ended {pos : Nat} (hpos : pos ≤ bytes.length)
      (hnone : (bytes.drop pos).findIdx? isTerminator = none) : Scans bytes pos []
  | found {pos i : Nat} {starts : List Nat} (hpos : pos ≤ bytes.length)
      (hfound : (bytes.drop pos).findIdx? isTerminator = some i)
      (hscan : Scans bytes (behind bytes (pos + i)) starts) :
      Scans bytes pos (behind bytes (pos + i) :: starts)

theorem mem_drop_of_getElem? {pos i : Nat} {b : UInt8} (hb : bytes[i]? = some b) (hle : pos ≤ i) :
    b ∈ bytes.drop pos := by
  refine List.mem_of_getElem? (i := i - pos) ?_
  rw [List.getElem?_drop, Nat.add_sub_cancel' hle, hb]

theorem of_findIdx?_drop {pos i : Nat} (h : (bytes.drop pos).findIdx? isTerminator = some i) :
    (∃ b, bytes[pos + i]? = some b ∧ isTerminator b = true) ∧
      ∀ j b, pos ≤ j → j < pos + i → bytes[j]? = some b → isTerminator b = false := by
  obtain ⟨hlt, hterminator, hclear⟩ := List.findIdx?_eq_some_iff_getElem.1 h
  rw [List.length_drop] at hlt
  rw [List.getElem_drop] at hterminator
  refine ⟨⟨_, List.getElem?_eq_getElem (by omega), hterminator⟩, fun j b hpos hj hb => ?_⟩
  obtain ⟨hjlt, rfl⟩ := List.getElem?_eq_some_iff.1 hb
  have hno := hclear (j - pos) (by omega)
  simp only [List.getElem_drop, Nat.add_sub_cancel' hpos] at hno
  exact Bool.not_eq_true _ ▸ hno

namespace Scans

variable {pos : Nat} {starts : List Nat}

/-- A scan finds one list of starts only. -/
theorem unique {others : List Nat} (h : Scans bytes pos starts) (h' : Scans bytes pos others) :
    starts = others := by
  induction h generalizing others with
  | ended _ hnone =>
    cases h' with
    | ended => rfl
    | found _ hfound => exact absurd (hnone.symm.trans hfound) (Option.some_ne_none _).symm
  | found _ hfound _ ih =>
    cases h' with
    | ended _ hnone => exact absurd (hnone.symm.trans hfound) (Option.some_ne_none _).symm
    | found _ hfound' hscan' =>
      obtain rfl := Option.some.inj (hfound.symm.trans hfound')
      rw [ih hscan']

/-- The scan may begin earlier if there is no terminator in between. -/
theorem of_skip {front middle back : List UInt8} (hmiddle : ∀ b ∈ middle, isTerminator b = false)
    (h : Scans (front ++ middle ++ back) (front ++ middle).length starts) :
    Scans (front ++ middle ++ back) front.length starts := by
  have hskip : (middle ++ back).findIdx? isTerminator =
      (back.findIdx? isTerminator).map (· + middle.length) := by
    rw [List.findIdx?_append, List.findIdx?_eq_none_iff.2 hmiddle, Option.none_or]
  have hfront : (front ++ middle ++ back).drop front.length = middle ++ back := by
    rw [List.append_assoc, List.drop_left]
  have hback : (front ++ middle ++ back).drop (front ++ middle).length = back := List.drop_left
  cases h with
  | ended hpos hnone =>
    rw [hback] at hnone
    refine .ended (by simp) ?_
    rw [hfront, hskip, hnone]
    rfl
  | @found _ i _ hpos hfound hscan =>
    rw [hback] at hfound
    have hsum : (front ++ middle).length + i = front.length + (i + middle.length) := by
      rw [List.length_append]
      omega
    rw [hsum] at hscan ⊢
    refine .found (by simp) ?_ hscan
    rw [hfront, hskip, hfound]
    rfl

/-- A terminator right ahead ends a line. -/
theorem of_terminator {front back : List UInt8} {b : UInt8} {next : Nat}
    (hb : isTerminator b = true)
    (hnext : next = if b = carriageReturn ∧ back.head? = some lineFeed then front.length + 2
      else front.length + 1)
    (h : Scans (front ++ b :: back) next starts) :
    Scans (front ++ b :: back) front.length (next :: starts) := by
  have hhere : (front ++ b :: back)[front.length]? = some b := by simp
  have hbehind : (front ++ b :: back)[front.length + 1]? = back.head? := by
    rw [List.getElem?_append_right (Nat.le_succ _), List.head?_eq_getElem?]
    simp
  have hfound : ((front ++ b :: back).drop front.length).findIdx? isTerminator = some 0 := by
    rw [List.drop_left, List.findIdx?_cons, hb]
    rfl
  obtain rfl : next = behind (front ++ b :: back) (front.length + 0) := by
    simp only [behind, Nat.add_zero, hhere, hbehind, Option.some.injEq, hnext]
  exact .found (by simp) hfound h

/-- What the scan finds are the ends of lines behind its place. -/
theorem mem_iff (h : Scans bytes pos starts) {p : Nat} :
    p ∈ starts ↔ pos < p ∧ EndsLine bytes p := by
  induction h with
  | ended _ hnone =>
    refine iff_of_false List.not_mem_nil ?_
    rintro ⟨hlt, hends⟩
    obtain ⟨b, hb, hterminator⟩ := hends.exists_terminator
    have hmem := mem_drop_of_getElem? hb (Nat.le_sub_one_of_lt hlt)
    rw [List.findIdx?_eq_none_iff.1 hnone b hmem] at hterminator
    exact absurd hterminator Bool.false_ne_true
  | @found pos i starts _ hfound _ ih =>
    obtain ⟨⟨b, hb, hterminator⟩, hclear⟩ := of_findIdx?_drop hfound
    have hbehind := lt_behind bytes (pos + i)
    rw [List.mem_cons, ih]
    constructor
    · rintro (rfl | ⟨hlt, hends⟩)
      · exact ⟨by omega, endsLine_behind hb hterminator⟩
      · exact ⟨by omega, hends⟩
    · rintro ⟨hlt, hends⟩
      obtain ⟨c, hc, hterminator'⟩ := hends.exists_terminator
      have hfirst : pos + i < p := by
        by_contra hge
        rw [hclear (p - 1) c (by omega) (by omega) hc] at hterminator'
        exact Bool.false_ne_true hterminator'
      have hle := hends.behind_le hfirst
      rcases Nat.eq_or_lt_of_le hle with heq | hlt'
      · exact .inl heq.symm
      · exact .inr ⟨hlt', hends⟩

end Scans

/-! ### The starts of lines in the characters -/

theorem eq_of_isTerminator {c : Char} {b : UInt8} (h : b ∈ String.utf8EncodeChar c)
    (hb : isTerminator b = true) :
    c = '\n' ∧ b = lineFeed ∨ c = '\r' ∧ b = carriageReturn := by
  have hc : ∀ d : Char, b.toNat = d.val.toNat → b.toNat < 128 → c = d := fun d hd hlt =>
    Char.ext (UInt32.toNat_inj.1 ((toNat_eq_of_mem_utf8EncodeChar h hlt).trans hd))
  rcases isTerminator_iff.1 hb with rfl | rfl
  · exact .inl ⟨hc '\n' rfl (by decide), rfl⟩
  · exact .inr ⟨hc '\r' rfl (by decide), rfl⟩

/-- Characters whose first byte is a line feed begin with a line feed. -/
theorem eq_cons_of_head?_encode {cs : List Char} (h : (encode cs).head? = some lineFeed) :
    ∃ cs', cs = '\n' :: cs' := by
  cases cs with
  | nil => exact nomatch h
  | cons c cs =>
    have hne : String.utf8EncodeChar c ≠ [] := by
      rw [← List.length_pos_iff, String.length_utf8EncodeChar]
      exact c.utf8Size_pos
    rw [encode_cons, List.head?_append_of_ne_nil _ hne] at h
    rcases eq_of_isTerminator (List.mem_of_head? h) (by decide) with ⟨rfl, -⟩ | ⟨-, hb⟩
    · exact ⟨cs, rfl⟩
    · exact absurd hb (by decide)

/-- The scan of the bytes finds what is found in the characters. -/
theorem scans_startsAfter (front cs : List Char) :
    Scans (encode (front ++ cs)) (byteLength front) (startsAfter (byteLength front) cs) := by
  generalize hpos : byteLength front = pos
  fun_induction startsAfter pos cs generalizing front with
  | case1 pos =>
    rw [List.append_nil]
    rw [← length_encode] at hpos
    exact .ended (Nat.le_of_eq hpos.symm) (by rw [← hpos, List.drop_length, List.findIdx?_nil])
  | case2 pos cs ih =>
    have hscan := ih (front ++ ['\r', '\n']) (by rw [byteLength_append, hpos]; rfl)
    have hbytes : encode (front ++ '\r' :: '\n' :: cs) =
        encode front ++ carriageReturn :: lineFeed :: encode cs := encode_append _ _
    rw [List.append_assoc, List.cons_append, List.singleton_append, hbytes] at hscan
    rw [← length_encode] at hpos
    subst hpos
    rw [hbytes]
    exact .of_terminator (by decide) (if_pos ⟨rfl, rfl⟩).symm hscan
  | case3 pos c cs hnot next hc ih =>
    have hscan := ih (front ++ [c]) (by rw [byteLength_append, hpos]; rfl)
    rw [List.append_assoc, List.singleton_append] at hscan
    rw [← length_encode] at hpos
    subst hpos
    rcases hc with rfl | rfl
    · have hbytes : encode (front ++ '\n' :: cs) = encode front ++ lineFeed :: encode cs :=
        encode_append _ _
      rw [hbytes] at hscan ⊢
      exact .of_terminator (by decide) (if_neg fun h => absurd h.1 (by decide)).symm hscan
    · have hbytes : encode (front ++ '\r' :: cs) = encode front ++ carriageReturn :: encode cs :=
        encode_append _ _
      have hlone : ¬ (carriageReturn = carriageReturn ∧ (encode cs).head? = some lineFeed) := by
        rintro ⟨-, h⟩
        obtain ⟨cs', rfl⟩ := eq_cons_of_head?_encode h
        exact hnot cs' rfl rfl
      rw [hbytes] at hscan ⊢
      exact .of_terminator (by decide) (if_neg hlone).symm hscan
  | case4 pos c cs hnot next hc ih =>
    have hscan := ih (front ++ [c]) (by rw [byteLength_append, hpos]; rfl)
    have hbytes : encode (front ++ c :: cs) =
        encode front ++ String.utf8EncodeChar c ++ encode cs := by
      rw [encode_append, encode_cons, List.append_assoc]
    have hother : ∀ b ∈ String.utf8EncodeChar c, isTerminator b = false := by
      intro b hb
      by_contra hterminator
      rw [Bool.not_eq_false] at hterminator
      rcases eq_of_isTerminator hb hterminator with ⟨rfl, -⟩ | ⟨rfl, -⟩
      · exact hc (.inl rfl)
      · exact hc (.inr rfl)
    have hnext : (encode front ++ String.utf8EncodeChar c).length = next := by
      rw [List.length_append, length_encode, String.length_utf8EncodeChar, hpos]
    rw [List.append_assoc, List.singleton_append, hbytes, ← hnext] at hscan
    rw [← length_encode] at hpos
    rw [hbytes, ← hpos]
    exact .of_skip hother (hnext ▸ hscan)

/-! ### The starts of lines in a text -/

/-- What the bytes of a text say of some starts of lines: they increase, and there is one at the start
of the text and one wherever a line ends. In particular a line feed behind a carriage return does not
end another line, a carriage return alone and one behind a line feed do, and a last byte that ends a
line opens an empty one at the end of the text. -/
structure StartsIn (bytes : List UInt8) (starts : List Nat) : Prop where
  increasing : starts.Pairwise (· < ·)
  mem_iff : ∀ p, p ∈ starts ↔ p = 0 ∨ EndsLine bytes p
  pair : ∀ i, bytes[i]? = some carriageReturn → bytes[i + 1]? = some lineFeed →
    i + 1 ∉ starts ∧ i + 2 ∈ starts
  lone : ∀ i, bytes[i]? = some carriageReturn → bytes[i + 1]? ≠ some lineFeed → i + 1 ∈ starts
  reversed : ∀ i, bytes[i]? = some lineFeed → bytes[i + 1]? = some carriageReturn →
    i + 1 ∈ starts ∧ (bytes[i + 2]? ≠ some lineFeed → i + 2 ∈ starts)
  last : ∀ b ∈ bytes.getLast?, isTerminator b = true →
    bytes.length ∈ starts ∧ ∀ p ∈ starts, p ≤ bytes.length

theorem StartsIn.of_mem_iff {bytes : List UInt8} {starts : List Nat}
    (hincreasing : starts.Pairwise (· < ·))
    (hmem : ∀ p, p ∈ starts ↔ p = 0 ∨ EndsLine bytes p) : StartsIn bytes starts where
  increasing := hincreasing
  mem_iff := hmem
  pair i hreturn hfeed := by
    refine ⟨fun h => ?_, (hmem _).2 (.inr ⟨Nat.succ_pos _, .inl hfeed⟩)⟩
    rcases (hmem _).1 h with h | ⟨-, h | ⟨-, h⟩⟩
    · exact absurd h (Nat.succ_ne_zero i)
    · rw [Nat.add_sub_cancel, hreturn] at h
      exact absurd h (by decide)
    · exact h hfeed
  lone i hreturn hfeed := (hmem _).2 (.inr ⟨Nat.succ_pos _, .inr ⟨hreturn, hfeed⟩⟩)
  reversed i hfeed hreturn :=
    ⟨(hmem _).2 (.inr ⟨Nat.succ_pos _, .inl hfeed⟩),
      fun h => (hmem _).2 (.inr ⟨Nat.succ_pos _, .inr ⟨hreturn, h⟩⟩)⟩
  last b hb hterminator := by
    have hlength : 0 < bytes.length := List.length_pos_of_mem (List.mem_of_getLast? hb)
    rw [Option.mem_def, List.getLast?_eq_getElem?] at hb
    constructor
    · refine (hmem _).2 (.inr ⟨hlength, ?_⟩)
      rcases isTerminator_iff.1 hterminator with rfl | rfl
      · exact .inl hb
      · exact .inr ⟨hb, by simp⟩
    · intro p hp
      rcases (hmem p).1 hp with rfl | hends
      · exact Nat.zero_le _
      · exact hends.le_length

namespace Lines

variable {text : String} {l : Lines}

/-- The scan finds the starts of all lines but the first. -/
theorem Of.scans_iff (h : l.Of text) {starts : List Nat} :
    Scans (bytesOf text) 0 starts ↔ l.starts.map Offset.val = 0 :: starts := by
  have hscan : Scans (bytesOf text) 0 (startsAfter 0 text.toList) :=
    bytesOf_eq_encode text ▸ scans_startsAfter [] text.toList
  rw [h.starts_eq, List.cons.injEq]
  constructor
  · intro h'
    exact ⟨rfl, hscan.unique h'⟩
  · rintro ⟨-, rfl⟩
    exact hscan

theorem Of.startsIn (h : l.Of text) : StartsIn (bytesOf text) (l.starts.map Offset.val) := by
  refine .of_mem_iff (List.pairwise_map.2 h.pairwise) fun p => ?_
  rw [h.starts_eq, List.mem_cons, (h.scans_iff.2 h.starts_eq).mem_iff]
  exact or_congr_right ⟨fun hp => hp.2, fun hp => ⟨hp.1, hp⟩⟩

/-- The lines of a text of 32 bits are found. They start at the start of the text and wherever its
bytes end a line, in increasing order, and always between characters. The scan of the bytes comes to
an end, and these are the starts that it finds. -/
theorem starts_ofText (text : String) (hsize : text.utf8ByteSize < UInt32.size) :
    ∃ l, Lines.ofText text = .ok l ∧ StartsIn (bytesOf text) (l.starts.map Offset.val) ∧
      (∀ s ∈ l.starts, String.Pos.Raw.IsValid text ⟨s.val⟩) ∧
      ∃ starts, Scans (bytesOf text) 0 starts ∧ l.starts.map Offset.val = 0 :: starts ∧
        ∀ others, Scans (bytesOf text) 0 others → others = starts := by
  obtain ⟨l, hl, hof⟩ := exists_ofText hsize
  have hscan := hof.scans_iff.2 hof.starts_eq
  exact ⟨l, hl, hof.startsIn, fun s => hof.isValid, _, hscan, hof.starts_eq,
    fun others h => h.unique hscan⟩

/-- A text with every end of a line, and with a character of two bytes. -/
theorem starts_ofText_sample :
    let text := "ä\r\nb\rc\n\rd\n"
    ∃ l, Lines.ofText text = .ok l ∧ StartsIn (bytesOf text) (l.starts.map Offset.val) ∧
      (∀ s ∈ l.starts, String.Pos.Raw.IsValid text ⟨s.val⟩) ∧
      ∃ starts, Scans (bytesOf text) 0 starts ∧ l.starts.map Offset.val = 0 :: starts ∧
        ∀ others, Scans (bytesOf text) 0 others → others = starts :=
  starts_ofText _ (by decide)

example : startsAfter 0 "ä\r\nb\rc\n\rd\n".toList = [4, 6, 8, 9, 11] := by decide

end Lines

end JavaLint.Text
