import Mathlib.Data.List.Forall2
import Mathlib.Data.List.TakeWhile
import JavaLint.Proofs.Lines

/-!
# Lines make up the text

A text is a sequence of rows: what each row holds has no end of a line in it, and all rows but the last
one are ended by one of the three ends of lines (`Text.Rows`). The lines of the text start where its
rows do. So the spans of the lines lie one behind the other, from the start of the text to its end,
and dropping all ends of lines from the end of a line drops the single one that is there. Main
statement: `Text.Lines.spans_tile`.
-/

namespace JavaLint.Text

/-! ### Rows -/

/-- A row of a text. -/
structure Row where
  /-- What the row holds. -/
  body : List Char
  /-- What ends it. -/
  ending : List Char

namespace Row

def chars (r : Row) : List Char := r.body ++ r.ending

/-- The row holds no end of a line. -/
def IsPlain (r : Row) : Prop := ∀ c ∈ r.body, c ≠ '\r' ∧ c ≠ '\n'

/-- The row is ended once. -/
def IsEnded (r : Row) : Prop := r.ending ∈ [['\n'], ['\r'], ['\r', '\n']]

end Row

/-- The characters are these rows, where each but the first starts at one of the offsets if the first
starts at `pos`. -/
inductive Rows : Nat → List Char → List Nat → List Row → Prop
  | last {pos : Nat} {r : Row} (hplain : r.IsPlain) (hending : r.ending = []) :
      Rows pos r.chars [] [r]
  | ended {pos next : Nat} {cs : List Char} {starts : List Nat} {r : Row} {rows : List Row}
      (hplain : r.IsPlain) (hended : r.IsEnded) (hnext : next = pos + byteLength r.chars)
      (h : Rows next cs starts rows) : Rows pos (r.chars ++ cs) (next :: starts) (r :: rows)

/-- A character that ends no line belongs to the first row. -/
private theorem Rows.exists_cons {pos : Nat} {c : Char} {cs : List Char} {starts : List Nat}
    {rows : List Row} (hc : c ≠ '\r' ∧ c ≠ '\n') (h : Rows (pos + c.utf8Size) cs starts rows) :
    ∃ rows', Rows pos (c :: cs) starts rows' := by
  have hplain : ∀ r : Row, r.IsPlain → Row.IsPlain ⟨c :: r.body, r.ending⟩ := by
    intro r hr d hd
    rcases List.mem_cons.1 hd with rfl | hd
    · exact hc
    · exact hr d hd
  cases h with
  | @last _ r hr hending => exact ⟨_, .last (hplain r hr) hending⟩
  | @ended _ next cs starts r rows hr hended hnext h =>
    have hnext' : next = pos + byteLength (Row.chars ⟨c :: r.body, r.ending⟩) := by
      rw [hnext, Row.chars, Row.chars, List.cons_append, byteLength_cons, Nat.add_assoc]
    exact ⟨_, .ended (hplain r hr) hended hnext' h⟩

/-- The lines of some characters start where their rows do. -/
theorem exists_rows (pos : Nat) (cs : List Char) :
    ∃ rows, Rows pos cs (startsAfter pos cs) rows := by
  have hplain : ∀ ending, Row.IsPlain ⟨[], ending⟩ := fun _ _ hc => absurd hc List.not_mem_nil
  fun_induction startsAfter pos cs with
  | case1 pos => exact ⟨_, .last (hplain []) rfl⟩
  | case2 pos cs ih =>
    obtain ⟨rows, hrows⟩ := ih
    have hended : Row.IsEnded ⟨[], ['\r', '\n']⟩ := by simp [Row.IsEnded]
    exact ⟨_, .ended (hplain _) hended rfl hrows⟩
  | case3 pos c cs _ next hc ih =>
    obtain ⟨rows, hrows⟩ := ih
    have hended : Row.IsEnded ⟨[], [c]⟩ := by
      rcases hc with rfl | rfl <;> simp [Row.IsEnded]
    exact ⟨_, .ended (hplain _) hended rfl hrows⟩
  | case4 pos c cs _ next hc ih =>
    obtain ⟨rows, hrows⟩ := ih
    exact hrows.exists_cons ⟨fun h => hc (.inr h), fun h => hc (.inl h)⟩

/-- The number of bytes in front of the row with an index; behind the last row these are all bytes. -/
def bytesBefore (rows : List Row) (i : Nat) : Nat := byteLength ((rows.take i).flatMap Row.chars)

theorem bytesBefore_cons (r : Row) (rows : List Row) (i : Nat) :
    bytesBefore (r :: rows) (i + 1) = byteLength r.chars + bytesBefore rows i := by
  rw [bytesBefore, List.take_succ_cons, List.flatMap_cons, byteLength_append, bytesBefore]

theorem bytesBefore_of_length_le {rows : List Row} {i : Nat} (h : rows.length ≤ i) :
    bytesBefore rows i = byteLength (rows.flatMap Row.chars) := by
  rw [bytesBefore, List.take_of_length_le h]

namespace Rows

variable {pos : Nat} {cs : List Char} {starts : List Nat} {rows : List Row}

theorem flatMap_chars (h : Rows pos cs starts rows) : rows.flatMap Row.chars = cs := by
  induction h with
  | last => rw [List.flatMap_singleton]
  | ended _ _ _ _ ih => rw [List.flatMap_cons, ih]

theorem length_eq (h : Rows pos cs starts rows) : rows.length = starts.length + 1 := by
  induction h with
  | last => rfl
  | ended _ _ _ _ ih => rw [List.length_cons, List.length_cons, ih]

theorem isPlain (h : Rows pos cs starts rows) {r : Row} (hr : r ∈ rows) : r.IsPlain := by
  induction h with
  | last hplain =>
    obtain rfl := List.mem_singleton.1 hr
    exact hplain
  | ended hplain _ _ _ ih =>
    rcases List.mem_cons.1 hr with rfl | hr
    · exact hplain
    · exact ih hr

/-- All rows but the last one are ended. -/
theorem ending (h : Rows pos cs starts rows) {i : Nat} {r : Row} (hr : rows[i]? = some r) :
    (i + 1 < rows.length → r.IsEnded) ∧ (i + 1 = rows.length → r.ending = []) := by
  induction h generalizing i with
  | last _ hending =>
    cases i with
    | zero =>
      obtain rfl := Option.some.inj hr
      exact ⟨fun hlt => absurd hlt (Nat.lt_irrefl 1), fun _ => hending⟩
    | succ i => exact absurd hr (by simp)
  | ended _ hended _ hrows ih =>
    have hlength := hrows.length_eq
    cases i with
    | zero =>
      obtain rfl := Option.some.inj hr
      refine ⟨fun _ => hended, fun hlast => ?_⟩
      rw [List.length_cons] at hlast
      omega
    | succ i =>
      simp only [List.length_cons, Nat.add_lt_add_iff_right, Nat.add_right_cancel_iff]
      exact ih hr

/-- The offsets are those at which the rows start. -/
theorem getElem?_starts (h : Rows pos cs starts rows) {i : Nat} (hi : i < rows.length) :
    (pos :: starts)[i]? = some (pos + bytesBefore rows i) := by
  induction h generalizing i with
  | last =>
    obtain rfl : i = 0 := Nat.lt_one_iff.1 hi
    rfl
  | ended _ _ hnext _ ih =>
    cases i with
    | zero => rfl
    | succ i =>
      rw [List.getElem?_cons_succ, ih (Nat.lt_of_succ_lt_succ hi), bytesBefore_cons, hnext,
        Nat.add_assoc]

end Rows

namespace Lines

variable {text : String} {l : Lines} {rows : List Row}

/-! ### The spans of lines -/

/-- Where the line with an index starts; behind the last line this is the end of the text. -/
def boundary (l : Lines) (i : Nat) : Except Fault Offset :=
  match l.starts[i]? with
  | some s => .ok s
  | none => Offset.ofText l.text

theorem spanOf_eq (l : Lines) (line : OneBased) :
    l.spanOf line = (l.boundary line.toZeroBased >>= fun start =>
      l.boundary line.val >>= fun stop => Span.ofBounds start stop) := by
  rw [spanOf, startOf, boundary, boundary]
  cases l.starts[line.val]? <;> rfl

/-- The lines have the rows of the text. -/
structure HasRows (text : String) (l : Lines) (rows : List Row) : Prop where
  count_eq : l.count = rows.length
  flatMap_chars : rows.flatMap Row.chars = text.toList
  isPlain : ∀ r ∈ rows, r.IsPlain
  ending : ∀ i r, rows[i]? = some r →
    (i + 1 < l.count → r.IsEnded) ∧ (i + 1 = l.count → r.ending = [])
  exists_boundary : ∀ i, ∃ s, l.boundary i = .ok s ∧ s.val = bytesBefore rows i

theorem Of.exists_hasRows (h : l.Of text) (hsize : text.utf8ByteSize < UInt32.size) :
    ∃ rows, HasRows text l rows := by
  obtain ⟨rows, hrows⟩ := exists_rows 0 text.toList
  have hcount : l.count = rows.length := by
    have hlength := congrArg List.length h.starts_eq
    rw [List.length_map, List.length_cons] at hlength
    rw [count, hlength, hrows.length_eq]
  refine ⟨rows, hcount, hrows.flatMap_chars, fun r => hrows.isPlain,
    fun i r hr => hcount ▸ hrows.ending hr, fun i => ?_⟩
  by_cases hi : i < rows.length
  · have hstart := hrows.getElem?_starts hi
    rw [← h.starts_eq, List.getElem?_map, Nat.zero_add] at hstart
    obtain ⟨s, hs, hval⟩ := Option.map_eq_some_iff.1 hstart
    exact ⟨s, by rw [boundary, hs], hval⟩
  · have hnone : l.starts[i]? = none := List.getElem?_eq_none (by rw [← count]; omega)
    have hend : Offset.ofNat? text.utf8ByteSize = some ⟨_, hsize⟩ := dif_pos hsize
    refine ⟨⟨_, hsize⟩, by rw [boundary, hnone, h.text_eq, Offset.ofText, Offset.ofNat, hend], ?_⟩
    rw [bytesBefore_of_length_le (Nat.le_of_not_lt hi), hrows.flatMap_chars, byteLength_toList]

namespace HasRows

theorem bytesBefore_of_le (h : HasRows text l rows) {i : Nat} (hi : l.count ≤ i) :
    bytesBefore rows i = text.utf8ByteSize := by
  rw [bytesBefore_of_length_le (h.count_eq ▸ hi), h.flatMap_chars, byteLength_toList]

/-- Every line has a span, from the bytes in front of its row to those in front of the next one. -/
theorem exists_span (h : HasRows text l rows) (i : Nat) :
    ∃ s : Span, (∀ line : OneBased, line.val = i + 1 → l.spanOf line = .ok s) ∧
      s.start.val = bytesBefore rows i ∧ s.stop.val = bytesBefore rows (i + 1) := by
  obtain ⟨start, hstart, hstartval⟩ := h.exists_boundary i
  obtain ⟨stop, hstop, hstopval⟩ := h.exists_boundary (i + 1)
  have hle : start.val ≤ stop.val := by
    rw [hstartval, hstopval, bytesBefore, bytesBefore, List.take_add_one, List.flatMap_append,
      byteLength_append]
    exact Nat.le_add_right _ _
  refine ⟨⟨start, stop, hle⟩, fun line hline => ?_, hstartval, hstopval⟩
  rw [spanOf_eq, OneBased.toZeroBased, hline, Nat.add_sub_cancel, hstart, Attempt.bind_ok, hstop,
    Attempt.bind_ok]
  exact dif_pos hle

/-- The text has the characters of a row between the start of the row and that of the next one. -/
theorem sliceText?_eq (h : HasRows text l rows) {i : Nat} {r : Row} (hr : rows[i]? = some r) :
    sliceText? text (bytesBefore rows i) (bytesBefore rows (i + 1)) =
      some (String.ofList r.chars) := by
  have hupto : (rows.take (i + 1)).flatMap Row.chars =
      (rows.take i).flatMap Row.chars ++ r.chars := by
    rw [List.take_add_one, hr, Option.toList_some, List.flatMap_append, List.flatMap_singleton]
  have hsplit : text.toList =
      (rows.take i).flatMap Row.chars ++ r.chars ++ (rows.drop (i + 1)).flatMap Row.chars := by
    rw [← hupto, ← List.flatMap_append, List.take_append_drop, h.flatMap_chars]
  have hslice : slice? text.toList (bytesBefore rows i) (bytesBefore rows (i + 1)) = some r.chars :=
    slice?_eq_some_iff.2 ⟨_, _, hsplit, rfl, by rw [bytesBefore, hupto]⟩
  rw [Text.sliceText?_eq, hslice, Option.map_some]

end HasRows

/-! ### The texts of lines -/

/-- Without the ends of lines at its end, a row is what it holds. -/
private theorem dropWhile_reverse_chars {r : Row} (hplain : r.IsPlain)
    (hending : r.IsEnded ∨ r.ending = []) :
    r.chars.reverse.dropWhile (fun c => c == '\n' || c == '\r') = r.body.reverse := by
  have hends : ∀ c ∈ r.ending.reverse, (c == '\n' || c == '\r') = true := by
    have hforms : ∀ ending ∈ [['\n'], ['\r'], ['\r', '\n'], []], ∀ c ∈ ending.reverse,
        (c == '\n' || c == '\r') = true := by simp
    refine hforms r.ending ?_
    rcases hending with hended | hnone
    · exact List.mem_append_left [[]] hended
    · rw [hnone]
      decide
  have hbody : r.body.reverse.dropWhile (fun c => c == '\n' || c == '\r') = r.body.reverse := by
    rw [List.dropWhile_eq_self_iff]
    intro hlt hhead
    obtain ⟨hreturn, hfeed⟩ := hplain _ (List.mem_reverse.1 (List.getElem_mem hlt))
    rw [Bool.or_eq_true, beq_iff_eq, beq_iff_eq] at hhead
    rcases hhead with h | h
    · exact hfeed h
    · exact hreturn h
  rw [Row.chars, List.reverse_append, List.dropWhile_append_of_pos hends, hbody]

/-- The line has a span. What the text has there is the text of the line, which holds no end of a line,
with one end of a line behind it, or with nothing if it is the last line. -/
def HasText (text : String) (l : Lines) (line : OneBased) : Prop :=
  ∃ s body ending, l.spanOf line = .ok s ∧ l.textOf line = .ok body ∧
    s.slice text = .ok (body ++ ending) ∧ (∀ c ∈ body.toList, c ≠ '\r' ∧ c ≠ '\n') ∧
    (line.val < l.count → ending ∈ ["\n", "\r", "\r\n"]) ∧ (line.val = l.count → ending = "")

theorem HasRows.hasText (h : HasRows text l rows) (htext : l.text = text) {line : OneBased}
    (hline : line.val ≤ l.count) : HasText text l line := by
  obtain ⟨i, hi⟩ : ∃ i, line.val = i + 1 := ⟨line.val - 1, (Nat.sub_add_cancel line.pos).symm⟩
  have hlt : i < rows.length := by
    rw [← h.count_eq]
    omega
  have hr := List.getElem?_eq_getElem hlt
  obtain ⟨hended, hlast⟩ := h.ending i _ hr
  have hplain := h.isPlain _ (List.getElem_mem hlt)
  obtain ⟨s, hs, hstart, hstop⟩ := h.exists_span i
  have hslice : s.slice text = .ok (String.ofList rows[i].chars) := by
    rw [Span.slice, hstart, hstop, h.sliceText?_eq hr]
  have htextOf : l.textOf line = .ok (String.ofList rows[i].body) := by
    have hending : rows[i].IsEnded ∨ rows[i].ending = [] := by
      rcases Nat.eq_or_lt_of_le hline with heq | hlt
      · exact .inr (hlast (by omega))
      · exact .inl (hended (by omega))
    rw [textOf, hs line hi, Attempt.bind_ok, htext, hslice, Attempt.bind_ok, String.toList_ofList]
    simp only [dropWhile_reverse_chars hplain hending, List.reverse_reverse, Attempt.pure_eq_ok]
  refine ⟨s, String.ofList rows[i].body, String.ofList rows[i].ending, hs line hi, htextOf, ?_, ?_,
    fun hlt => ?_, fun heq => ?_⟩
  · rw [hslice, Row.chars, String.ofList_append]
  · rw [String.toList_ofList]
    exact hplain
  · exact List.mem_map_of_mem (f := String.ofList) (hended (by omega))
  · rw [hlast (by omega)]

/-! ### All lines -/

/-- The spans are those of all lines. They lie one behind the other from the start of the text to its
end, and what the text has at them makes up the text. -/
structure Tile (text : String) (l : Lines) (spans : List Span) : Prop where
  length_eq : spans.length = l.count
  spanOf_eq : ∀ line : OneBased, line.val ≤ l.count →
    ∃ s, spans[line.toZeroBased]? = some s ∧ l.spanOf line = .ok s
  first : spans.head?.map (·.start) = some .zero
  adjacent : spans.IsChain fun s t => s.stop = t.start
  last : spans.getLast?.map (·.stop.val) = some text.utf8ByteSize
  slices : ∃ parts, (spans.mapM fun s => s.slice text) = .ok parts ∧ String.join parts = text

theorem HasRows.exists_tile (h : HasRows text l rows) (hcount : 0 < l.count) :
    ∃ spans, Tile text l spans := by
  choose spanAt hspan hstart hstop using h.exists_span
  have hget : ∀ i, i < l.count → ((List.range l.count).map spanAt)[i]? = some (spanAt i) := by
    intro i hi
    rw [List.getElem?_map, List.getElem?_range hi, Option.map_some]
  refine ⟨(List.range l.count).map spanAt, ?_, fun line hline => ?_, ?_, ?_, ?_, ?_⟩
  · rw [List.length_map, List.length_range]
  · have hpos := line.pos
    exact ⟨_, hget _ (by rw [OneBased.toZeroBased]; omega),
      hspan _ line (Nat.sub_add_cancel hpos).symm⟩
  · rw [List.head?_eq_getElem?, hget 0 hcount, Option.map_some]
    exact congrArg some (Offset.ext (hstart 0))
  · rw [List.isChain_iff_getElem]
    intro i hi
    simp only [List.getElem_map, List.getElem_range]
    exact Offset.ext ((hstop i).trans (hstart (i + 1)).symm)
  · rw [List.getLast?_eq_getElem?, List.length_map, List.length_range, hget _ (by omega),
      Option.map_some, hstop, Nat.sub_add_cancel hcount, h.bytesBefore_of_le (Nat.le_refl _)]
  · refine ⟨rows.map fun r => String.ofList r.chars, ?_, ?_⟩
    · rw [Attempt.mapM_eq_ok_iff, List.forall₂_iff_get]
      refine ⟨by simp [h.count_eq], fun i hi hi' => ?_⟩
      simp only [List.get_eq_getElem, List.getElem_map, List.getElem_range]
      rw [Span.slice, hstart, hstop, h.sliceText?_eq (List.getElem?_eq_getElem _)]
    · rw [← String.toList_inj, String.toList_join, List.flatMap_map]
      simp only [String.toList_ofList]
      exact h.flatMap_chars

/-- The lines of a text of 32 bits make up the text: their spans lie one behind the other, and the text
of each line, with the end of the line if it is not the last one, is what the text has at its span.
Every number has a span, which is empty at the end of the text if there are fewer lines. -/
theorem spans_tile (text : String) (hsize : text.utf8ByteSize < UInt32.size) :
    ∃ l spans, Lines.ofText text = .ok l ∧ Tile text l spans ∧
      (∀ line : OneBased, line.val ≤ l.count → HasText text l line) ∧
      ∀ line : OneBased, l.count < line.val → ∃ s, l.spanOf line = .ok s ∧
        s.start.val = text.utf8ByteSize ∧ s.stop.val = text.utf8ByteSize := by
  obtain ⟨l, hl, hof⟩ := exists_ofText hsize
  obtain ⟨rows, hrows⟩ := hof.exists_hasRows hsize
  have hcount : 0 < l.count := Nat.lt_of_lt_of_le (hof.countP_pos .zero) List.countP_le_length
  obtain ⟨spans, htile⟩ := hrows.exists_tile hcount
  refine ⟨l, spans, hl, htile, fun line => hrows.hasText hof.text_eq, fun line hline => ?_⟩
  obtain ⟨s, hs, hstart, hstop⟩ := hrows.exists_span (line.val - 1)
  refine ⟨s, hs line (Nat.sub_add_cancel line.pos).symm, ?_, ?_⟩
  · rw [hstart, hrows.bytesBefore_of_le (by omega)]
  · rw [hstop, hrows.bytesBefore_of_le (by omega)]

/-- A text with every end of a line, with ends of lines in a row, and with a character of two bytes. -/
theorem spans_tile_sample :
    let text := "ä\r\nb\r\r\nc\n\rd\n"
    ∃ l spans, Lines.ofText text = .ok l ∧ Tile text l spans ∧
      (∀ line : OneBased, line.val ≤ l.count → HasText text l line) ∧
      ∀ line : OneBased, l.count < line.val → ∃ s, l.spanOf line = .ok s ∧
        s.start.val = text.utf8ByteSize ∧ s.stop.val = text.utf8ByteSize :=
  spans_tile _ (by decide)

end Lines

end JavaLint.Text
