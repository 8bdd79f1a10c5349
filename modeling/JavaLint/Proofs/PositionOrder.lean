import JavaLint.Proofs.Lines
import JavaLint.Proofs.Sorting

/-!
# Positions are ordered like offsets

Of two offsets between characters the smaller one has the smaller position: its line is not the later
one, and in the same line fewer characters stand in front of it (`Text.Lines.Of.compare_eq`). So
offsets have different positions, and reports are sorted by position as they would be by where they
start. Main statement: `Text.Lines.position_strictMono`.
-/

namespace JavaLint

open JavaLint.Text

/-! ### The order of positions -/

namespace Text.Position

theorem compare_eq_lt_iff {p q : Position} :
    compare p q = .lt ↔ p.line.val < q.line.val ∨
      p.line.val = q.line.val ∧ p.column.val < q.column.val := by
  change (compare p.line.val q.line.val).then (compare p.column.val q.column.val) = .lt ↔ _
  rw [Ordering.then_eq_lt, Nat.compare_eq_lt, Nat.compare_eq_lt, Nat.compare_eq_eq]

theorem compare_swap (p q : Position) : (compare p q).swap = compare q p := by
  change ((compare p.line.val q.line.val).then (compare p.column.val q.column.val)).swap =
    (compare q.line.val p.line.val).then (compare q.column.val p.column.val)
  rw [Ordering.swap_then, Nat.compare_swap, Nat.compare_swap]

theorem compare_self (p : Position) : compare p p = .eq := by
  change (compare p.line.val p.line.val).then (compare p.column.val p.column.val) = .eq
  rw [Nat.compare_eq_eq.2 rfl, Nat.compare_eq_eq.2 rfl]
  rfl

end Text.Position

namespace Text.Lines

variable {text : String} {l : Lines} {a b : Offset} {p q : Position}

/-- The line of the smaller offset is not the later one. -/
theorem Of.lineOf_mono (h : l.Of text) (hsize : text.utf8ByteSize < UInt32.size) (hab : a ≤ b) :
    (l.lineOf a).val ≤ (l.lineOf b).val := by
  obtain ⟨i, s, hs, ha, hlater⟩ := h.exists_lineOf hsize a
  obtain ⟨j, -, -, hb, hlater'⟩ := h.exists_lineOf hsize b
  have hsa : s ≤ a := (hlater i s hs).2 (Nat.le_refl i)
  have hij : i ≤ j := (hlater' i s hs).1 (Nat.le_trans hsa hab)
  rw [ha, hb]
  exact Nat.succ_le_succ hij

/-- The smaller offset has the smaller position. -/
theorem Of.compare_eq_lt (h : l.Of text) (hsize : text.utf8ByteSize < UInt32.size)
    (ha : String.Pos.Raw.IsValid text ⟨a.val⟩) (hb : String.Pos.Raw.IsValid text ⟨b.val⟩)
    (hlt : a < b) (hp : l.position a = .ok p) (hq : l.position b = .ok q) :
    compare p q = .lt := by
  obtain ⟨s, part, hstart, hpart, hposition, hfits⟩ := h.exists_part hsize ha
  obtain ⟨t, part', hstart', hpart', hposition', hfits'⟩ := h.exists_part hsize hb
  obtain rfl := Except.ok.inj (hp.symm.trans hposition)
  obtain rfl := Except.ok.inj (hq.symm.trans hposition')
  rw [Position.compare_eq_lt_iff]
  rcases Nat.eq_or_lt_of_le (h.lineOf_mono hsize (Nat.le_of_lt hlt)) with hline | hline
  · -- the part in front of the larger offset goes on where that of the smaller one ends
    right
    refine ⟨hline, ?_⟩
    rw [OneBased.ext hline, hstart'] at hstart
    obtain rfl : t = s := Except.ok.inj hstart
    obtain ⟨next, hnext⟩ := exists_sliceText? (Nat.le_of_lt hlt) ha hb
    have hwhole := sliceText?_append hpart hnext
    rw [hpart', Option.some.injEq] at hwhole
    subst hwhole
    have hpos := length_pos_of_sliceText? hlt hnext
    rw [OneBased.val_ofZeroBased hfits, OneBased.val_ofZeroBased hfits', String.length_append]
    omega
  · exact .inl hline

/-- Positions of offsets between characters are ordered like the offsets. -/
theorem Of.compare_eq (h : l.Of text) (hsize : text.utf8ByteSize < UInt32.size)
    (ha : String.Pos.Raw.IsValid text ⟨a.val⟩) (hb : String.Pos.Raw.IsValid text ⟨b.val⟩)
    (hp : l.position a = .ok p) (hq : l.position b = .ok q) : compare p q = compare a b := by
  change compare p q = compare a.val b.val
  rcases Nat.lt_trichotomy a.val b.val with hlt | heq | hgt
  · rw [h.compare_eq_lt hsize ha hb hlt hp hq, Nat.compare_eq_lt.2 hlt]
  · obtain rfl := Offset.ext heq
    obtain rfl := Except.ok.inj (hp.symm.trans hq)
    rw [Nat.compare_eq_eq.2 rfl, Position.compare_self]
  · rw [← Position.compare_swap, h.compare_eq_lt hsize hb ha hgt hq hp, Nat.compare_eq_gt.2 hgt]
    rfl

end Text.Lines

/-! ### Sorting by position -/

namespace Message

/-- Reports are ordered by where they start, then by the names of their rules. -/
def leByStart (a b : Message) : Bool :=
  ((compare a.diagnostic.span.start b.diagnostic.span.start).then (compare a.rule b.rule)).isLE

/-- The report starts between characters of the text, and its position is that of its start. -/
def IsPlaced (text : String) (l : Lines) (m : Message) : Prop :=
  String.Pos.Raw.IsValid text ⟨m.diagnostic.span.start.val⟩ ∧
    l.position m.diagnostic.span.start = .ok m.position

variable {text : String} {l : Lines} {ms : List Message}

theorem compare_position_eq (h : l.Of text) (hsize : text.utf8ByteSize < UInt32.size) {a b : Message}
    (ha : a.IsPlaced text l) (hb : b.IsPlaced text l) :
    compare a.position b.position =
      compare a.diagnostic.span.start b.diagnostic.span.start :=
  h.compare_eq hsize ha.1 hb.1 ha.2 hb.2

end Message

/-- Orders that agree on the elements of a list sort it alike. -/
private theorem mergeSort_eq_of_agree {α : Type} {le le' : α → α → Bool} {xs : List α}
    (h : ∀ a ∈ xs, ∀ b ∈ xs, le a b = le' a b) : xs.mergeSort le = xs.mergeSort le' := by
  have hmap := List.map_mergeSort (f := id) h
  rwa [List.map_id, List.map_id] at hmap

/-- In a text of 32 bits all offsets between characters have a position, and the smaller offset has the
smaller one. So the position tells the offset; and reports are sorted by position, whether the names of
their rules count or not, as they are by where they start. -/
theorem Text.Lines.position_strictMono (text : String) (hsize : text.utf8ByteSize < UInt32.size) :
    ∃ l, Lines.ofText text = .ok l ∧
      (∀ a b : Offset, a < b → String.Pos.Raw.IsValid text ⟨a.val⟩ →
        String.Pos.Raw.IsValid text ⟨b.val⟩ →
        ∃ p q, l.position a = .ok p ∧ l.position b = .ok q ∧ compare p q = .lt) ∧
      (∀ a b : Offset, String.Pos.Raw.IsValid text ⟨a.val⟩ →
        String.Pos.Raw.IsValid text ⟨b.val⟩ → l.position a = l.position b → a = b) ∧
      ∀ ms : List Message, (∀ m ∈ ms, m.IsPlaced text l) →
        ms.mergeSort Message.le = ms.mergeSort Message.leByStart ∧
        (ms.mergeSort fun a b => (compare a.position b.position).isLE) =
          ms.mergeSort fun a b => a.diagnostic.span.start ≤ b.diagnostic.span.start := by
  obtain ⟨l, hl, hof⟩ := exists_ofText hsize
  refine ⟨l, hl, fun a b hlt ha hb => ?_, fun a b ha hb hab => ?_, fun ms hms => ⟨?_, ?_⟩⟩
  · obtain ⟨p, hp⟩ := hof.exists_position hsize ha
    obtain ⟨q, hq⟩ := hof.exists_position hsize hb
    exact ⟨p, q, hp, hq, hof.compare_eq_lt hsize ha hb hlt hp hq⟩
  · obtain ⟨p, hp⟩ := hof.exists_position hsize ha
    have hself := hof.compare_eq hsize ha hb hp (hab ▸ hp)
    rw [Position.compare_self] at hself
    exact Offset.ext (Nat.compare_eq_eq.1 hself.symm)
  · refine mergeSort_eq_of_agree fun a ha b hb => ?_
    rw [Message.le, Message.leByStart, Message.compare_position_eq hof hsize (hms a ha) (hms b hb)]
  · refine mergeSort_eq_of_agree fun a ha b hb => ?_
    rw [Message.compare_position_eq hof hsize (hms a ha) (hms b hb), Bool.eq_iff_iff,
      decide_eq_true_eq]
    exact Nat.isLE_compare

/-- A text with every end of a line, and with a character of two bytes. -/
theorem Text.Lines.position_strictMono_sample :
    let text := "ä\r\nb\rc\n\rd\n"
    ∃ l, Lines.ofText text = .ok l ∧
      (∀ a b : Offset, a < b → String.Pos.Raw.IsValid text ⟨a.val⟩ →
        String.Pos.Raw.IsValid text ⟨b.val⟩ →
        ∃ p q, l.position a = .ok p ∧ l.position b = .ok q ∧ compare p q = .lt) ∧
      (∀ a b : Offset, String.Pos.Raw.IsValid text ⟨a.val⟩ →
        String.Pos.Raw.IsValid text ⟨b.val⟩ → l.position a = l.position b → a = b) ∧
      ∀ ms : List Message, (∀ m ∈ ms, m.IsPlaced text l) →
        ms.mergeSort Message.le = ms.mergeSort Message.leByStart ∧
        (ms.mergeSort fun a b => (compare a.position b.position).isLE) =
          ms.mergeSort fun a b => a.diagnostic.span.start ≤ b.diagnostic.span.start :=
  position_strictMono _ (by decide)

end JavaLint
