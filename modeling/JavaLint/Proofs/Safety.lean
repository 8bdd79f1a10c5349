import JavaLint.Proofs.Reports
import JavaLint.Proofs.TableSearch

/-!
# Checking well-formed trees never fails

While a source is checked, offsets are counted in 32 bits, spans are made, parts of the text are cut
out, and lines and modifiers are looked up. Some of these operations fail with a fault. Others would
go on with a stand-in for an answer that they do not have: a node whose place does not fit counts as
one at the start of the text, a node whose text cannot be cut out has the empty one, a text that is
too long ends at the largest offset, and an offset before all lines counts as one in the first.

Main statement: for a linter with any number of rules on the order of modifiers and with any filters,
and for a well-formed tree between characters over a text of 32 bits, no operation fails and no
answer is a stand-in (`Linter.checkParsed_total`).
-/

namespace JavaLint

open JavaLint.Text

/-! ### Nodes -/

/-- A node has a span in 32 bits, from its own start to its own end, and its text is the part of the
source at that span. -/
def Tree.Legible (source : String) (t : Tree) : Prop :=
  ∃ s, t.span = .ok s ∧ s.start.val = t.label.start ∧ s.stop.val = t.label.stop ∧
    s.slice source = .ok (t.text source)

/-- The nodes of a well-formed tree between characters are legible. -/
theorem Tree.WellFormed.legible {source : String} {tree u : Tree}
    (hwf : tree.WellFormed source.utf8ByteSize) (hsize : source.utf8ByteSize < UInt32.size)
    (hbounds : tree.OnBoundaries source) (hu : u ∈ tree.nodes) : u.Legible source :=
  (hwf.covers hbounds hu).exists_span hsize

/-! ### Linters -/

namespace Linter

/-- A linter whose rules are all on the order of modifiers, at any severities and with any filters,
has an outcome for every well-formed tree between characters over a text of 32 bits. On the way to
it all places of silence are found; every node has the span and the text that it says; the end of
the text can be counted; lines start between characters in the text, and every offset comes after
the start of one; the modifiers of every node can be told, and the search for them by places never
leaves the table. -/
theorem checkParsed_total (l : Linter) (source : String) (parsed : Java.Parsed)
    (hl : ∀ a ∈ l.rules, a.rule = Modifier.rule) (hsize : source.utf8ByteSize < UInt32.size)
    (hwf : parsed.tree.WellFormed source.utf8ByteSize) (hbounds : parsed.tree.OnBoundaries source) :
    ∃ lines silent result, Lines.ofText source = .ok lines ∧
      l.suppressions source parsed.tree = .ok silent ∧ l.checkParsed source parsed = .ok result ∧
      (∀ u ∈ parsed.tree.nodes, u.Legible source) ∧
      (Suppressions.textEnd source).val = source.utf8ByteSize ∧
      (∀ s ∈ lines.starts, String.Pos.Raw.IsValid source ⟨s.val⟩) ∧
      (∀ o, 0 < lines.starts.countP fun s => s ≤ o) ∧
      ∀ u ∈ parsed.tree.nodes, ∃ ts, Modifier.tokens lines u = .ok ts ∧
        Modifier.searchFrom Modifier.Token.keyword 0 ts =
          some (Modifier.firstMisplaced? Modifier.Token.keyword ts) := by
  obtain ⟨lines, silent, hlines, hsilent, hcheck⟩ :=
    exists_checkParsed hsize hwf (answers_of_modifier hl hsize hwf hbounds)
  have hof := Lines.of_ofText hsize hlines
  refine ⟨lines, silent, _, hlines, hsilent, hcheck, fun u => hwf.legible hsize hbounds,
    Suppressions.textEnd_val hsize, fun s => hof.isValid, hof.countP_pos, fun u hu => ?_⟩
  obtain ⟨ts, hts, -⟩ := Modifier.exists_tokens hsize hof fun c hc =>
    hwf.covers hbounds (Tree.mem_nodes_of_child hu hc)
  exact ⟨ts, hts, Modifier.searchFrom_eq _ (Nat.zero_le _) ts⟩

/-- Three rules, one of them ignored, and a filter that asks for a group that no match has. -/
theorem checkParsed_total_sample :
    let rules : List ActiveRule :=
      [⟨Modifier.rule, .warning⟩, ⟨Modifier.rule, .ignore⟩, ⟨Modifier.rule, .error⟩]
    ∃ lines silent result, Lines.ofText sampleSource = .ok lines ∧
      suppressions ⟨rules, [.standard, ⟨default, default, 7⟩]⟩ sampleSource sampleTree =
        .ok silent ∧
      checkParsed ⟨rules, [.standard, ⟨default, default, 7⟩]⟩ sampleSource ⟨sampleTree, false⟩ =
        .ok result ∧
      (∀ u ∈ sampleTree.nodes, u.Legible sampleSource) ∧
      (Suppressions.textEnd sampleSource).val = sampleSource.utf8ByteSize ∧
      (∀ s ∈ lines.starts, String.Pos.Raw.IsValid sampleSource ⟨s.val⟩) ∧
      (∀ o, 0 < lines.starts.countP fun s => s ≤ o) ∧
      ∀ u ∈ sampleTree.nodes, ∃ ts, Modifier.tokens lines u = .ok ts ∧
        Modifier.searchFrom Modifier.Token.keyword 0 ts =
          some (Modifier.firstMisplaced? Modifier.Token.keyword ts) := by
  intro rules
  exact checkParsed_total ⟨rules, [.standard, ⟨default, default, 7⟩]⟩ sampleSource
    ⟨sampleTree, false⟩ (by simp [rules]) sampleSource_size sampleTree_wellFormed (by decide)

end Linter

end JavaLint
