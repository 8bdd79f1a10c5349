import JavaLint.Proofs.Stretches
import JavaLint.Proofs.WellFormed

/-!
# What comments silence

The comments of a tree over a text of 32 bits are found if they start in order and in the text
(`Tree.CommentsInOrder`), as those of a well-formed tree do. Then a rule is silent where one of the
filters silences it (`Suppressions.exists_ofFilters`). `Suppressions.silences_ofVisited` says when
that is, by the matches of the expressions of a filter alone.
-/

namespace JavaLint

open JavaLint.Text

/-! ### The comments of a tree -/

namespace Tree

/-- The comments of a tree, in the order of its nodes. -/
def commentNodes (t : Tree) : List Tree := t.nodes.filter fun u => u.kind.isComment

/-- The comments of a tree with their starts and texts. -/
def commentMarks (source : String) (t : Tree) : List (Nat × String) :=
  t.commentNodes.map fun u => (u.label.start, u.text source)

/-- The comments of a tree start in order and in the text, and do not end before they start. -/
structure CommentsInOrder (length : Nat) (t : Tree) : Prop where
  ordered : t.commentNodes.Pairwise fun a b => a.label.start ≤ b.label.start
  start_le : ∀ u ∈ t.commentNodes, u.label.start ≤ length
  start_le_stop : ∀ u ∈ t.commentNodes, u.label.start ≤ u.label.stop

instance (length : Nat) (t : Tree) : Decidable (t.CommentsInOrder length) :=
  decidable_of_iff
    ((t.commentNodes.Pairwise fun a b => a.label.start ≤ b.label.start) ∧
      (∀ u ∈ t.commentNodes, u.label.start ≤ length) ∧
      ∀ u ∈ t.commentNodes, u.label.start ≤ u.label.stop)
    ⟨fun ⟨h₁, h₂, h₃⟩ => ⟨h₁, h₂, h₃⟩, fun ⟨h₁, h₂, h₃⟩ => ⟨h₁, h₂, h₃⟩⟩

theorem WellFormed.commentsInOrder {length : Nat} {t : Tree} (h : t.WellFormed length) :
    t.CommentsInOrder length where
  ordered := h.pairwise_start.filter _
  start_le u hu :=
    have hseat := h u (List.mem_filter.1 hu).1
    Nat.le_trans hseat.start_le_stop hseat.stop_le
  start_le_stop u hu := (h u (List.mem_filter.1 hu).1).start_le_stop

end Tree

namespace Suppressions

variable {source : String} {tree : Tree}

theorem exists_comments (hsize : source.utf8ByteSize < UInt32.size)
    (h : tree.CommentsInOrder source.utf8ByteSize) :
    ∃ cs, comments source tree = .ok cs ∧ cs.map Comment.mark = tree.commentMarks source := by
  rw [comments, Tree.walk_eq_nodes]
  refine Attempt.exists_mapM_ok_map fun u hu => ?_
  have hstart := Nat.lt_of_le_of_lt (h.start_le u hu) hsize
  obtain ⟨span, hspan, hval, -⟩ := Tree.exists_span hstart (h.start_le_stop u hu)
  refine ⟨⟨span.start, u.text source⟩, by rw [hspan]; rfl, ?_⟩
  rw [Comment.mark, hval]

theorem textEnd_val (hsize : source.utf8ByteSize < UInt32.size) :
    (textEnd source).val = source.utf8ByteSize := by
  have hfits : Offset.ofNat? source.utf8ByteSize = some ⟨_, hsize⟩ := dif_pos hsize
  rw [textEnd, hfits, Option.getD_some]

/-- The stretches of several filters are found in whatever order each of them is visited, and cover
what one of the filters silences. -/
theorem exists_ofVisited_covers (hsize : source.utf8ByteSize < UInt32.size)
    (h : tree.CommentsInOrder source.utf8ByteSize)
    (filters : List (CommentFilter × Visit (RuleKey × Offset))) :
    ∃ s, ofVisited filters source tree = .ok s ∧
      ∀ key o, s.Covers key o ↔
        (∃ f ∈ filters.map Prod.fst, f.SilentAt (tree.commentMarks source) key o) ∧
          o < source.utf8ByteSize := by
  obtain ⟨cs, hcs, hmarks⟩ := exists_comments hsize h
  have hordered : cs.Pairwise fun a b => a.start.val ≤ b.start.val := by
    have hmarked : (tree.commentMarks source).Pairwise fun a b => a.1 ≤ b.1 :=
      List.pairwise_map.2 h.ordered
    rwa [← hmarks, List.pairwise_map] at hmarked
  have hstop : ∀ c ∈ cs, c.start.val ≤ (textEnd source).val := by
    intro c hc
    have hmem : c.mark ∈ tree.commentMarks source := hmarks ▸ List.mem_map_of_mem hc
    obtain ⟨u, hu, hmark⟩ := List.mem_map.1 hmem
    have hval : u.label.start = c.start.val := congrArg Prod.fst hmark
    rw [textEnd_val hsize, ← hval]
    exact h.start_le u hu
  have hfilter := fun e : CommentFilter × Visit (RuleKey × Offset) =>
    exists_ofFilter e.1 e.2 hordered hstop
  rw [hmarks, textEnd_val hsize] at hfilter
  have hregions : ∀ e ∈ filters, ∃ s, ofFilter cs (textEnd source) e.1 e.2 = .ok s := fun e _ =>
    (hfilter e).imp fun _ => And.left
  obtain ⟨regions, hregions⟩ := Attempt.exists_mapM_ok hregions
  refine ⟨regions.flatten, ?_, fun key o => ?_⟩
  · rw [ofVisited, hcs, Attempt.bind_ok]
    exact congrArg (· >>= _) hregions
  · rw [covers_flatten]
    simp only [Attempt.mem_of_mapM_ok hregions, List.mem_map]
    constructor
    · rintro ⟨s, ⟨e, he, hs⟩, hcovers⟩
      obtain ⟨s', hs', hsilent⟩ := hfilter e
      obtain rfl : s' = s := Except.ok.inj (hs'.symm.trans hs)
      obtain ⟨hsilent, hlt⟩ := (hsilent key o).1 hcovers
      exact ⟨⟨e.1, ⟨e, he, rfl⟩, hsilent⟩, hlt⟩
    · rintro ⟨⟨f, ⟨e, he, rfl⟩, hsilent⟩, hlt⟩
      obtain ⟨s, hs, hcovers⟩ := hfilter e
      exact ⟨s, ⟨e, he, hs⟩, (hcovers key o).2 ⟨hsilent, hlt⟩⟩

end Suppressions

/-! ### Which rules are silent -/

/-- The rule is silent at the offset because of what a filter makes of the comments. -/
def CommentFilter.Silences (f : CommentFilter) (source : String) (tree : Tree) (rule : String)
    (o : Nat) : Prop :=
  o < source.utf8ByteSize ∧ ∃ key, (key = RuleKey.ofName rule ∨ key = .every) ∧
    f.SilentAt (tree.commentMarks source) key o

namespace Suppressions

variable {source : String} {tree : Tree}

/-- A rule is silent where one of the filters silences it. -/
theorem exists_ofVisited (hsize : source.utf8ByteSize < UInt32.size)
    (h : tree.CommentsInOrder source.utf8ByteSize)
    (filters : List (CommentFilter × Visit (RuleKey × Offset))) :
    ∃ s, ofVisited filters source tree = .ok s ∧
      ∀ rule o, s.silences rule o = true ↔
        ∃ f ∈ filters.map Prod.fst, f.Silences source tree rule o.val := by
  obtain ⟨s, hs, hcovers⟩ := exists_ofVisited_covers hsize h filters
  refine ⟨s, hs, fun rule o => ?_⟩
  simp only [silences_iff, hcovers, CommentFilter.Silences]
  constructor
  · rintro ⟨key, hkey, ⟨f, hf, hsilent⟩, hlt⟩
    exact ⟨f, hf, hlt, key, hkey, hsilent⟩
  · rintro ⟨f, hf, hlt, key, hkey, hsilent⟩
    exact ⟨key, hkey, ⟨f, hf, hsilent⟩, hlt⟩

theorem exists_ofFilters (hsize : source.utf8ByteSize < UInt32.size)
    (h : tree.CommentsInOrder source.utf8ByteSize) (filters : List CommentFilter) :
    ∃ s, ofFilters filters source tree = .ok s ∧
      ∀ rule o, s.silences rule o = true ↔
        ∃ f ∈ filters, f.Silences source tree rule o.val := by
  obtain ⟨s, hs, hsilences⟩ := exists_ofVisited hsize h (filters.map (·, .listed))
  rw [List.map_map] at hsilences
  simp only [Function.comp_def, List.map_id'] at hsilences
  exact ⟨s, hs, hsilences⟩

end Suppressions

/-! ### Keys as texts -/

namespace CommentFilter

variable {f : CommentFilter}

/-- The key of a match as a text: a star if the filter asks for no group or its group takes no part
in the match, else what the group holds, in small letters. -/
def keyText (f : CommentFilter) (m : Regex.Match) : String :=
  if f.group = 0 then "*"
  else match m.group? f.group with
    | some name => Text.lower name
    | none => "*"

/-- Silence as in `SilentAt`, told by the matches of the two expressions and their keys as texts. -/
def SilentFor (f : CommentFilter) (comments : List (Nat × String)) (key : String) (o : Nat) :
    Prop :=
  ∃ (i : Nat) (c : Nat × String) (m : Regex.Match), comments[i]? = some c ∧
    f.off.find? c.2 = some m ∧ f.keyText m = key ∧ c.1 ≤ o ∧
      ∀ (j : Nat) (d : Nat × String) (n : Regex.Match), i ≤ j → comments[j]? = some d →
        f.on.find? d.2 = some n → f.keyText n = key → o < d.1

theorem keyOf_eq_every_iff (f : CommentFilter) (m : Regex.Match) :
    f.keyOf m = .every ↔ f.keyText m = "*" := by
  rw [keyOf, keyText]
  split
  · simp
  · cases m.group? f.group with
    | none => simp
    | some name => exact RuleKey.ofName_eq_every_iff

theorem keyOf_eq_ofName_iff (f : CommentFilter) (m : Regex.Match) (rule : String) :
    f.keyOf m = RuleKey.ofName rule ↔ f.keyText m = Text.lower rule := by
  have hstar : RuleKey.every = RuleKey.ofName rule ↔ "*" = Text.lower rule := by
    rw [eq_comm, RuleKey.ofName_eq_every_iff, eq_comm]
  rw [keyOf, keyText]
  split
  · exact hstar
  · cases m.group? f.group with
    | none => exact hstar
    | some name => exact RuleKey.ofName_eq_ofName_iff

/-- Keys that matches have alike are silenced alike. -/
private theorem silentAt_iff_silentFor (comments : List (Nat × String)) (o : Nat) {key : RuleKey}
    {text : String} (hkey : ∀ m, f.keyOf m = key ↔ f.keyText m = text) :
    f.SilentAt comments key o ↔ f.SilentFor comments text o := by
  simp only [SilentAt, SilentFor, offKey?, onKey?, Option.map_eq_some_iff, hkey]
  constructor
  · rintro ⟨i, c, hc, ⟨m, hm, hkey⟩, hle, hon⟩
    exact ⟨i, c, m, hc, hm, hkey, hle, fun j d n hij hd hn hkey => hon j d hij hd ⟨n, hn, hkey⟩⟩
  · rintro ⟨i, c, m, hc, hm, hkey, hle, hon⟩
    refine ⟨i, c, hc, ⟨m, hm, hkey⟩, hle, ?_⟩
    rintro j d hij hd ⟨n, hn, hkey⟩
    exact hon j d n hij hd hn hkey

theorem silences_iff_silentFor {source : String} {tree : Tree} {rule : String} {o : Nat} :
    f.Silences source tree rule o ↔
      ∃ key ∈ [Text.lower rule, "*"], o < source.utf8ByteSize ∧
        f.SilentFor (tree.commentMarks source) key o := by
  have hrule := silentAt_iff_silentFor (tree.commentMarks source) o fun m =>
    f.keyOf_eq_ofName_iff m rule
  have hevery := silentAt_iff_silentFor (tree.commentMarks source) o f.keyOf_eq_every_iff
  simp only [Silences, or_and_right, exists_or, exists_eq_left, hrule, hevery, List.mem_cons,
    List.not_mem_nil, or_false, and_or_left]

end CommentFilter

/-- The silent stretches of filters are found for every tree whose comments are in order, and
whatever the order in which stretches without an end are visited: a rule is silent at an offset of
the text exactly if, for one of the filters and for the name of the rule in small letters or a star,
a comment at or before the offset starts a stretch and all comments from that one on that end one
stand behind the offset. -/
theorem Suppressions.silences_ofVisited (source : String) (tree : Tree)
    (filters : List (CommentFilter × Visit (RuleKey × Offset)))
    (hsize : source.utf8ByteSize < UInt32.size) (h : tree.CommentsInOrder source.utf8ByteSize) :
    ∃ s, ofVisited filters source tree = .ok s ∧
      ∀ rule o, s.silences rule o = true ↔
        ∃ f ∈ filters.map Prod.fst, ∃ key ∈ [Text.lower rule, "*"],
          o.val < source.utf8ByteSize ∧ f.SilentFor (tree.commentMarks source) key o.val := by
  simpa only [CommentFilter.silences_iff_silentFor] using exists_ofVisited hsize h filters

/-- The comments of the sample, with one filter visited as listed and another in reverse. -/
theorem Suppressions.silences_ofVisited_sample :
    let filters : List (CommentFilter × Visit (RuleKey × Offset)) :=
      [(.standard, .listed), (⟨default, default, 0⟩, ⟨List.reverse, List.reverse_perm⟩)]
    ∃ s, ofVisited filters sampleSource sampleTree = .ok s ∧
      ∀ rule o, s.silences rule o = true ↔
        ∃ f ∈ filters.map Prod.fst, ∃ key ∈ [Text.lower rule, "*"],
          o.val < sampleSource.utf8ByteSize ∧
            f.SilentFor (sampleTree.commentMarks sampleSource) key o.val :=
  silences_ofVisited sampleSource sampleTree _ sampleSource_size
    sampleTree_wellFormed.commentsInOrder

end JavaLint
