import JavaLint.Proofs.Paths
import JavaLint.Proofs.Preorder
import JavaLint.Tree.Outline

/-!
# Outlines and walks

An outline is made by recursion over a tree, a walk moves a cursor through it. The lines of the
outline are those of the nodes that the walk meets, in the same order (`Outline.lines_eq`). Texts
are shown in quotes, with line breaks written out, so that a node makes one line, whatever its text
is (`Outline.unbroken_line`).

A line begins with two blanks for every node above its own (`Outline.indent_line`). So the outline
tells at which depth each node of the walk lies, and from that the shape of the tree can be read,
from the last line up: a node takes the shapes one deeper that come next (`Shape.ofDepths_depths`).
Main statement: `Outline.exists_shows`.
-/

namespace JavaLint

open JavaLint.Text

/-! ### Shapes -/

/-- What is left of a tree if its nodes tell nothing of themselves. -/
inductive Shape where
  | node (children : List Shape)

namespace Shape

/-- What holds of a shape when it holds of all below its root holds of every shape. -/
@[elab_as_elim]
theorem inductionOn {motive : Shape → Prop}
    (node : ∀ ss, (∀ s ∈ ss, motive s) → motive (.node ss)) : (s : Shape) → motive s
  | .node ss => node ss fun s _ => inductionOn node s

mutual

/-- The depths of all nodes, each before those below it, if the root is at depth `d`. -/
def depths (d : Nat) : Shape → List Nat
  | node ss => d :: depthsEach (d + 1) ss

/-- The depths of the nodes of several shapes, in order. -/
def depthsEach (d : Nat) : List Shape → List Nat
  | [] => []
  | s :: ss => s.depths d ++ depthsEach d ss

end

/-- Puts a node at depth `d` in front of some shapes with the depths of their roots: the first
shapes that are one deeper hang from it. -/
def hang (d : Nat) (next : List (Nat × Shape)) : List (Nat × Shape) :=
  (d, .node ((next.takeWhile fun p => p.1 == d + 1).map (·.2))) ::
    next.dropWhile fun p => p.1 == d + 1

/-- The shapes that some depths tell, each with the depth of its root. -/
def ofDepths (ds : List Nat) : List (Nat × Shape) := ds.foldr hang []

variable {d : Nat} {next : List (Nat × Shape)}

/-- If the shape behind them is not deeper, some shapes of depth `d + 1` hang from a node in front
of them, and no others. -/
theorem hang_append {ss : List Shape} (hnext : ∀ p ∈ next.head?, p.1 ≤ d) :
    hang d (ss.map (d + 1, ·) ++ next) = (d, .node ss) :: next := by
  have hstop : (next.takeWhile fun p => p.1 == d + 1) = [] ∧
      (next.dropWhile fun p => p.1 == d + 1) = next := by
    cases next with
    | nil => exact ⟨rfl, rfl⟩
    | cons p next =>
      have hp : (p.1 == d + 1) = false := beq_eq_false_iff_ne.2 fun heq => by
        have := hnext p rfl
        omega
      exact ⟨List.takeWhile_cons_of_neg (Bool.eq_false_iff.1 hp),
        List.dropWhile_cons_of_neg (Bool.eq_false_iff.1 hp)⟩
  have hss : ∀ p ∈ ss.map (d + 1, ·), (p.1 == d + 1) = true := by
    intro p hp
    obtain ⟨s, -, rfl⟩ := List.mem_map.1 hp
    exact beq_self_eq_true _
  rw [hang, List.takeWhile_append_of_pos hss, List.dropWhile_append_of_pos hss, hstop.1, hstop.2,
    List.append_nil, List.map_map]
  exact congrArg (fun ss => (d, node ss) :: next) (List.map_id ss)

private theorem foldr_hang_depthsEach {ss : List Shape} (hnext : ∀ p ∈ next.head?, p.1 ≤ d)
    (hread : ∀ s ∈ ss, ∀ next : List (Nat × Shape), (∀ p ∈ next.head?, p.1 ≤ d) →
      (s.depths d).foldr hang next = (d, s) :: next) :
    (depthsEach d ss).foldr hang next = ss.map (d, ·) ++ next := by
  induction ss with
  | nil => rfl
  | cons s ss ih =>
    rw [depthsEach, List.foldr_append, ih fun u hu => hread u (List.mem_cons_of_mem s hu),
      hread s List.mem_cons_self, List.map_cons, List.cons_append]
    cases ss with
    | nil => exact hnext
    | cons u ss => simp

/-- The depths of a shape tell the shape, whatever comes behind them, if that does not begin
deeper. -/
theorem foldr_hang_depths (s : Shape) (d : Nat) (next : List (Nat × Shape))
    (hnext : ∀ p ∈ next.head?, p.1 ≤ d) : (s.depths d).foldr hang next = (d, s) :: next := by
  induction s using inductionOn generalizing d next with
  | node ss ih =>
    rw [depths, List.foldr_cons,
      foldr_hang_depthsEach (fun p hp => Nat.le_succ_of_le (hnext p hp))
        fun s hs next hnext => ih s hs _ next hnext, hang_append hnext]

theorem ofDepths_depths (s : Shape) (d : Nat) : ofDepths (s.depths d) = [(d, s)] :=
  s.foldr_hang_depths d [] nofun

/-- Shapes are told apart by their depths. -/
theorem depths_inj {s u : Shape} : s.depths d = u.depths d ↔ s = u := by
  refine ⟨fun h => ?_, congrArg _⟩
  have hread := congrArg ofDepths h
  rw [ofDepths_depths, ofDepths_depths] at hread
  exact (Prod.mk.inj (List.cons.inj hread).1).2

end Shape

/-- The number of nodes above. -/
def Cursor.depth (c : Cursor) : Nat := c.crumbs.length

namespace Tree

mutual

/-- The shape of a tree. -/
def shape : Tree → Shape
  | node _ cs => .node (shapes cs)

/-- The shapes of several trees. -/
def shapes : List Tree → List Shape
  | [] => []
  | t :: ts => t.shape :: shapes ts

end

private theorem map_depth_placesOnEach {way : List Crumb} {l : NodeLabel} {ts : List Tree}
    (before : List Tree)
    (hplaces : ∀ t ∈ ts, ∀ way, (t.placesOn way).map (·.depth) = t.shape.depths way.length) :
    (placesOnEach way l before ts).map (·.depth) =
      Shape.depthsEach (way.length + 1) (shapes ts) := by
  induction ts generalizing before with
  | nil => rfl
  | cons t ts ih =>
    rw [placesOnEach, List.map_append, hplaces t List.mem_cons_self,
      ih _ fun u hu => hplaces u (List.mem_cons_of_mem t hu), shapes, Shape.depthsEach,
      List.length_cons]

theorem map_depth_placesOn (t : Tree) (way : List Crumb) :
    (t.placesOn way).map (·.depth) = t.shape.depths way.length := by
  induction t using inductionOn generalizing way with
  | node l cs ih =>
    rw [placesOn, List.map_cons, map_depth_placesOnEach [] ih, shape, Shape.depths]
    rfl

/-- The depths of the nodes that a walk meets are those of the shape. -/
theorem map_depth_cursors (t : Tree) : t.cursors.map (·.depth) = t.shape.depths 0 := by
  rw [cursors_eq_places, places, map_depth_placesOn, List.length_nil]

end Tree

/-! ### Texts on one line -/

namespace Text

/-- The characters hold no line break. -/
def Unbroken (cs : List Char) : Prop := ∀ c ∈ cs, c ≠ '\n' ∧ c ≠ '\r'

-- there are finitely many characters, but only those of the text are to be tried
instance : DecidablePred Unbroken := fun cs =>
  List.decidableBAll (fun c => c ≠ '\n' ∧ c ≠ '\r') cs

theorem unbroken_append {a b : List Char} : Unbroken (a ++ b) ↔ Unbroken a ∧ Unbroken b :=
  List.forall_mem_append

/-- Digits hold no line break. -/
theorem unbroken_toDigits {base : Nat} (hbase : 1 < base) (n : Nat) :
    Unbroken (Nat.toDigits base n) := by
  have hdigit (n : Nat) : Unbroken [n.digitChar] := by
    intro c hc
    rw [List.mem_singleton.1 hc]
    exact ⟨Nat.digitChar_ne _ (by decide), Nat.digitChar_ne _ (by decide)⟩
  induction n using Nat.strongRecOn with
  | ind n ih =>
    rw [Nat.toDigits_eq_if hbase]
    split
    · exact hdigit n
    · have hlt : n / base < n := Nat.div_lt_self (by omega) hbase
      exact unbroken_append.2 ⟨ih _ hlt, hdigit _⟩

/-- In quotes line breaks are written out. -/
theorem unbroken_quoteChar (c : Char) : Unbroken (quoteChar c) := by
  unfold quoteChar
  split
  · rename_i h
    rcases h with rfl | rfl <;> decide
  split
  · decide
  rename_i hfeed
  split
  · decide
  rename_i hreturn
  have hself : Unbroken [c] := by
    intro d hd
    rw [List.mem_singleton.1 hd]
    exact ⟨hfeed, hreturn⟩
  split
  · decide
  split
  · decide
  split
  · exact hself
  split
  · exact unbroken_append.2 ⟨unbroken_append.2 ⟨by decide, unbroken_toDigits (by decide) _⟩,
      by decide⟩
  · exact hself

theorem unbroken_quoted (text : String) : Unbroken (quoted text).toList := by
  rw [quoted, String.toList_ofList]
  intro c hc
  rcases List.mem_append.1 hc with hc | hc
  · rcases List.mem_cons.1 hc with rfl | hc
    · decide
    · obtain ⟨d, -, hc⟩ := List.mem_flatMap.1 hc
      exact unbroken_quoteChar d c hc
  · rw [List.mem_singleton.1 hc]
    decide

theorem toList_pushn (s : String) (c : Char) (n : Nat) :
    (s.pushn c n).toList = s.toList ++ List.replicate n c := by
  induction n with
  | zero => simp [String.pushn, Nat.repeat]
  | succ n ih =>
    have hpush : s.pushn c (n + 1) = (s.pushn c n).push c := rfl
    rw [hpush, String.toList_push, ih, List.append_assoc, ← List.replicate_succ']

end Text

/-! ### The lines of an outline -/

namespace Outline

/-- The number of blanks at the start of a line. -/
def indent (l : String) : Nat := (l.toList.takeWhile (· == ' ')).length

/-- A kind as grammars name them: it begins with a character that is no blank, and holds no line
break. -/
def IsKindName (kind : String) : Prop :=
  (∃ c ∈ kind.toList.head?, c ≠ ' ') ∧ Unbroken kind.toList

instance : DecidablePred IsKindName := fun kind =>
  @instDecidableAnd _ _ (Option.decidableExistsMem kind.toList.head?) _

/-- What stands behind the kind in a line: the place of the node, and its text in quotes if it has
no children. -/
def lineRest (source : String) (rs : List Nat) (t : Tree) : List Char :=
  let place := point rs t.label.start
  [' ', '['] ++ Nat.toDigits 10 (place.1 + 1) ++ [':'] ++ Nat.toDigits 10 (place.2 + 1) ++ [']'] ++
    if t.children.isEmpty then
      [' '] ++ (quoted ((sliceText? source t.label.start t.label.stop).getD "")).toList
    else []

theorem toList_line (source : String) (rs : List Nat) (depth : Nat) (t : Tree) :
    (line source rs depth t).toList =
      List.replicate (2 * depth) ' ' ++ (t.rawKind.toList ++ lineRest source rs t) := by
  have hkind : toString t.rawKind = t.rawKind := rfl
  have hdigits (n : Nat) : (toString n).toList = Nat.toDigits 10 n := Nat.toList_repr
  have hopen : (toString " [").toList = [' ', '['] := rfl
  have hcolon : (toString ":").toList = [':'] := rfl
  have hclose : (toString "]").toList = [']'] := rfl
  have hblank : " ".toList = [' '] := rfl
  unfold line lineRest
  simp only [String.toList_append, toList_pushn, String.toList_empty, List.nil_append,
    List.append_assoc, hkind, hdigits, hopen, hcolon, hclose]
  cases t.children.isEmpty with
  | true => simp only [if_true, String.toList_append, hblank]
  | false => simp only [Bool.false_eq_true, if_false, String.toList_empty]

theorem unbroken_lineRest (source : String) (rs : List Nat) (t : Tree) :
    Unbroken (lineRest source rs t) := by
  have hdigits (n : Nat) : Unbroken (Nat.toDigits 10 n) := unbroken_toDigits (by decide) n
  have hmarks : ∀ cs ∈ [[' ', '['], [':'], [']'], [' '], []], Unbroken cs := by decide
  have hshown : Unbroken (if t.children.isEmpty then
      [' '] ++ (quoted ((sliceText? source t.label.start t.label.stop).getD "")).toList
      else []) := by
    split
    · exact unbroken_append.2 ⟨hmarks _ (by simp), unbroken_quoted _⟩
    · exact hmarks _ (by simp)
  simp only [lineRest, unbroken_append]
  exact ⟨⟨⟨⟨⟨hmarks _ (by simp), hdigits _⟩, hmarks _ (by simp)⟩, hdigits _⟩, hmarks _ (by simp)⟩,
    hshown⟩

/-- A line is as far from the margin as its node is from the root. -/
theorem indent_line {t : Tree} (h : IsKindName t.rawKind) (source : String) (rs : List Nat)
    (depth : Nat) : indent (line source rs depth t) = 2 * depth := by
  obtain ⟨⟨c, hc, hne⟩, -⟩ := h
  obtain ⟨cs, hkind⟩ := List.head?_eq_some_iff.1 hc
  have hblanks : ∀ d ∈ List.replicate (2 * depth) ' ', (d == ' ') = true := by
    intro d hd
    rw [List.eq_of_mem_replicate hd]
    exact beq_self_eq_true _
  rw [indent, toList_line, hkind, List.takeWhile_append_of_pos hblanks, List.cons_append,
    List.takeWhile_cons_of_neg (by simpa using hne), List.append_nil, List.length_replicate]

theorem unbroken_line {t : Tree} (h : IsKindName t.rawKind) (source : String) (rs : List Nat)
    (depth : Nat) : Unbroken (line source rs depth t).toList := by
  have hblanks : Unbroken (List.replicate (2 * depth) ' ') := by
    intro d hd
    rw [List.eq_of_mem_replicate hd]
    decide
  rw [toList_line, unbroken_append, unbroken_append]
  exact ⟨hblanks, h.2, unbroken_lineRest source rs t⟩

private theorem linesEach_eq {source : String} {rs : List Nat} {way : List Crumb} {l : NodeLabel}
    {ts : List Tree} (before : List Tree)
    (hlines : ∀ t ∈ ts, ∀ way,
      lines source rs way.length t = (t.placesOn way).map fun c => line source rs c.depth c.focus) :
    linesEach source rs (way.length + 1) ts =
      (Tree.placesOnEach way l before ts).map fun c => line source rs c.depth c.focus := by
  induction ts generalizing before with
  | nil => rfl
  | cons t ts ih =>
    have hhere := hlines t List.mem_cons_self (⟨l, before, ts⟩ :: way)
    rw [List.length_cons] at hhere
    rw [linesEach, Tree.placesOnEach, List.map_append, ← hhere,
      ← ih _ fun u hu => hlines u (List.mem_cons_of_mem t hu)]

/-- The lines made by recursion are those of the nodes that a walk meets, in its order. -/
theorem lines_eq (source : String) (rs : List Nat) (t : Tree) (way : List Crumb) :
    lines source rs way.length t =
      (t.placesOn way).map fun c => line source rs c.depth c.focus := by
  induction t using Tree.inductionOn generalizing way with
  | node l cs ih =>
    rw [lines, Tree.placesOn, List.map_cons, linesEach_eq [] ih]
    rfl

/-- What is printed of a tree, and how it goes with a walk. -/
structure Shows (source : String) (t : Tree) (ls : List String) : Prop where
  /-- The outline is these lines, each ended by the line feed behind it. -/
  printed : splitAtEach '\n' (render source t).toList = ls.map String.toList ++ [[]]
  unbroken : ∀ l ∈ ls, Unbroken l.toList
  /-- One line is made of each place of the walk, in the order of the walk. -/
  walked : ls = t.cursors.map fun c => line source (rows source) c.depth c.focus
  /-- The walk meets each node. -/
  met : t.cursors.map (·.focus) = t.nodes
  /-- The blanks in front of the line are two for each node above. -/
  indented : ls.map indent = t.cursors.map (2 * ·.depth)

variable {source : String} {t : Tree}

theorem shows_of_isKindName (source : String) (h : ∀ u ∈ t.nodes, IsKindName u.rawKind) :
    Shows source t (lines source (rows source) 0 t) := by
  have hlines : lines source (rows source) 0 t =
      t.cursors.map fun c => line source (rows source) c.depth c.focus := by
    rw [t.cursors_eq_places]
    exact lines_eq source (rows source) t []
  have hmet : t.cursors.map (·.focus) = t.nodes := t.walk_eq_nodes
  have hname : ∀ c ∈ t.cursors, IsKindName c.focus.rawKind := fun c hc =>
    h _ (hmet ▸ List.mem_map_of_mem hc)
  have hunbroken : ∀ l ∈ lines source (rows source) 0 t, Unbroken l.toList := by
    rw [hlines, List.forall_mem_map]
    exact fun c hc => unbroken_line (hname c hc) _ _ _
  refine ⟨?_, hunbroken, hlines, hmet, ?_⟩
  · have hrender : (render source t).toList =
        ((lines source (rows source) 0 t).map String.toList).flatMap (· ++ ['\n']) := by
      rw [render, String.toList_join, List.flatMap_map, List.flatMap_map]
      refine List.flatMap_congr fun l _ => ?_
      rw [String.toList_append]
      rfl
    rw [hrender, splitAtEach_flatMap]
    rw [List.forall_mem_map]
    exact fun l hl hfeed => (hunbroken l hl _ hfeed).1 rfl
  · rw [hlines, List.map_map]
    exact List.map_congr_left fun c hc => indent_line (hname c hc) _ _ _

/-- The blanks in front of the lines tell the shape of the tree. -/
theorem Shows.map_indent_eq_iff {source' : String} {t' : Tree} {ls ls' : List String}
    (h : Shows source t ls) (h' : Shows source' t' ls') :
    ls'.map indent = ls.map indent ↔ t'.shape = t.shape := by
  have hdepths (u : Tree) : u.cursors.map (2 * ·.depth) = (u.shape.depths 0).map (2 * ·) := by
    rw [← u.map_depth_cursors, List.map_map]
    rfl
  rw [h.indented, h'.indented, hdepths, hdepths, List.map_inj_right fun m n hmn => by omega,
    Shape.depths_inj]

/-- If the kinds are as grammars name them, the outline of a tree has one line for each node, in the
order in which a walk meets them, with two blanks in front of it for each node above. No text of a
token is spread over several lines. Outlines whose lines begin with the same numbers of blanks are
those of trees of the same shape, whatever their texts are. -/
theorem exists_shows (source : String) (t : Tree) (h : ∀ u ∈ t.nodes, IsKindName u.rawKind) :
    ∃ ls, Shows source t ls ∧
      ∀ (source' : String) (t' : Tree) (ls' : List String),
        (∀ u ∈ t'.nodes, IsKindName u.rawKind) →
        splitAtEach '\n' (render source' t').toList = ls'.map String.toList ++ [[]] →
        (ls'.map indent = ls.map indent ↔ t'.shape = t.shape) := by
  have hshows := shows_of_isKindName source h
  refine ⟨_, hshows, fun source' t' ls' h' hprinted => ?_⟩
  have hshows' := shows_of_isKindName source' h'
  rw [hshows'.printed, List.append_cancel_right_eq,
    List.map_inj_right fun _ _ => String.toList_inj.1] at hprinted
  exact hshows.map_indent_eq_iff (hprinted ▸ hshows')

/-- A comment of two lines with a quotation mark in it. -/
def commentTree : Tree :=
  .node ⟨"program", true, false, 0, 11, none⟩
    [.node ⟨"block_comment", true, false, 0, 11, none⟩ []]

theorem exists_shows_sample :
    (∀ u ∈ commentTree.nodes, IsKindName u.rawKind) ∧
      ∃ ls, Shows "/* \"\n\" */" commentTree ls ∧
        ∀ (source' : String) (t' : Tree) (ls' : List String),
          (∀ u ∈ t'.nodes, IsKindName u.rawKind) →
          splitAtEach '\n' (render source' t').toList = ls'.map String.toList ++ [[]] →
          (ls'.map indent = ls.map indent ↔ t'.shape = commentTree.shape) := by
  have h : ∀ u ∈ commentTree.nodes, IsKindName u.rawKind := by decide
  exact ⟨h, exists_shows _ _ h⟩

end Outline

end JavaLint
