import JavaLint.Lint.CommentFilter
import JavaLint.Lint.Rule
import JavaLint.Tree.Walk

/-!
# Where rules are silent

A rule is silent in the stretches between two comments that a filter tells of, and in declarations
with an annotation that names the rule. Only comments of the syntax tree count, so the text of a
string never silences a rule.
-/

namespace JavaLint

open JavaLint.Text

/-- A part of a text where rules are silent. -/
structure Region where
  key : RuleKey
  span : Span
deriving DecidableEq, Repr, Inhabited

/-- The parts of a text where rules are silent. -/
abbrev Suppressions := List Region

namespace Suppressions

/-- Whether a rule is silent at an offset. -/
def silences (s : Suppressions) (rule : String) (o : Offset) : Bool :=
  s.any fun r => (r.key == RuleKey.ofName rule || r.key == .every) && r.span.contains o

/-! ## Comments -/

/-- A comment with its start. -/
structure Comment where
  start : Offset
  text : String
deriving DecidableEq, Repr, Inhabited

/-- The comments of a tree, in the order of the walk. -/
def comments (source : String) (tree : Tree) : Except Fault (List Comment) :=
  (tree.walk.filter fun t => t.kind.isComment).mapM fun t => do
    pure ⟨(← t.span).start, t.text source⟩

/-- What is known after some comments: the silent stretches that have started, and those that have
ended. -/
structure Stretches where
  started : List (RuleKey × Offset)
  ended : List Region
deriving Inhabited

namespace Stretches

/-- Starts a stretch for the given rules at an offset, unless one has started for them. -/
def start (s : Stretches) (key? : Option RuleKey) (o : Offset) : Stretches :=
  match key? with
  | none => s
  | some key =>
    if (s.started.lookup key).isSome then s else { s with started := (key, o) :: s.started }

/-- Ends at an offset the stretch that has started for the given rules, if there is one. -/
def stop (s : Stretches) (key? : Option RuleKey) (o : Offset) : Except Fault Stretches :=
  match key? with
  | none => pure s
  | some key =>
    match s.started.lookup key with
    | none => pure s
    | some start => do
      let span ← Span.ofBounds start o
      pure ⟨s.started.filter fun e => e.1 != key, ⟨key, span⟩ :: s.ended⟩

/-- Takes note of a comment. It first starts a stretch and then ends one. -/
def note (f : CommentFilter) (s : Stretches) (c : Comment) : Except Fault Stretches :=
  (s.start (f.offKey? c.text) c.start).stop (f.onKey? c.text) c.start

end Stretches

/-- An order in which the entries of a table are visited. A table promises none. -/
structure Visit (α : Type) where
  order : List α → List α
  perm (entries : List α) : (order entries).Perm entries

/-- The entries are visited as they are listed. -/
def Visit.listed {α : Type} : Visit α := ⟨id, fun _ => .refl _⟩

/-- The silent stretch that has started somewhere for some rules, up to an offset. -/
def regionUpTo (stop : Offset) (started : RuleKey × Offset) : Except Fault Region := do
  pure ⟨started.1, ← Span.ofBounds started.2 stop⟩

/-- The silent stretches of a filter. Those that no comment ends are visited in some order, and reach
to the end of the text. -/
def ofFilter (comments : List Comment) (stop : Offset) (f : CommentFilter)
    (visit : Visit (RuleKey × Offset)) : Except Fault Suppressions := do
  let s ← comments.foldlM (Stretches.note f) ⟨[], []⟩
  let unended ← (visit.order s.started).mapM (regionUpTo stop)
  pure (s.ended ++ unended)

/-- The end of a text, as far as it can be counted. -/
def textEnd (source : String) : Offset := (Offset.ofNat? source.utf8ByteSize).getD .last

/-- The silent stretches of several filters, each with its own order of visits. -/
def ofVisited (filters : List (CommentFilter × Visit (RuleKey × Offset))) (source : String)
    (tree : Tree) : Except Fault Suppressions := do
  let comments ← comments source tree
  let regions ← filters.mapM fun (f, visit) => ofFilter comments (textEnd source) f visit
  pure regions.flatten

/-- The silent stretches of several filters. -/
def ofFilters (filters : List CommentFilter) (source : String) (tree : Tree) :
    Except Fault Suppressions :=
  ofVisited (filters.map (·, .listed)) source tree

/-! ## Annotations -/

mutual

/-- The string literals in the arguments of an annotation, as they are written. -/
def literals (source : String) : Tree → List String
  | .node l cs =>
    if l.kind = "string_literal" then [Tree.text (.node l cs) source] else literalsOf source cs

/-- The string literals in those of some trees that the grammar names. -/
def literalsOf (source : String) : List Tree → List String
  | [] => []
  | t :: ts => (if t.isNamed then literals source t else []) ++ literalsOf source ts

end

/-- The text without quotes at either end. -/
def unquoted (literal : String) : List Char :=
  ((literal.toList.dropWhile (· == '"')).reverse.dropWhile (· == '"')).reverse

/-- The rules that a literal names: what follows `checkstyle:`, or all rules. -/
def literalKey? (literal : String) : Option RuleKey :=
  let mark := "checkstyle:".toList
  let text := unquoted literal
  if mark.isPrefixOf text then
    match RuleKey.ofName (String.ofList (text.drop mark.length)) with
    | .named "all" => some .every
    | key => some key
  else none

/-- The rules that an annotation silences. -/
def annotationKeys (source : String) (note : Tree) : List RuleKey :=
  let name := match note.child? "name" with
    | some t => t.text source
    | none => ""
  if name = "SuppressWarnings" ∨ name = "java.lang.SuppressWarnings" then
    match note.child? "arguments" with
    | some t => (literals source t).filterMap literalKey?
    | none => []
  else []

/-- The rules that the annotations of a declaration silence. -/
def declarationKeys (source : String) (declaration : Tree) : List RuleKey :=
  match declaration.children.find? fun c => c.kind.isModifiers with
  | some clause =>
    (clause.children.filter fun c => c.kind.isAnnotation).flatMap (annotationKeys source)
  | none => []

/-- The declarations in which rules are silent because of their annotations. -/
def ofAnnotations (source : String) (tree : Tree) : Except Fault Suppressions := do
  let regions ← (tree.walk.filter fun t => t.kind.isDeclaration).mapM fun t =>
    (declarationKeys source t).mapM fun key => do pure ⟨key, ← t.span⟩
  pure regions.flatten

end Suppressions

end JavaLint
