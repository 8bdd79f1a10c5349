import JavaLint.Log.Event
import JavaLint.Text.Blank
import JavaLint.Text.Decimal
import JavaLint.Text.Search
import JavaLint.Unicode.Property

/-!
# Log filters

A filter is a list of directives with commas between them. A directive limits how grave events have to
be, either all or those of the parts of the program whose names start with a text. For an event the
directive with the longest such text counts, and of two with the same text the later one.
-/

namespace JavaLint.Log

open JavaLint.Text JavaLint.Unicode

/-- Why a text is no filter. -/
inductive FilterFault where
  /-- The limit of a directive is none. -/
  | noLevel
  /-- A directive is not well written. -/
  | noDirective
deriving DecidableEq, Repr, Inhabited

/-- What is said of a fault and, one after the other, of its reasons. -/
def FilterFault.causes : FilterFault → List String
  | noLevel =>
    let text := "error parsing level filter: expected one of \"off\", \"error\", \"warn\", " ++
      "\"info\", \"debug\", \"trace\", or a number 0-5"
    [text, text]
  | noDirective => ["invalid filter directive"]

/-- A directive. -/
structure Directive where
  /-- How the names of the parts start that it is about. -/
  target : String
  /-- Whether it is about what happens inside a named stretch of work. Of those there are none. -/
  inStretch : Bool
  /-- The rank of the least grave events that pass; with zero none do. -/
  limit : Nat
deriving DecidableEq, Repr, Inhabited

namespace Directive

/-- A limit: a number up to five, or the name of a level in letters of any case. -/
def limit? (cs : List Char) : Option Nat :=
  match Decimal.read cs with
  | .ok n => if n ≤ 5 then some n else none
  | .error _ =>
    let name := String.ofList (cs.map Char.toLower)
    if name = "off" then some 0
    else (Level.all.find? fun l => String.ofList (l.name.toList.map Char.toLower) == name).map
      Level.rank

/-- The limit behind an equals sign; nothing there lets all events pass. -/
def limitBehind (cs : List Char) : Except FilterFault Nat :=
  if cs.isEmpty then .ok Level.trace.rank
  else match limit? cs with
    | some n => .ok n
    | none => .error .noLevel

/-- Reads what stands behind a closing bracket. -/
def readAfterStretch (target : List Char) : List Char → Except FilterFault Directive
  | [] => .ok ⟨String.ofList target, true, Level.trace.rank⟩
  | '=' :: limit => do pure ⟨String.ofList target, true, ← limitBehind limit⟩
  | _ => .error .noDirective

/-- Reads what stands behind an opening bracket: a name, and fields in braces. -/
def readStretch (target cs : List Char) : Except FilterFault Directive :=
  match cs.dropWhile fun c => c != ']' && c != '\x7b' with
  | ']' :: rest => readAfterStretch target rest
  | '\x7b' :: rest =>
    match rest.takeWhile (· != '\x7d'), rest.dropWhile (· != '\x7d') with
    | _ :: _, _ :: ']' :: rest => readAfterStretch target rest
    | _, _ => .error .noDirective
  | _ => .error .noDirective

/-- Whether a directive may start with a character. -/
def startsWith (c : Char) : Bool :=
  c == '-' || c == ':' || c == '_' || alphanumeric.contains c

/-- Reads a directive: a limit, or the start of names with a limit behind an equals sign. Blanks in
front are not passed over: they count with the name, and displace an equals sign behind it. -/
def read (cs : List Char) : Except FilterFault Directive :=
  match cs.dropWhile isBlank with
  | [] => .error .noDirective
  | '[' :: rest => readStretch [] rest
  | c :: rest =>
    if !startsWith c then .error .noDirective
    else
      let length := ((c :: rest).takeWhile fun c => c != '=' && c != '[').length
      let head := cs.take length
      match (c :: rest).drop length with
      | '=' :: _ => do pure ⟨String.ofList head, false, ← limitBehind (cs.drop (length + 1))⟩
      | _ :: rest => readStretch head rest
      | [] =>
        match limit? cs with
        | some n => .ok ⟨"", false, n⟩
        | none => .ok ⟨String.ofList cs, false, Level.trace.rank⟩

/-- Whether a directive is about an event. -/
def concerns (d : Directive) (e : Event) : Bool :=
  !d.inStretch && d.target.toList.isPrefixOf e.target.toList

end Directive

/-- A filter. -/
structure Filter where
  directives : List Directive
deriving DecidableEq, Repr, Inhabited

namespace Filter

/-- The filter that a text writes. Without directives only errors pass. -/
def ofText (text : String) : Except FilterFault Filter := do
  let written := (splitAtEach ',' text.toList).filter fun cs => !cs.isEmpty
  let directives ← written.mapM Directive.read
  pure ⟨if directives.isEmpty then [⟨"", false, Level.error.rank⟩] else directives⟩

/-- The directive that counts for an event. -/
def directiveFor? (f : Filter) (e : Event) : Option Directive :=
  (f.directives.filter (·.concerns e)).foldl (fun best d =>
    match best with
    | some b => if d.target.length < b.target.length then some b else some d
    | none => some d) none

/-- Whether an event passes. -/
def passes (f : Filter) (e : Event) : Bool :=
  match f.directiveFor? e with
  | some d => e.level.rank ≤ d.limit
  | none => false

end Filter

end JavaLint.Log
