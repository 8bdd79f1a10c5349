import JavaLint.Config.Checkstyle
import JavaLint.Text.Quoted
import JavaLint.Xml.Attribute
import JavaLint.Xml.Reference

/-!
# Reading checkstyle configurations

A module is an element with its name in an attribute; its properties and its modules are elements in
it. The properties of a module stand next to each other, and so do its modules. Elements with other
names, other attributes and most text are passed over. A document is read only as far as the end of its
root, and the first fault on the way is told.
-/

namespace JavaLint.Config

open JavaLint.Text JavaLint.Xml

/-- Why a document is no checkstyle configuration. -/
inductive CheckstyleFault where
  /-- The document is no XML, or ends too early. -/
  | malformed
  /-- An element lacks an attribute. -/
  | missing (name : String)
  /-- An attribute or a list of elements comes a second time. -/
  | repeated (part : String)
  /-- Text stands where an element is expected. -/
  | strayText (text expected : String)
  /-- The root has another name. -/
  | unexpectedRoot (name : String)
deriving DecidableEq, Repr, Inhabited

namespace CheckstyleFault

/-- What is said of a fault in the document, without what comes before it. -/
def detail : CheckstyleFault → Option String
  | malformed => none
  | missing a => some s!"missing field \x60{a}\x60"
  | repeated p => some s!"duplicate field \x60{p}\x60"
  | strayText t e => some s!"invalid type: string {quoted t}, expected struct {e}"
  | unexpectedRoot _ => none

end CheckstyleFault

namespace CheckstyleReader

/-! ## Events -/

/-- What comes next in the content of an element. -/
inductive Event where
  | opening (name attributes : List Char)
  | closing
  | text (content : String)
deriving Repr, Inhabited

/-- Whether text follows directly. -/
def textFollows : List Markup → Bool
  | .text _ :: _ => true
  | .verbatim _ :: _ => true
  | _ => false

/-- The text up to the next tag. Blanks at its end do not count. -/
def gather (found : String) : List Markup → Except CheckstyleFault (String × List Markup)
  | .text raw :: rest => do
    let raw := if textFollows rest then raw else trimEnd raw
    match expand? raw with
    | some text => gather (found ++ text) rest
    | none => throw .malformed
  | .verbatim content :: rest => gather (found ++ String.ofList content) rest
  | rest => pure (found, rest)

/-- The next event. Blanks at the start of text do not count, and text of blanks alone is none. -/
def next : List Markup → Except CheckstyleFault (Event × List Markup)
  | [] => throw .malformed
  | .malformed :: _ => throw .malformed
  | .opening n a :: rest => pure (.opening n a, rest)
  | .closing :: rest => pure (.closing, rest)
  | .doctype :: rest => next rest
  | .verbatim content :: rest => do
    let (text, rest) ← gather (String.ofList content) rest
    pure (.text text, rest)
  | .text raw :: rest =>
    let raw := raw.dropWhile isSpace
    if raw.isEmpty then next rest
    else match expand? (if textFollows rest then raw else trimEnd raw) with
      | none => throw .malformed
      | some text => do
        let (text, rest) ← gather text rest
        pure (.text text, rest)

/-- Passes over the rest of an element with some elements open in it. -/
def skipOpen (depth : Nat) : List Markup → Except CheckstyleFault (List Markup)
  | [] => throw .malformed
  | .malformed :: _ => throw .malformed
  | .opening .. :: rest => skipOpen (depth + 1) rest
  | .closing :: rest =>
    match depth with
    | 0 => pure rest
    | depth + 1 => skipOpen depth rest
  | _ :: rest => skipOpen depth rest

/-- Passes over the rest of an element. Text at its start has to be well-formed. -/
def skip (pieces : List Markup) : Except CheckstyleFault (List Markup) := do
  match ← next pieces with
  | (.opening .., rest) => skipOpen 1 rest
  | (.closing, rest) => pure rest
  | (.text _, rest) => skipOpen 0 rest

/-! ## Attributes -/

/-- Takes the values of some attributes, in the order of their names, from those of a tag. -/
def takeAttributes (names : List String) (tag : List Char) :
    Except CheckstyleFault (List (Option String)) := do
  let (attributes, complete) := Attribute.ofTag tag
  let found ← attributes.foldlM (fun (found : List (String × String)) a =>
    if names.contains a.key then
      if (found.lookup a.key).isSome then throw (.repeated ("@" ++ a.key))
      else match expand? a.raw with
        | some value => pure ((a.key, value) :: found)
        | none => throw .malformed
    else pure found) []
  if complete then pure (names.map fun n => found.lookup n) else throw .malformed

/-- The value of an attribute that has to be there. -/
def demand (name : String) (value : Option (Option String)) : Except CheckstyleFault String :=
  match value.join with
  | some v => pure v
  | none => throw (.missing ("@" ++ name))

/-! ## Elements -/

/-- Passes over the content of an element that holds nothing of interest. -/
def emptyContent : Nat → List Markup → Except CheckstyleFault (List Markup)
  | 0, _ => throw .malformed
  | fuel + 1, pieces => do
    match ← next pieces with
    | (.closing, rest) => pure rest
    | (.text _, rest) => emptyContent fuel rest
    | (.opening .., rest) => emptyContent fuel (← skip rest)

/-- Reads a property behind the name of its tag. -/
def readProperty (fuel : Nat) (tag : List Char) (pieces : List Markup) : Except CheckstyleFault (Property × List Markup) := do
  let values ← takeAttributes ["name", "value"] tag
  let rest ← emptyContent fuel pieces
  let name ← demand "name" values[0]?
  let value ← demand "value" values[1]?
  pure (⟨name, value⟩, rest)

/-- Reads properties up to something else. All have the name of the first. -/
def readProperties (name : List Char) :
    Nat → List Markup → Except CheckstyleFault (List Property × List Markup)
  | 0, _ => throw .malformed
  | fuel + 1, pieces => do
    match ← next pieces with
    | (.text t, _) => throw (.strayText t "Property")
    | (.closing, _) => pure ([], pieces)
    | (.opening n tag, rest) =>
      if n = name then
        let (first, rest) ← readProperty fuel tag rest
        let (more, rest) ← readProperties name fuel rest
        pure (first :: more, rest)
      else pure ([], pieces)

/-- The lists of a module that have been read. -/
structure Content where
  properties : Option (List Property)
  modules : Option (List Module)
deriving Inhabited

mutual

/-- Reads modules up to something else. All have the name of the first. -/
def readModules (name : List Char) :
    Nat → List Markup → Except CheckstyleFault (List Module × List Markup)
  | 0, _ => throw .malformed
  | fuel + 1, pieces => do
    match ← next pieces with
    | (.text t, _) => throw (.strayText t "Module")
    | (.closing, _) => pure ([], pieces)
    | (.opening n tag, rest) =>
      if n = name then
        let (first, rest) ← readModule tag fuel rest
        let (more, rest) ← readModules name fuel rest
        pure (first :: more, rest)
      else pure ([], pieces)

/-- Reads the content of a module. -/
def readContent (found : Content) :
    Nat → List Markup → Except CheckstyleFault (Content × List Markup)
  | 0, _ => throw .malformed
  | fuel + 1, pieces => do
    match ← next pieces with
    | (.closing, rest) => pure (found, rest)
    | (.text _, rest) => readContent found fuel rest
    | (.opening name _, rest) =>
      match String.ofList (localName name) with
      | "property" =>
        if found.properties.isSome then throw (.repeated "property")
        let (list, rest) ← readProperties name fuel pieces
        readContent { found with properties := some list } fuel rest
      | "module" =>
        if found.modules.isSome then throw (.repeated "module")
        let (list, rest) ← readModules name fuel pieces
        readContent { found with modules := some list } fuel rest
      | _ => readContent found fuel (← skip rest)

/-- Reads a module behind the name of its tag. Each turn of these readers takes a piece or descends
into an element, so `fuel` need not exceed three times the number of pieces. -/
def readModule (tag : List Char) : Nat → List Markup → Except CheckstyleFault (Module × List Markup)
  | 0, _ => throw .malformed
  | fuel + 1, pieces => do
    let values ← takeAttributes ["name"] tag
    let (content, rest) ← readContent ⟨none, none⟩ fuel pieces
    let name ← demand "name" values[0]?
    pure (.mk name (content.properties.getD []) (content.modules.getD []), rest)

end

end CheckstyleReader

open CheckstyleReader in
/-- The configuration that a document holds. -/
def Checkstyle.ofText (document : String) : Except CheckstyleFault Checkstyle := do
  let pieces := Markup.ofText document
  match ← next pieces with
  | (.text t, _) => throw (.strayText t "CheckstyleConfig")
  | (.closing, _) => throw .malformed
  | (.opening _ tag, rest) =>
    let (root, _) ← readModule tag (3 * pieces.length + 1) rest
    if root.name = rootName then pure ⟨root⟩ else throw (.unexpectedRoot root.name)

end JavaLint.Config
