import JavaLint.Text.Slice
import JavaLint.Toml.Scalar
import JavaLint.Toml.Text

/-!
# Documents of TOML

A document is read line by line: a line is a header, a key with its value, or blank. The readers here
take the rest of the document and return what is left of it; they have no result where the document is
not well written.
-/

namespace JavaLint.Toml

open JavaLint.Text

/-- What is behind blanks, and behind the comment that follows them. -/
def skipComment? (cs : List Char) : Option (List Char) :=
  match cs.dropWhile isBlank with
  | '#' :: cs =>
    match cs.dropWhile isPlain with
    | [] => some []
    | rest => if (behindNewline? rest).isSome then some rest else none
  | rest => some rest

/-- What is behind the end of a line or of the document, with blanks and a comment before it. -/
def endLine? (cs : List Char) : Option (List Char) :=
  match skipComment? cs with
  | some [] => some []
  | some rest => behindNewline? rest
  | none => none

/-- What is behind blanks, comments and ends of lines. Each turn takes a character, so `fuel` need not
exceed their number. -/
def skipLines? : Nat → List Char → Option (List Char)
  | 0, _ => none
  | fuel + 1, cs =>
    match skipComment? cs with
    | none => none
    | some rest =>
      match behindNewline? rest with
      | some rest => skipLines? fuel rest
      | none => some rest

/-! ## Keys -/

/-- Whether a key without quotes may hold a character. -/
def isKeyChar (c : Char) : Bool := c.isAlphanum || c == '-' || c == '_'

/-- Reads a part of a key. -/
def readPart? (cs : List Char) : Option (String × List Char) :=
  match cs with
  | '"' :: cs => readLine? '"' cs
  | '\'' :: cs => readLine? '\'' cs
  | _ =>
    let part := cs.takeWhile isKeyChar
    if part.isEmpty then none else some (String.ofList part, cs.dropWhile isKeyChar)

/-- Reads a key: one part, or several with dots between them. -/
def readKey? : Nat → List Char → Option (List String × List Char)
  | 0, _ => none
  | fuel + 1, cs => do
    let (part, rest) ← readPart? (cs.dropWhile isBlank)
    match rest.dropWhile isBlank with
    | '.' :: rest => do
      let (more, rest) ← readKey? fuel rest
      pure (part :: more, rest)
    | rest => pure ([part], rest)

/-- The last part of a key and the parts before it. -/
def splitKey (key : List String) : List String × String := (key.dropLast, key.getLast?.getD "")

/-! ## Values -/

/-- How deeply lists and tables in braces may be nested. -/
def depthLimit : Nat := 80

mutual

/-- Reads a value. `room` is how much deeper values may be nested. -/
def readValue? (room : Nat) : Nat → List Char → Option (Value × List Char)
  | 0, _ => none
  | fuel + 1, cs => do
    let startsBefore := byteLength cs
    match cs with
    | '[' :: inner =>
      if room = 0 then none
      else
        let (items, rest) ← readItems? (room - 1) fuel inner
        pure (.list false items ⟨startsBefore, byteLength rest⟩, rest)
    | '\x7b' :: inner =>
      if room = 0 then none
      else
        let (entries, rest) ← readEntries? (room - 1) [] fuel inner
        pure (.table .braces entries ⟨startsBefore, byteLength rest⟩, rest)
    | '"' :: inner =>
      let (content, rest) ← readText? '"' inner
      pure (.text content ⟨startsBefore, byteLength rest⟩, rest)
    | '\'' :: inner =>
      let (content, rest) ← readText? '\'' inner
      pure (.text content ⟨startsBefore, byteLength rest⟩, rest)
    | _ =>
      let (kind, written, rest) ← readScalar? cs
      pure (.scalar kind written ⟨startsBefore, byteLength rest⟩, rest)

/-- Reads the rest of a list. -/
def readItems? (room : Nat) : Nat → List Char → Option (List Value × List Char)
  | 0, _ => none
  | fuel + 1, cs => do
    match ← skipLines? (cs.length + 1) cs with
    | ']' :: rest => pure ([], rest)
    | cs =>
      let (item, rest) ← readValue? room fuel cs
      match ← skipLines? (rest.length + 1) rest with
      | ',' :: rest =>
        let (items, rest) ← readItems? room fuel rest
        pure (item :: items, rest)
      | ']' :: rest => pure ([item], rest)
      | _ => none

/-- Reads the rest of a table in braces behind the entries that it has so far. -/
def readEntries? (room : Nat) (entries : List (String × Value)) :
    Nat → List Char → Option (List (String × Value) × List Char)
  | 0, _ => none
  | fuel + 1, cs => do
    match ← skipLines? (cs.length + 1) cs with
    | '\x7d' :: rest => pure (entries, rest)
    | cs =>
      let (key, rest) ← readKey? (cs.length + 1) cs
      let rest ← behind? ['='] rest
      let (value, rest) ← readValue? room fuel (rest.dropWhile isBlank)
      let (way, last) := splitKey key
      let (_, entries) ← assign way last value .header entries
      match ← skipLines? (rest.length + 1) rest with
      | ',' :: rest => readEntries? room entries fuel rest
      | '\x7d' :: rest => pure (entries, rest)
      | _ => none

end

/-! ## Lines -/

/-- A document that is being read. -/
structure Draft where
  /-- The entries of the document. -/
  entries : List (String × Value)
  /-- The way to the table that the lines belong to. -/
  header : List String
deriving Inhabited

/-- Applies a change to the whole document. -/
def Draft.change (d : Draft) (f : TableChange) : Option Draft :=
  (f .header d.entries).map fun (_, entries) => { d with entries }

/-- Reads one line; there is no result if it is not well written, or may not follow those before. -/
def readLineOf? (d : Draft) (cs : List Char) : Option (Draft × List Char) := do
  let place : Place := ⟨byteLength cs, byteLength cs⟩
  match cs.dropWhile isBlank with
  | '[' :: '[' :: cs =>
    let (key, rest) ← readKey? (cs.length + 1) cs
    let rest ← behind? [']', ']'] rest
    let (way, last) := splitKey key
    let d ← d.change (openItem way last place)
    pure ({ d with header := key }, ← endLine? rest)
  | '[' :: cs =>
    let (key, rest) ← readKey? (cs.length + 1) cs
    let rest ← behind? [']'] rest
    let (way, last) := splitKey key
    let d ← d.change (openTable way last place)
    pure ({ d with header := key }, ← endLine? rest)
  | cs =>
    let blank := match cs with
      | [] => true
      | c :: _ => c == '#' || c == '\n' || c == '\r'
    if blank then pure (d, ← endLine? cs)
    else
      let (key, rest) ← readKey? (cs.length + 1) cs
      let rest ← behind? ['='] rest
      let rest := rest.dropWhile isBlank
      let (value, rest) ← readValue? depthLimit (2 * rest.length + 2) rest
      let (way, last) := splitKey key
      let d ← d.change (descend .implied value.place (assign way last value) d.header)
      pure (d, ← endLine? rest)

/-- Reads lines to the end. Returns what is left where a line is refused. -/
def readLines : Nat → Draft → List Char → Except (List Char) Draft
  | 0, d, cs => if cs.isEmpty then .ok d else .error cs
  | fuel + 1, d, cs =>
    if cs.isEmpty then .ok d
    else match readLineOf? d cs with
    | some (d, rest) => readLines fuel d rest
    | none => .error cs

/-- The entries of a document. A mark of the byte order at its start is no part of it. Where it is not
well written, the number of bytes is returned that are left at the line at fault. -/
def ofText (document : String) : Except Nat (List (String × Value)) :=
  let cs := document.toList
  let cs := match cs with
    | '\uFEFF' :: rest => rest
    | _ => cs
  match readLines (cs.length + 1) ⟨[], []⟩ cs with
  | .ok d => .ok d.entries
  | .error rest => .error (byteLength rest)

end JavaLint.Toml
