import JavaLint.Text.Search

/-!
# The pieces of an XML document

A document is cut into tags and the text between them. Comments, instructions and declarations are
left out. Tags are matched here: a tag that closes what is not open is malformed, and nothing is read
behind malformed markup.
-/

namespace JavaLint.Xml

open JavaLint.Text

/-- A piece of a document. -/
inductive Markup where
  /-- The opening tag of an element, with its attributes as they are written. -/
  | opening (name attributes : List Char)
  /-- The closing tag of the element that was opened last. -/
  | closing
  /-- Text with its references as they are written. -/
  | text (raw : List Char)
  /-- Text without references. -/
  | verbatim (content : List Char)
  | doctype
  | malformed
deriving Repr, Inhabited

/-- Whether a character is a blank of XML. -/
def isSpace (c : Char) : Bool := c == ' ' || c == '\r' || c == '\n' || c == '\t'

/-- Text without blanks at its end. -/
def trimEnd (cs : List Char) : List Char := (cs.reverse.dropWhile isSpace).reverse

/-- What a tag holds up to its bracket; brackets in quotes do not end it. -/
def tag? (quote : Option Char) : List Char → Option (List Char × List Char)
  | [] => none
  | c :: cs =>
    match quote with
    | none =>
      if c = '>' then some ([], cs)
      else
        let quote := if c = '"' ∨ c = '\'' then some c else none
        (tag? quote cs).map fun (content, rest) => (c :: content, rest)
    | some q =>
      (tag? (if c = q then none else some q) cs).map fun (content, rest) => (c :: content, rest)

/-- What a declaration holds up to its bracket; it may hold brackets in pairs. -/
def declaration? (depth : Nat) : List Char → Option (List Char × List Char)
  | [] => none
  | c :: cs =>
    let next := fun depth =>
      (declaration? depth cs).map fun (content, rest) => (c :: content, rest)
    if c = '<' then next (depth + 1)
    else if c = '>' then
      match depth with
      | 0 => some ([], cs)
      | depth + 1 => next depth
    else next depth

/-- The piece that starts with an exclamation mark, without the mark, and the rest of the document.
A comment has no piece. -/
def exclaimed? (cs : List Char) : Option (Option Markup × List Char) := do
  match cs with
  | '-' :: _ =>
    let (_, rest) ← cutAt? "-->".toList (← behind? "--".toList cs)
    pure (none, rest)
  | '[' :: _ =>
    let (content, rest) ← cutAt? "]]>".toList (← behind? "[CDATA[".toList cs)
    pure (some (.verbatim content), rest)
  | _ =>
    let (content, rest) ← declaration? 0 cs
    let word := (content.take 7).map Char.toLower
    if word = "doctype".toList ∧ !(content.drop 7).all isSpace then pure (some .doctype, rest)
    else none

/-- Cuts a document into its pieces. `opened` are the names of the elements that are open, the last
first. Each turn takes a character or more, so `fuel` need not exceed their number. -/
def scan : Nat → List (List Char) → List Char → List Markup
  | 0, _, _ => []
  | fuel + 1, opened, cs =>
    match cs with
    | [] => []
    | '<' :: '!' :: cs =>
      match exclaimed? cs with
      | some (piece, rest) => piece.toList ++ scan fuel opened rest
      | none => [.malformed]
    | '<' :: '?' :: '>' :: _ => [.malformed]
    | '<' :: '?' :: cs =>
      match cutAt? "?>".toList cs with
      | some (_, rest) => scan fuel opened rest
      | none => [.malformed]
    | '<' :: '/' :: cs =>
      match tag? none cs, opened with
      | some (content, rest), name :: opened =>
        let written := if content.all isSpace then content else trimEnd content
        if written = name then .closing :: scan fuel opened rest else [.malformed]
      | _, _ => [.malformed]
    | '<' :: cs =>
      if cs.isEmpty then [.malformed]
      else match tag? none cs with
      | none => [.malformed]
      | some (content, rest) =>
        let isEmpty := content.getLast? == some '/'
        let content := if isEmpty then content.dropLast else content
        let name := content.takeWhile (!isSpace ·)
        let piece := .opening name (content.drop name.length)
        if isEmpty then piece :: .closing :: scan fuel opened rest
        else piece :: scan fuel (name :: opened) rest
    | cs => .text (cs.takeWhile (· != '<')) :: scan fuel opened (cs.dropWhile (· != '<'))

/-- The pieces of a document. A mark of the byte order at its start is no part of it. -/
def Markup.ofText (document : String) : List Markup :=
  let cs := document.toList
  let cs := match cs with
    | '\uFEFF' :: rest => rest
    | _ => cs
  scan (cs.length + 1) [] cs

end JavaLint.Xml
