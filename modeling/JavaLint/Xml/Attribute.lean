import JavaLint.Xml.Markup

/-!
# Attributes

An opening tag lists names with quoted values. The names before the colon of a name do not count, but
a name that declares such a name counts as a whole.
-/

namespace JavaLint.Xml

open JavaLint.Text

/-- The part of a name behind its first colon; all of it if there is none. -/
def localName (name : List Char) : List Char :=
  match cutAt? [':'] name with
  | some (_, rest) => rest
  | none => name

/-- An attribute. -/
structure Attribute where
  /-- The name as it is written. -/
  name : List Char
  /-- The value with its references as they are written. -/
  raw : List Char
deriving Repr, Inhabited

namespace Attribute

/-- The name that counts. -/
def key (a : Attribute) : String :=
  let declares := match behind? "xmlns".toList a.name with
    | some [] => true
    | some (c :: _) => c == ':'
    | none => false
  String.ofList (if declares then a.name else localName a.name)

/-- Cuts a text at a quote. -/
def value? (quote : Char) (cs : List Char) : Option (List Char × List Char) := cutAt? [quote] cs

/-- Reads attributes until the end or until one is malformed; tells whether the end was reached. No
name may be written twice. Each turn takes a character or more, so `fuel` need not exceed their
number. -/
def read : Nat → List (List Char) → List Char → List Attribute × Bool
  | 0, _, _ => ([], false)
  | fuel + 1, seen, cs =>
    match cs.dropWhile isSpace with
    | [] => ([], true)
    | c :: cs =>
      let stays := fun d => d != '=' && !isSpace d
      let name := c :: cs.takeWhile stays
      match (cs.dropWhile stays).dropWhile isSpace with
      | '=' :: cs =>
        if seen.contains name then ([], false)
        else match cs.dropWhile isSpace with
        | quote :: cs =>
          if quote = '"' ∨ quote = '\'' then
            match value? quote cs with
            | some (raw, rest) =>
              let (more, complete) := read fuel (name :: seen) rest
              (⟨name, raw⟩ :: more, complete)
            | none => ([], false)
          else ([], false)
        | [] => ([], false)
      | _ => ([], false)

/-- The attributes of an opening tag up to the first that is malformed, and whether there is none. -/
def ofTag (attributes : List Char) : List Attribute × Bool := read (attributes.length + 1) [] attributes

end Attribute

end JavaLint.Xml
