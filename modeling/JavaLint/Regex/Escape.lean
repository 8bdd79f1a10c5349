import JavaLint.Regex.Expr
import JavaLint.Text.Blank
import JavaLint.Text.Search
import JavaLint.Unicode.Folding
import JavaLint.Unicode.Script

/-!
# Escapes in a written expression

What may follow a backslash: a character that would otherwise mean something else, a code point in
hexadecimal digits, a set of characters, or a test of a place. Most of the readers here take the rest
of the written expression and return what is left of it; they have no result where the expression is
not well written.
-/

namespace JavaLint.Regex

open JavaLint.Text JavaLint.Unicode

/-- The switches that change how a written expression is read. -/
structure Flags where
  /-- Letters match whatever their case is. -/
  ignoreCase : Bool
  /-- The ends of lines are tested, not those of the text. -/
  manyLines : Bool
  /-- A dot matches the end of a line too. -/
  dotAll : Bool
  /-- Repetitions are lazy unless marked, instead of greedy. -/
  swapGreed : Bool
  /-- Sets hold characters beyond ASCII. -/
  unicode : Bool
  /-- Carriage returns end lines too. -/
  crlf : Bool
  /-- Blanks and comments are skipped. -/
  skipBlanks : Bool
deriving DecidableEq, Repr, Inhabited

namespace Flags

/-- The switches at the start. -/
def standard : Flags := ⟨false, false, false, false, true, false, false⟩

/-- Sets the switch that a letter stands for. -/
def set? (f : Flags) (letter : Char) (on : Bool) : Option Flags :=
  match letter with
  | 'i' => some { f with ignoreCase := on }
  | 'm' => some { f with manyLines := on }
  | 's' => some { f with dotAll := on }
  | 'U' => some { f with swapGreed := on }
  | 'u' => some { f with unicode := on }
  | 'R' => some { f with crlf := on }
  | 'x' => some { f with skipBlanks := on }
  | _ => none

/-- The last code point of the sets that may be written: without characters beyond ASCII, sets are
sets of bytes. -/
def lastPoint (f : Flags) : Nat := if f.unicode then CharSet.lastPoint else 0xFF

/-- A set as it is written, with the letters that differ in case and its complement if asked for. A
set of bytes beyond ASCII has no meaning. -/
def closeSet (f : Flags) (negated : Bool) (set : CharSet) : Option CharSet :=
  let folded :=
    if !f.ignoreCase then set
    else if f.unicode then closeUnderCase set else closeUnderAsciiCase set
  let result :=
    if negated then folded.complement.inter ⟨#[(0, f.lastPoint)]⟩ else folded
  if f.unicode || result.ranges.all fun (_, last) => last < 128 then some result else none

end Flags

/-! ## Blanks and comments -/

mutual

/-- The expression without blanks and comments at its start. -/
def dropBlanks : List Char → List Char
  | [] => []
  | c :: cs => if isBlank c then dropBlanks cs else if c = '#' then dropComment cs else c :: cs

/-- The expression without the rest of a comment, and blanks and comments behind that. -/
def dropComment : List Char → List Char
  | [] => []
  | c :: cs => if c = '\n' then dropBlanks cs else dropComment cs

end

mutual

theorem dropBlanks_length_le : (cs : List Char) → (dropBlanks cs).length ≤ cs.length
  | [] => by simp [dropBlanks]
  | c :: cs => by
    have blanks := dropBlanks_length_le cs
    have comment := dropComment_length_le cs
    simp only [dropBlanks]
    split
    · simp only [List.length_cons]; omega
    · split
      · simp only [List.length_cons]; omega
      · exact Nat.le_refl _

theorem dropComment_length_le : (cs : List Char) → (dropComment cs).length ≤ cs.length
  | [] => by simp [dropComment]
  | c :: cs => by
    have blanks := dropBlanks_length_le cs
    have comment := dropComment_length_le cs
    simp only [dropComment]
    split <;> simp only [List.length_cons] <;> omega

end

/-- Skips blanks and comments if they are skipped at all. -/
def Flags.skip (f : Flags) (cs : List Char) : List Char :=
  if f.skipBlanks then dropBlanks cs else cs

theorem Flags.skip_length_le (f : Flags) (cs : List Char) : (f.skip cs).length ≤ cs.length := by
  unfold skip
  split
  · exact dropBlanks_length_le cs
  · exact Nat.le_refl _

/-- The characters up to the first that fails a test, and the rest from that on. Blanks between them
are skipped if they are skipped at all. -/
def Flags.span (f : Flags) (keep : Char → Bool) : List Char → List Char × List Char
  | [] => ([], [])
  | c :: cs =>
    if keep c then
      let (kept, rest) := f.span keep (f.skip cs)
      (c :: kept, rest)
    else ([], c :: cs)
termination_by cs => cs.length
decreasing_by
  have := f.skip_length_le cs
  simp only [List.length_cons]
  omega

/-! ## Atoms -/

/-- What a character outside of a set, or an escape, stands for. -/
inductive Atom where
  /-- One character; `asByte` tells that it is written with two hexadecimal digits. -/
  | char (c : Char) (asByte : Bool)
  | set (s : CharSet)
  | assert (a : Assertion)
deriving Repr, Inhabited

/-- The value of a hexadecimal digit. -/
def hexDigit? (c : Char) : Option Nat :=
  if c.isDigit then some (c.toNat - 48)
  else if 'a' ≤ c ∧ c ≤ 'f' then some (c.toNat - 87)
  else if 'A' ≤ c ∧ c ≤ 'F' then some (c.toNat - 55)
  else none

/-- The character with a code point in hexadecimal digits. -/
def charOfHex? (digits : List Char) : Option Char := do
  let values ← digits.mapM hexDigit?
  let n := values.foldl (fun n d => 16 * n + d) 0
  if n.isValidChar then some (Char.ofNat n) else none

/-- Reads a fixed number of hexadecimal digits. -/
def Flags.hexDigits (f : Flags) : Nat → List Char → Option (List Char × List Char)
  | 0, cs => some ([], cs)
  | n + 1, c :: cs => do
    let _ ← hexDigit? c
    let (digits, rest) ← f.hexDigits n (f.skip cs)
    pure (c :: digits, rest)
  | _ + 1, [] => none

/-- Reads the code point behind the letter of its escape: as many digits as the letter tells, or any
number of them in braces. -/
def Flags.hexEscape (f : Flags) (letter : Char) (cs : List Char) : Option (Atom × List Char) := do
  match f.skip cs with
  | '\x7b' :: cs =>
    match f.span (· != '\x7d') (f.skip cs) with
    | (digits, _ :: rest) =>
      if digits.isEmpty then none
      else pure (.char (← charOfHex? digits) false, f.skip rest)
    | _ => none
  | cs =>
    let count := if letter = 'x' then 2 else if letter = 'u' then 4 else 8
    let (digits, rest) ← f.hexDigits count cs
    pure (.char (← charOfHex? digits) (letter = 'x'), rest)

/-- A name of a property in small letters without separators and without `is` at its start. -/
def plainName (name : List Char) : List Char :=
  let plain := fun (cs : List Char) =>
    (cs.filter fun c => c.val < 128 && !(c == ' ' || c == '_' || c == '-')).map Char.toLower
  match name with
  | i :: s :: rest =>
    if i.toLower = 'i' ∧ s.toLower = 's' then
      if plain rest = ['c'] then ['i', 's', 'c'] else plain rest
    else plain name
  | _ => plain name

/-- The characters of a general category, or of one of the sets that are named like one. -/
def categorySet? (name : String) : Option CharSet :=
  match name with
  | "any" => some (CharSet.complement .empty)
  | "ascii" => some (.ofRanges [(0, 127)])
  | "assigned" => some unassigned.complement
  | _ => NamedSet.find? categories name

/-- The characters with the property of a name: a property that characters have or lack, a general
category or a script. Three names of categories are names of other properties too. -/
def namedSet? (name : List Char) : Option CharSet :=
  let name := String.ofList (plainName name)
  let binary :=
    if ["cf", "sc", "lc"].contains name then none else NamedSet.find? properties name
  binary.or <| (categorySet? name).or <| NamedSet.find? scripts name

/-- The characters for which a property has a value. -/
def valueSet? (property value : List Char) : Option CharSet :=
  let value := String.ofList (plainName value)
  match String.ofList (plainName property) with
  | "gc" | "generalcategory" => categorySet? value
  | "sc" | "script" => NamedSet.find? scripts value
  | "scx" | "scriptextensions" =>
    (NamedSet.find? scriptUses value).or (NamedSet.find? scripts value)
  | _ => none

/-- The set that the text between braces asks for, and whether its complement is meant. -/
def propertySet? (name : List Char) : Option (Bool × CharSet) :=
  match cutAt? ['!', '='] name with
  | some (p, v) => (valueSet? p v).map (true, ·)
  | none =>
    match (cutAt? [':'] name).or (cutAt? ['='] name) with
    | some (p, v) => (valueSet? p v).map (false, ·)
    | none => (namedSet? name).map (false, ·)

/-- Reads the name of a property behind its letter. -/
def Flags.propertyEscape (f : Flags) (negated : Bool) (cs : List Char) :
    Option (Atom × List Char) := do
  let (name, rest) ←
    match f.skip cs with
    | '\x7b' :: cs =>
      match f.span (· != '\x7d') (f.skip cs) with
      | (name, _ :: rest) => some (name, rest)
      | _ => none
    | c :: cs => if c = '\\' then none else some ([c], f.skip cs)
    | [] => none
  guard f.unicode
  let (other, set) ← propertySet? name
  pure (.set (← f.closeSet (negated != other) set), rest)

/-- The set that a letter stands for, and whether it is the complement that is meant. -/
def letterSet? (f : Flags) (letter : Char) : Option (Bool × CharSet) :=
  let pick := fun (unicode ascii : CharSet) => if f.unicode then unicode else ascii
  match letter.toLower with
  | 'd' => some (letter.isUpper, pick decimalNumber (.ofRanges [(48, 57)]))
  | 's' => some (letter.isUpper, pick whiteSpace (.ofRanges [(9, 13), (32, 32)]))
  | 'w' => some (letter.isUpper, pick wordChars Assertion.asciiWordChars)
  | _ => none

/-- Reads the name of a test for words in braces behind its letter. Where no such name can start
there is none, and the brace is left. -/
def Flags.wordTest (f : Flags) (cs : List Char) : Option (WordTest × List Char) :=
  let isNameChar := fun (c : Char) => c.isAlpha || c == '-'
  match cs with
  | '\x7b' :: inner =>
    match f.skip inner with
    | [] => none
    | c :: inner =>
      if !isNameChar c then some (.boundary, cs)
      else
        match f.span isNameChar (c :: inner) with
        | (name, '\x7d' :: rest) =>
          match String.ofList name with
          | "start" => some (.start, rest)
          | "end" => some (.stop, rest)
          | "start-half" => some (.startHalf, rest)
          | "end-half" => some (.stopHalf, rest)
          | _ => none
        | _ => none
  | _ => some (.boundary, cs)

/-- The characters that mean something else unless they are escaped. -/
def metaChars : List Char :=
  ['\\', '.', '+', '*', '?', '(', ')', '|', '[', ']', '\x7b', '\x7d', '^', '$', '#', '&', '-', '~']

/-- The control characters that letters stand for. -/
def controlChars : List (Char × Char) :=
  [('a', '\x07'), ('f', '\x0c'), ('t', '\t'), ('n', '\n'), ('r', '\r'), ('v', '\x0b')]

/-- Reads what follows a backslash. -/
def Flags.escape (f : Flags) : List Char → Option (Atom × List Char)
  | [] => none
  | c :: cs =>
    if c = 'x' ∨ c = 'u' ∨ c = 'U' then f.hexEscape c cs
    else if c = 'p' ∨ c = 'P' then f.propertyEscape (c = 'P') cs
    else match letterSet? f c with
    | some (negated, set) =>
      (Flags.closeSet { f with ignoreCase := false } negated set).map fun s => (.set s, cs)
    | none =>
      if metaChars.contains c then some (.char c false, cs)
      else if c.val < 128 && !c.isAlphanum && c != '<' && c != '>' then some (.char c false, cs)
      else match controlChars.lookup c with
      | some d => some (.char d false, cs)
      | none =>
        match c with
        | 'A' => some (.assert .textStart, cs)
        | 'z' => some (.assert .textEnd, cs)
        | 'B' => some (.assert (.word f.unicode .interior), cs)
        | '<' => some (.assert (.word f.unicode .start), cs)
        | '>' => some (.assert (.word f.unicode .stop), cs)
        | 'b' => do
          let (test, rest) ← f.wordTest cs
          pure (.assert (.word f.unicode test), rest)
        | _ => none

end JavaLint.Regex
