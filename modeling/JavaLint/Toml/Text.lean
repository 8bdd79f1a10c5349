import JavaLint.Text.Search

/-!
# Texts of TOML

Texts stand in quotes. Between double quotes a backslash starts an escape, between single quotes it
does not. Three quotes in place of one allow ends of lines.
-/

namespace JavaLint.Toml

open JavaLint.Text

/-- Whether a character may stand for itself; most control characters may not. -/
def isPlain (c : Char) : Bool := c == '\t' || (32 ≤ c.val && c.val != 127)

/-- Whether a character is a blank within a line. -/
def isBlank (c : Char) : Bool := c == ' ' || c == '\t'

/-- What is behind an end of a line. -/
def behindNewline? : List Char → Option (List Char)
  | '\n' :: cs => some cs
  | '\r' :: '\n' :: cs => some cs
  | _ => none

/-- The value of a digit to the base sixteen. -/
def digit? (c : Char) : Option Nat :=
  if c.isDigit then some (c.toNat - 48)
  else if 'a' ≤ c ∧ c ≤ 'f' then some (c.toNat - 87)
  else if 'A' ≤ c ∧ c ≤ 'F' then some (c.toNat - 55)
  else none

/-- The character whose number is written in some digits to the base sixteen. -/
def codePoint? (count : Nat) (cs : List Char) : Option (Char × List Char) := do
  let digits ← (cs.take count).mapM digit?
  let n := digits.foldl (fun n d => 16 * n + d) 0
  if digits.length = count ∧ n.isValidChar then some (Char.ofNat n, cs.drop count) else none

/-- The character that an escape stands for, behind its backslash. -/
def escape? : List Char → Option (Char × List Char)
  | 'b' :: cs => some ('\x08', cs)
  | 't' :: cs => some ('\t', cs)
  | 'n' :: cs => some ('\n', cs)
  | 'f' :: cs => some ('\x0c', cs)
  | 'r' :: cs => some ('\r', cs)
  | 'e' :: cs => some ('\x1b', cs)
  | '"' :: cs => some ('"', cs)
  | '\\' :: cs => some ('\\', cs)
  | 'x' :: cs => codePoint? 2 cs
  | 'u' :: cs => codePoint? 4 cs
  | 'U' :: cs => codePoint? 8 cs
  | _ => none

/-- Skips blanks and ends of lines. -/
def skipSpace : List Char → List Char
  | [] => []
  | '\r' :: '\n' :: cs => skipSpace cs
  | c :: cs => if isBlank c || c == '\n' then skipSpace cs else c :: cs

/-- What is behind the quotes that end a text of several lines, and the quotes before them that belong
to it: two at most. -/
def closing? (quote : Char) (cs : List Char) : Option (List Char × List Char) :=
  let count := (cs.takeWhile (· == quote)).length
  if count < 3 then none
  else
    let extra := min count 5 - 3
    some (List.replicate extra quote, cs.drop (extra + 3))

/-- The content of a text of one line up to its quote. Each turn takes a character, so `fuel` need not
exceed their number. -/
def lineBody (quote : Char) : Nat → List Char → Option (List Char × List Char)
  | 0, _ => none
  | _, [] => none
  | fuel + 1, c :: cs =>
    if c = quote then some ([], cs)
    else if c = '\\' ∧ quote = '"' then do
      let (d, rest) ← escape? cs
      let (content, rest) ← lineBody quote fuel rest
      pure (d :: content, rest)
    else if isPlain c then (lineBody quote fuel cs).map fun (content, rest) => (c :: content, rest)
    else none

/-- The content of a text of several lines up to its quotes. A backslash at the end of a line joins the
line with the next text. -/
def blockBody (quote : Char) : Nat → List Char → Option (List Char × List Char)
  | 0, _ => none
  | _, [] => none
  | fuel + 1, c :: cs =>
    let onward := fun (d : List Char) rest =>
      (blockBody quote fuel rest).map fun (content, rest) => (d ++ content, rest)
    match closing? quote (c :: cs), behindNewline? (c :: cs) with
    | some done, _ => some done
    | _, some rest => onward ['\n'] rest
    | _, _ =>
      if c = '\\' ∧ quote = '"' then
        match behindNewline? (cs.dropWhile isBlank) with
        | some rest => onward [] (skipSpace rest)
        | none => do
          let (d, rest) ← escape? cs
          onward [d] rest
      else if isPlain c then onward [c] cs
      else none

/-- Reads a text of one line behind its quote. -/
def readLine? (quote : Char) (cs : List Char) : Option (String × List Char) :=
  (lineBody quote (cs.length + 1) cs).map fun (content, rest) => (String.ofList content, rest)

/-- Reads a text of one or several lines behind its first quote. The end of a line directly behind the
quotes is no part of it. -/
def readText? (quote : Char) (cs : List Char) : Option (String × List Char) :=
  match behind? [quote, quote] cs with
  | some cs =>
    let cs := (behindNewline? cs).getD cs
    (blockBody quote (cs.length + 1) cs).map fun (content, rest) => (String.ofList content, rest)
  | none => readLine? quote cs

end JavaLint.Toml
