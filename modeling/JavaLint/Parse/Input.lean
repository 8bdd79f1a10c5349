/-!
# The text of a parse

Places in a text are counted in characters while it is parsed. The tables here give for each place
the rest of the text, the number of bytes before it and the number of line breaks before it.
-/

namespace JavaLint.Parse

/-- A text with what a parser asks of its places. -/
structure Input where
  /-- The rest of the text after each place. -/
  rests : Array (List Char)
  /-- The number of bytes before each place. -/
  bytes : Array Nat
  /-- The number of line feeds before each place. -/
  rows : Array Nat
deriving Inhabited

namespace Input

/-- All ends of a list, the whole first. -/
def tails : List Char → List (List Char)
  | [] => [[]]
  | c :: cs => (c :: cs) :: tails cs

/-- The tables of a text. -/
def ofString (text : String) : Input :=
  let cs := text.toList
  { rests := (tails cs).toArray
    bytes := cs.foldl (fun acc c => acc.push (acc.back?.getD 0 + c.utf8Size)) #[0]
    rows := cs.foldl (fun acc c => acc.push (acc.back?.getD 0 + if c = '\n' then 1 else 0)) #[0] }

/-- The number of characters. -/
def length (i : Input) : Nat := i.rests.size - 1

/-- The characters from a place on. -/
def rest (i : Input) (place : Nat) : List Char := (i.rests[place]?).getD []

/-- The number of bytes before a place. -/
def byteAt (i : Input) (place : Nat) : Nat := (i.bytes[place]?).getD 0

/-- The number of line feeds before a place. -/
def rowAt (i : Input) (place : Nat) : Nat := (i.rows[place]?).getD 0

/-- The number of bytes between two places. -/
def bytesBetween (i : Input) (a b : Nat) : Nat := i.byteAt b - i.byteAt a

/-- The number of line feeds between two places. -/
def rowsBetween (i : Input) (a b : Nat) : Nat := i.rowAt b - i.rowAt a

/-- The text between two places. -/
def slice (i : Input) (a b : Nat) : String := String.ofList ((i.rest a).take (b - a))

end Input

end JavaLint.Parse
