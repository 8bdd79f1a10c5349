import JavaLint.Log.Filter

/-!
# What is told on the side

While it works a program tells what it does on the standard error stream: plain lines, and log events
that a filter may hold back. Parts of lines may be coloured.
-/

namespace JavaLint.Program

/-- What surrounds the program. -/
structure Environment where
  /-- Whether lines are coloured. -/
  coloured : Bool
  /-- The log filter that counts before that of the command line. -/
  logFilter : Option String
deriving DecidableEq, Repr, Inhabited

/-- A colour. -/
inductive Colour where
  | red
  | green
  | yellow
  | blue
deriving DecidableEq, Repr, Inhabited

namespace Colour

/-- The number of a colour in an escape sequence. -/
def code : Colour → Nat
  | red => 31
  | green => 32
  | yellow => 33
  | blue => 34

end Colour

/-- A text in a colour, if lines are coloured. -/
def Environment.paint (env : Environment) (c : Colour) (text : String) : String :=
  if env.coloured then s!"\x1b[{c.code}m{text}\x1b[0m" else text

/-- Something that is told. -/
inductive Note where
  | line (text : String)
  | event (e : Log.Event)
deriving DecidableEq, Repr, Inhabited

namespace Note

/-- What a filter leaves of a note. -/
def shown (f : Log.Filter) : Note → String
  | line text => text ++ "\n"
  | event e => if f.passes e then e.render else ""

/-- What a filter leaves of some notes. -/
def shownAll (f : Log.Filter) (notes : List Note) : String := String.join (notes.map (shown f))

end Note

/-- What is said of a failure that ends the program, with its reasons, the nearest first. The reasons
are numbered if there are several. -/
def failureText (failure : String) (reasons : List String) : String :=
  let several := 1 < reasons.length
  let indented := fun (i : Nat) (reason : String) =>
    let mark := if several then s!"    {i}: " else "    "
    let margin := if several then "       " else "    "
    "\n" ++ mark ++ ("\n" ++ margin).intercalate (reason.splitOn "\n")
  s!"Error: {failure}" ++ (if reasons.isEmpty then "" else "\n\nCaused by:") ++
    String.join (reasons.mapIdx indented) ++ "\n"

end JavaLint.Program
