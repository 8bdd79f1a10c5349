import JavaLint.Text.Decimal

/-!
# Levels of a command line

A command line has levels: that of the program, and behind the name of a command that of the command.
A level tells which flags may stand there, whether other words may, and which commands.
-/

namespace JavaLint.CommandLine

open JavaLint.Text

/-- What a value has to be. -/
inductive ValueKind where
  /-- Any text. -/
  | text
  /-- Any text that is not empty. -/
  | path
  /-- A number. -/
  | number
deriving DecidableEq, Repr, Inhabited

/-- Why a value is refused. -/
inductive ValueFault where
  /-- An empty text is as good as no value. -/
  | absent
  | unfit (reason : String)
deriving DecidableEq, Repr, Inhabited

/-- Why a value of a kind is refused, if it is. -/
def ValueKind.faultOf? (kind : ValueKind) (value : String) : Option ValueFault :=
  match kind with
  | .text => none
  | .path => if value = "" then some .absent else none
  | .number =>
    match Decimal.read value.toList with
    | .ok _ => none
    | .error e => some (.unfit e.message)

/-- The value that a flag takes. -/
structure FlagValue where
  /-- How the value is called. -/
  name : String
  kind : ValueKind
  /-- The value that counts when the flag is not given. -/
  standard : Option String
deriving DecidableEq, Repr, Inhabited

/-- A flag. -/
structure Flag where
  short : Option Char
  long : String
  /-- The value; a flag without one asks for help. -/
  value : Option FlagValue
  about : String
deriving DecidableEq, Repr, Inhabited

namespace Flag

/-- The flag that asks for help. -/
def help : Flag := ⟨some 'h', "help", none, "Print help"⟩

/-- A flag as it is shown to people. -/
def shown (f : Flag) : String :=
  match f.value with
  | some v => s!"--{f.long} <{v.name}>"
  | none => s!"--{f.long}"

end Flag

/-- The words of a level that are neither flags nor commands. -/
structure Operand where
  /-- How one of them is called. -/
  name : String
  /-- Whether there has to be one. -/
  demanded : Bool
  about : String
deriving DecidableEq, Repr, Inhabited

/-- The words of a level as they are shown to people. -/
def Operand.shown (o : Operand) : String :=
  if o.demanded then s!"<{o.name}>..." else s!"[{o.name}]..."

/-- A level of a command line. -/
structure Level where
  /-- The words that lead to the level. -/
  title : String
  about : String
  /-- The flags, in the order in which help lists them. -/
  flags : List Flag
  operand : Option Operand
  /-- The names of the commands, of which one has to follow, and what they are about. -/
  commands : List (String × String)
deriving DecidableEq, Repr, Inhabited

/-- A command line: the level of the program, and the levels of its commands by their names. -/
structure Grammar where
  top : Level
  below : List (String × Level)
deriving Repr, Inhabited

end JavaLint.CommandLine
