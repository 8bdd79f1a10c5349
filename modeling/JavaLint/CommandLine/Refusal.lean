import JavaLint.CommandLine.Usage

/-!
# Refused command lines

What is wrong with a command line, and what is said about it.
-/

namespace JavaLint.CommandLine

/-- What is wrong with a command line. -/
inductive Complaint where
  /-- A word has no place. The tips say what may have been meant. -/
  | unexpected (word : String) (tips : List String)
  /-- A word is no name of a command. Similar names are proposed. -/
  | unknownCommand (word : String) (similar : List String)
  /-- A value lacks. -/
  | valueLacking (shown : String)
  /-- A value does not fit. -/
  | valueUnfit (value shown reason : String)
  /-- A flag without a value is given one. -/
  | valueUnneeded (value shown : String)
  /-- A flag is given a second time. -/
  | repeated (shown : String)
  /-- Other words lack. -/
  | operandLacking (shown : String)
  /-- A command lacks. -/
  | commandLacking (title : String) (names : List String)
deriving DecidableEq, Repr, Inhabited

namespace Complaint

/-- The first lines about a complaint. -/
def headline : Complaint → String
  | unexpected word _ => s!"unexpected argument '{word}' found"
  | unknownCommand word _ => s!"unrecognized subcommand '{word}'"
  | valueLacking shown => s!"a value is required for '{shown}' but none was supplied"
  | valueUnfit value shown reason => s!"invalid value '{value}' for '{shown}': {reason}"
  | valueUnneeded value shown =>
    s!"unexpected value '{value}' for '{shown}' found; no more were expected"
  | repeated shown => s!"the argument '{shown}' cannot be used multiple times"
  | operandLacking shown => s!"the following required arguments were not provided:\n  {shown}"
  | commandLacking title names =>
    s!"'{title}' requires a subcommand but one was not provided\n  [subcommands: " ++
      ", ".intercalate names ++ "]"

/-- What may have been meant. -/
def tips : Complaint → List String
  | unexpected _ tips => tips
  | unknownCommand _ [] => []
  | unknownCommand _ [name] => [s!"a similar subcommand exists: '{name}'"]
  | unknownCommand _ names =>
    ["some similar subcommands exist: " ++ ", ".intercalate (names.map fun n => s!"'{n}'")]
  | _ => []

end Complaint

/-- A complaint with what is said about it. -/
structure Refusal where
  complaint : Complaint
  /-- The line that tells how the level is used. -/
  usage : Option String
  /-- Whether the level has a flag that asks for help. -/
  hasHelp : Bool
deriving DecidableEq, Repr, Inhabited

namespace Refusal

/-- The refusal of a complaint at a level, which may tell how the level is used. -/
def of (l : Level) (complaint : Complaint) (usage : Option String) : Refusal :=
  ⟨complaint, usage, l.flags.any fun f => f.value.isNone⟩

/-- All that is said of a refused command line. -/
def render (r : Refusal) : String :=
  let tips := r.complaint.tips
  "error: " ++ r.complaint.headline ++ (if tips.isEmpty then "" else "\n") ++
    String.join (tips.map fun t => "\n  tip: " ++ t) ++
    ((r.usage.map fun u => "\n\n" ++ u).getD "") ++
    (if r.hasHelp then "\n\nFor more information, try '--help'.\n" else "\n")

end Refusal

/-- Why a command line asks for nothing to be done. -/
inductive Stop where
  /-- It asks for the help of a level. -/
  | help (level : Level)
  /-- It is empty, and the help of a level is told instead. -/
  | nothing (level : Level)
  | refused (refusal : Refusal)
deriving DecidableEq, Repr, Inhabited

end JavaLint.CommandLine
