import JavaLint.CommandLine.Reading

/-!
# What the program is asked for

The command line of the linter: its commands, their flags, and what they ask for.
-/

namespace JavaLint.Program

open JavaLint.CommandLine

/-- The flag for the log filter. It may stand before the name of the command and behind it. -/
def logLevel : Flag where
  short := none
  long := "log-level"
  value := some ⟨"LOG_LEVEL", .text, some "warn"⟩
  about := "Log level when RUST_LOG is not set"

/-- The flag for the path of the checkstyle configuration. -/
def config : Flag where
  short := some 'c'
  long := "config"
  value := some ⟨"CONFIG", .path, none⟩
  about := "Path to checkstyle.xml config"

/-- The flag for the number of files that are checked at a time. It makes no difference to the
outcome. -/
def threads : Flag where
  short := some 'j'
  long := "threads"
  value := some ⟨"THREADS", .number, none⟩
  about := "Number of worker threads (defaults to one per core)"

/-- The paths to check. -/
def paths : Operand := ⟨"PATHS", true, "Paths to check"⟩

/-- What the command `check` is about. -/
def aboutCheck : String := "Check files for violations"

/-- What the command `rules` is about. -/
def aboutRules : String := "List the built-in rules"

/-- What the command `help` is about. -/
def aboutHelp : String := "Print this message or the help of the given subcommand(s)"

/-- The command line. -/
def grammar : Grammar where
  top := {
    title := "modorder"
    about := "Checks that Java modifiers follow the order suggested by the JLS"
    flags := [logLevel, .help]
    operand := none
    commands := [("check", aboutCheck), ("rules", aboutRules), (Grammar.helpName, aboutHelp)] }
  below := [
    ("check", ⟨"modorder check", aboutCheck, [config, logLevel, threads, .help], some paths, []⟩),
    ("rules", ⟨"modorder rules", aboutRules, [logLevel, .help], none, []⟩),
    (Grammar.helpName, ⟨"modorder help", aboutHelp, [],
      some ⟨"COMMAND", false, "Print help for the subcommand(s)"⟩, []⟩)]

/-- What there is to do. -/
inductive Task where
  /-- Check some paths, with a configuration whose path may be given. -/
  | check (paths : List String) (config : Option String)
  /-- List the rules. -/
  | rules
deriving DecidableEq, Repr, Inhabited

/-- What a command line asks for. -/
structure Request where
  /-- The log filter. -/
  logLevel : String
  task : Task
deriving DecidableEq, Repr, Inhabited

namespace Request

/-- What a command line asks for. A log filter behind the name of the command counts before one in
front of it. -/
def ofWords (words : List String) : Except Stop Request := do
  let (top, name, below) ← grammar.read words
  let valueOf := fun (p : Progress) (f : Flag) => (p.valuesOf (.flag f)).head?
  let standard := (Program.logLevel.value.bind (·.standard)).getD ""
  let level := ((valueOf below Program.logLevel).or (valueOf top Program.logLevel)).getD standard
  let task := if name = "check" then
      .check (below.valuesOf (.operand Program.paths)) (valueOf below Program.config)
    else .rules
  pure ⟨level, task⟩

end Request

end JavaLint.Program
