import JavaLint.Files.Tree
import JavaLint.Lint.Linter

/-!
# Checking files

A file is read and its text checked. Either can fail.
-/

namespace JavaLint

open JavaLint.Files JavaLint.Text

/-- Why there is no outcome for a file. -/
inductive CheckFault where
  /-- The file cannot be read. -/
  | unreadable (path : String) (fault : ReadFault)
  /-- The parser gives up. -/
  | unparsed
  /-- A place in the text does not fit into an offset. -/
  | oversized (fault : Fault)
deriving DecidableEq, Repr, Inhabited

namespace CheckFault

/-- What is said of a fault. -/
def message : CheckFault → String
  | unreadable path e => s!"Failed to read {path}: {e.message}"
  | unparsed => "Failed to parse source"
  | oversized _ => "Failed to count places in source"

end CheckFault

namespace Linter

/-- The outcome for a text. -/
def checkText (l : Linter) (source : String) : Except CheckFault LintResult :=
  match l.check source with
  | .ok (some r) => .ok r
  | .ok none => .error .unparsed
  | .error e => .error (.oversized e)

/-- The outcome for the file at a path. -/
def checkFile (l : Linter) (fs : FileSystem) (path : String) : Except CheckFault LintResult :=
  match fs.readText path with
  | .error e => .error (.unreadable path e)
  | .ok source => l.checkText source

end Linter

end JavaLint
