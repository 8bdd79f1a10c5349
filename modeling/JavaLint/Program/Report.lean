import JavaLint.Lint.File
import JavaLint.Program.Note

/-!
# Reports

What is printed of the files that have been checked: the reports of each file, what is said of those
without an outcome, and the totals.
-/

namespace JavaLint.Program

/-- A file with its outcome. -/
structure CheckedFile where
  path : String
  outcome : Except CheckFault LintResult

/-- The totals of several files. -/
structure Summary where
  /-- The number of reports. -/
  violations : Nat
  /-- The number of reports at the severity `error`. -/
  errors : Nat
  /-- The number of reports at the severity `warning`. -/
  warnings : Nat
  /-- The number of files without an outcome. -/
  failed : Nat
deriving DecidableEq, Repr, Inhabited

namespace Summary

/-- The totals of no files. -/
def none : Summary := ⟨0, 0, 0, 0⟩

/-- Adds a file. -/
def add (s : Summary) (f : CheckedFile) : Summary :=
  match f.outcome with
  | .ok r => { s with
      violations := s.violations + r.messages.length
      errors := s.errors + r.countAt .error
      warnings := s.warnings + r.countAt .warning }
  | .error _ => { s with failed := s.failed + 1 }

/-- The totals of some files. -/
def of (files : List CheckedFile) : Summary := files.foldl add none

/-- The exit status: one if there are reports at the severity `error`. -/
def exit (s : Summary) : Nat := if 0 < s.errors then 1 else 0

end Summary

/-- A text in the colour of a severity. -/
def Environment.paintSeverity (env : Environment) (s : Severity) (text : String) : String :=
  match s with
  | .error => env.paint .red text
  | .warning => env.paint .yellow text
  | .info => env.paint .blue text
  | .ignore => text

/-- The line of a report. -/
def messageLine (env : Environment) (path : String) (m : Message) : String :=
  let tag := env.paintSeverity m.severity s!"[{m.rule}]"
  s!"{path}:{m.position.render}: {tag} {m.diagnostic.body}"

/-- The lines of the reports of a file. -/
def messageLines (env : Environment) (f : CheckedFile) : List String :=
  match f.outcome with
  | .ok r => r.messages.map (messageLine env f.path)
  | .error _ => []

/-- What is said of a file without an outcome. -/
def faultNotes (env : Environment) (f : CheckedFile) : List Note :=
  match f.outcome with
  | .ok _ => []
  | .error e => [.line (env.paint .red "error" ++ s!": {e.message}")]

/-- What is said of all files without an outcome. -/
def failedNotes (env : Environment) (s : Summary) : List Note :=
  if 0 < s.failed then
    [.line (env.paint .yellow (toString s.failed) ++ " file(s) could not be checked")]
  else []

/-- The line of the totals. -/
def totalLine (env : Environment) (s : Summary) (files : Nat) : String :=
  if 0 < s.violations then
    let errors := env.paint .red (toString s.errors)
    let warnings := env.paint .yellow (toString s.warnings)
    s!"\nFound {s.violations} violation(s) ({errors} error(s), {warnings} warning(s)) " ++
      s!"in {files} file(s)"
  else env.paint .green "No violations found"

/-- What is printed of the files that have been checked. -/
def reportText (env : Environment) (files : List CheckedFile) : String :=
  let lines := files.flatMap (messageLines env) ++ [totalLine env (.of files) files.length]
  String.join (lines.map (· ++ "\n"))

end JavaLint.Program
