/-!
# Outcomes of programs

What is left of the run of a program: the texts on its two streams and its exit status.
-/

namespace JavaLint.Program

/-- The outcome of a run. -/
structure Outcome where
  /-- The exit status; zero means that all went well. -/
  exit : Nat
  /-- What stands on the standard output. -/
  output : String
  /-- What stands on the standard error stream. -/
  errors : String
deriving DecidableEq, Repr, Inhabited

namespace Outcome

/-- A run that only reports a failure. -/
def failed (exit : Nat) (errors : String) : Outcome := ⟨exit, "", errors⟩

/-- A run that only prints something. -/
def printed (output : String) : Outcome := ⟨0, output, ""⟩

end Outcome

end JavaLint.Program
