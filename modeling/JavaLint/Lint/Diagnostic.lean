import JavaLint.Text.Span

/-!
# Diagnostics

What a rule has found, and where.
-/

namespace JavaLint

open JavaLint.Text

/-- A finding of a rule. -/
structure Diagnostic where
  /-- The name of the sort of finding. -/
  code : String
  /-- The key of its message. -/
  messageKey : String
  /-- The message. -/
  body : String
  /-- Where it was found. -/
  span : Span
deriving DecidableEq, Repr, Inhabited

end JavaLint
