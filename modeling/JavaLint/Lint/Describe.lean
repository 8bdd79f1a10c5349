import JavaLint.Lint.Linter
import JavaLint.Text.Quoted

/-!
# Short descriptions

How rules and linters are described in one line.
-/

namespace JavaLint

open JavaLint.Text

/-- The kinds of nodes that a rule asks for. -/
def Rule.describeKinds (r : Rule) : String :=
  "[" ++ ", ".intercalate (r.kinds.map NodeKind.render) ++ "]"

/-- The names of the rules of a linter and the number of its filters. -/
def Linter.describe (l : Linter) : String :=
  let names := ", ".intercalate (l.ruleNames.map quoted)
  "Linter \x7b rules: [" ++ names ++ "], filters: " ++ toString l.filters.length ++ " \x7d"

end JavaLint
