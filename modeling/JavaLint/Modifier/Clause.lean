import JavaLint.Lint.Rule
import JavaLint.Modifier.Order

/-!
# Clauses of modifiers

The keywords of a clause are its children other than annotations and comments. The rule of this
module reports the first keyword of a clause that is out of order.
-/

namespace JavaLint.Modifier

open JavaLint.Text

/-- A keyword of a clause. -/
structure Token where
  keyword : String
  position : Position
  span : Span
deriving DecidableEq, Repr, Inhabited

/-- The keywords of a clause, in the order of the text. -/
def tokens (lines : Lines) (clause : Tree) : Except Fault (List Token) :=
  let kept := clause.children.filter fun c =>
    !(c.kind.isAnnotation || c.kind.isComment || c.isFlaw)
  kept.mapM fun c => do
    let span ← c.span
    pure ⟨← span.slice lines.text, ← lines.position span.start, span⟩

/-- What is said of a keyword out of order. -/
def message (keyword : String) : String :=
  s!"'{keyword}' modifier out of order with the JLS suggestions"

/-- The diagnostic for a keyword out of order. -/
def diagnostic (t : Token) : Diagnostic where
  code := "ModifierOutOfOrder"
  messageKey := "mod.order"
  body := message t.keyword
  span := t.span

/-- The name of the rule. -/
def ruleName : String := "ModifierOrder"

/-- Reports the first keyword of a clause that is out of order. -/
def rule : Rule where
  name := ruleName
  kinds := [.modifiers]
  check lines node := do
    if node.kind.isModifiers then
      let found := firstMisplaced? Token.keyword (← tokens lines node.focus)
      pure (found.map diagnostic).toList
    else pure []

end JavaLint.Modifier
