import JavaLint.Config.Module
import JavaLint.Regex.Basic
import JavaLint.Text.Decimal
import JavaLint.Text.Lowercase

/-!
# Comments that silence rules

A filter tells which comments start a stretch in which a rule is silent, which end it, and which rule
is meant.
-/

namespace JavaLint

/-- The rules that are meant. Rules are told apart by their names in small letters; a star means all
rules. -/
inductive RuleKey where
  | every
  | named (lower : String)
deriving DecidableEq, Repr, Inhabited

namespace RuleKey

/-- The rules that a name means. -/
def ofName (name : String) : RuleKey :=
  let lower := Text.lower name
  if lower = "*" then every else named lower

theorem ofName_eq_every_iff {name : String} : ofName name = every ↔ Text.lower name = "*" := by
  simp only [ofName]
  split <;> simp_all

theorem ofName_eq_ofName_iff {a b : String} :
    ofName a = ofName b ↔ Text.lower a = Text.lower b := by
  simp only [ofName]
  split <;> split <;> simp_all [eq_comm]

theorem ofName_eq_named_iff {name lower : String} :
    ofName name = named lower ↔ Text.lower name = lower ∧ lower ≠ "*" := by
  simp only [ofName]
  split <;> simp_all [eq_comm]

end RuleKey

/-- A filter for comments. -/
structure CommentFilter where
  /-- Matches the comments that start a silent stretch. -/
  off : Regex
  /-- Matches the comments that end one. -/
  on : Regex
  /-- The group of a match that holds the name of the rule; with zero all rules are meant. -/
  group : Nat
deriving Inhabited

namespace CommentFilter

/-- The group that a format asks for: its number behind a dollar sign. -/
def groupOf (format : Option String) : Nat :=
  match format.map String.toList with
  | some ('$' :: digits) => (Text.Decimal.read digits).toOption.getD 0
  | _ => 0

/-- The filter for two written expressions and a format for the rule. -/
def ofFormats? (off on : String) (check : Option String) : Option CommentFilter := do
  pure ⟨← Regex.ofText? off, ← Regex.ofText? on, groupOf check⟩

/-- The filter that every linter has: `CHECKSTYLE:OFF:` and `CHECKSTYLE:ON:`, each with the name of a
rule. -/
def standard : CommentFilter :=
  (ofFormats? "CHECKSTYLE:OFF:(\\w+)" "CHECKSTYLE:ON:(\\w+)" (some "$1")).getD default

/-- The name of the modules that configure filters. -/
def moduleName : String := "SuppressWithPlainTextCommentFilter"

/-- The filter that a module configures. -/
def ofModule? (m : Config.Module) : Option CommentFilter :=
  ofFormats? ((m.property? "offCommentFormat").getD "// CHECKSTYLE:OFF")
    ((m.property? "onCommentFormat").getD "// CHECKSTYLE:ON") (m.property? "checkFormat")

/-- The rules that a match means. -/
def keyOf (f : CommentFilter) (m : Regex.Match) : RuleKey :=
  if f.group = 0 then .every
  else match m.group? f.group with
    | some name => .ofName name
    | none => .every

/-- The rules for which a comment starts a silent stretch. -/
def offKey? (f : CommentFilter) (comment : String) : Option RuleKey :=
  (f.off.find? comment).map f.keyOf

/-- The rules for which a comment ends a silent stretch. -/
def onKey? (f : CommentFilter) (comment : String) : Option RuleKey :=
  (f.on.find? comment).map f.keyOf

end CommentFilter

end JavaLint
