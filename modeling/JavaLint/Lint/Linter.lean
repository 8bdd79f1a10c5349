import JavaLint.Config.Merged
import JavaLint.Java.Parse
import JavaLint.Lint.Registry
import JavaLint.Lint.Severity
import JavaLint.Lint.Suppression

/-!
# The linter

A linter shows every node of a syntax tree to each of its rules that asks for nodes of that kind. What
the rules find is reported where they are not silent, in the order of positions and, at one position,
in the order of the names of the rules.
-/

namespace JavaLint

open JavaLint.Text

/-- A report: what a rule has found, and where that is in lines and columns. -/
structure Message where
  /-- The name of the rule. -/
  rule : String
  severity : Severity
  position : Position
  diagnostic : Diagnostic
deriving DecidableEq, Repr, Inhabited

namespace Message

/-- Reports are ordered by their positions, then by the names of their rules. -/
def le (a b : Message) : Bool :=
  ((compare a.position b.position).then (compare a.rule b.rule)).isLE

end Message

/-- The outcome for a source. -/
structure LintResult where
  /-- The reports, in order. -/
  messages : List Message
  /-- Whether the source is no program, so that reports may be lacking. -/
  hasSyntaxErrors : Bool
deriving DecidableEq, Repr, Inhabited

namespace LintResult

/-- The number of reports that are as grave as a severity. -/
def countAtLeast (r : LintResult) (s : Severity) : Nat :=
  r.messages.countP fun m => s.rank ≤ m.severity.rank

/-- The number of reports at a severity. -/
def countAt (r : LintResult) (s : Severity) : Nat := r.messages.countP fun m => m.severity == s

end LintResult

/-- A rule of a linter with its severity. -/
structure ActiveRule where
  rule : Rule
  severity : Severity

/-- A linter. -/
structure Linter where
  /-- The rules, in the order in which they were added. -/
  rules : List ActiveRule
  filters : List CommentFilter

namespace Linter

/-- The linter without rules. It has the standard filter. -/
def empty : Linter := ⟨[], [.standard]⟩

/-- Adds a rule. -/
def addRule (l : Linter) (rule : Rule) (severity : Severity) : Linter :=
  { l with rules := l.rules ++ [⟨rule, severity⟩] }

/-- Adds a filter. -/
def addFilter (l : Linter) (f : CommentFilter) : Linter := { l with filters := l.filters ++ [f] }

/-- The linter with the rules of this library. -/
def standard : Linter := empty.addRule Modifier.rule .standard

/-- The severity that a configured rule runs at. What is no severity counts as none. -/
def severityOf (r : Config.ConfiguredRule) : Severity :=
  (r.severity.bind Severity.parse?).getD .standard

/-- The rule of a linter that a configured rule asks for, if its name is known. -/
def activeRule? (registry : Registry) (r : Config.ConfiguredRule) : Option ActiveRule :=
  (registry.create? r.name r.properties).map fun rule => ⟨rule, severityOf r⟩

/-- The linter of a configuration. Rules with unknown names and filters with faulty expressions are
left out. -/
def ofConfig (config : Config.Merged) (registry : Registry) : Linter where
  rules := config.enabledRules.filterMap (activeRule? registry)
  filters := .standard ::
    (config.fileModulesNamed CommentFilter.moduleName).filterMap CommentFilter.ofModule?

/-- The names of the rules. -/
def ruleNames (l : Linter) : List String := l.rules.map (·.rule.name)

/-- Whether there are no rules. -/
def isEmpty (l : Linter) : Bool := l.rules.isEmpty

/-- The rules that run. -/
def running (l : Linter) : List ActiveRule := l.rules.filter fun a => a.severity != .ignore

/-- What a rule reports of a node. -/
def reports (lines : Lines) (silent : Suppressions) (node : Cursor) (a : ActiveRule) :
    Except Fault (List Message) := do
  let found ← a.rule.check lines node
  (found.filter fun d => !silent.silences a.rule.name d.span.start).mapM fun d => do
    pure ⟨a.rule.name, a.severity, ← lines.position d.span.start, d⟩

/-- What the rules report of a node, one after the other. -/
def reportsAt (l : Linter) (lines : Lines) (silent : Suppressions) (node : Cursor) :
    Except Fault (List Message) := do
  let wanting := l.running.filter fun a => a.rule.wants node.kind
  pure (← wanting.mapM (reports lines silent node)).flatten

/-- Where rules are silent, by comments and by annotations. -/
def suppressions (l : Linter) (source : String) (tree : Tree) : Except Fault Suppressions := do
  let byComments ← Suppressions.ofFilters l.filters source tree
  pure (byComments ++ (← Suppressions.ofAnnotations source tree))

/-- What the rules report of a source with its syntax tree. -/
def checkTree (l : Linter) (source : String) (tree : Tree) : Except Fault (List Message) := do
  let lines ← Lines.ofText source
  let silent ← l.suppressions source tree
  let messages ← tree.cursors.mapM (l.reportsAt lines silent)
  pure (messages.flatten.mergeSort Message.le)

/-- The outcome for a source that has been parsed. -/
def checkParsed (l : Linter) (source : String) (parsed : Java.Parsed) : Except Fault LintResult := do
  pure ⟨← l.checkTree source parsed.tree, parsed.hasErrors⟩

/-- The outcome for a source; there is none if the parser gives up. -/
def check (l : Linter) (source : String) : Except Fault (Option LintResult) :=
  match Java.parse source with
  | none => pure none
  | some parsed => some <$> l.checkParsed source parsed

end Linter

end JavaLint
