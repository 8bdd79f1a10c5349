import JavaLint.Config.Loader
import JavaLint.Lint.Linter
import JavaLint.Program.Note
import JavaLint.Text.Quoted

/-!
# Setting up the linter

The linter that files are checked with: that of the configuration which is found, or the standard one
if there is none.
-/

namespace JavaLint.Program

open JavaLint.Config JavaLint.Files JavaLint.Text

/-- Where the configuration is looked for; the path of the checkstyle configuration may be given. -/
def loaderFor (config : Option String) : Loader := { Loader.standard with checkstyle := config }

/-- The linter that files are checked with. -/
def linterFor (fs : FileSystem) (config : Option String) : Except LoadFault Linter :=
  match (loaderFor config).load fs with
  | .ok merged => .ok (.ofConfig merged .builtin)
  | .error .noConfiguration => .ok .standard
  | .error f => .error f

/-! ## What is told of it -/

/-- The part of the program that loads configurations. -/
def loaderPart : String := "modorder_checkstyle::merged_config"

/-- The part of the program that reads checkstyle configurations. -/
def readerPart : String := "modorder_checkstyle"

/-- The part of the program that checks texts. -/
def linterPart : String := "modorder_linter::linter"

/-- The part of the program that deals with the command line. -/
def mainPart : String := "modorder"

/-- What is told of a rule that runs. -/
def ruleNote (name : String) (severity : Severity) : Note :=
  .event ⟨.debug, linterPart, s!"enabled rule rule={quoted name} severity={severity.name}"⟩

/-- What is told of a configured rule. -/
def configuredNotes (registry : Registry) (r : ConfiguredRule) : List Note :=
  match Linter.activeRule? registry r with
  | none => [.event ⟨.warn, linterPart, s!"unknown rule, skipping rule={r.name}"⟩]
  | some active =>
    let refused := r.severity.filter fun t => (Severity.parse? t).isNone
    (refused.toList.map fun t => .event ⟨.warn, linterPart,
      s!"{Severity.invalidMessage t}, using error rule={r.name}"⟩) ++
      [ruleNote active.rule.name active.severity]

/-- What is told of a module that configures a filter. -/
def filterNotes (m : Module) : List Note :=
  if (CommentFilter.ofModule? m).isSome then []
  else [.event ⟨.warn, linterPart, s!"invalid {CommentFilter.moduleName} pattern, skipping"⟩]

/-- What is told of the linter of a configuration. -/
def mergedNotes (merged : Merged) : List Note :=
  merged.enabledRules.flatMap (configuredNotes .builtin) ++
    (merged.fileModulesNamed CommentFilter.moduleName).flatMap filterNotes

/-- What is told of an overlay. -/
def overlayNote (path : String) : Note :=
  .event ⟨.info, loaderPart, s!"loaded modorder.toml path={path}"⟩

/-- What is told of a checkstyle configuration. -/
def checkstyleNotes (path : String) (c : Checkstyle) : List Note := [
  .event ⟨.debug, readerPart,
    s!"parsed checkstyle config modules={c.root.modules.length} rules={c.rules.length}"⟩,
  .event ⟨.info, loaderPart, s!"loaded checkstyle config path={path}"⟩,
  .line s!"Loaded config from: {path}"]

/-- What is told of the linter that files are checked with. -/
def setupNotes (env : Environment) (fs : FileSystem) (config : Option String) : List Note :=
  match (loaderFor config).readOverlay fs with
  | .error _ => []
  | .ok overlay =>
    (overlay.toList.map fun o => overlayNote o.1) ++
      match (loaderFor config).readCheckstyle fs (overlay.map (·.2)) with
      | .ok (path, c) => checkstyleNotes path c ++ mergedNotes (.of c (overlay.map (·.2)))
      | .error .noConfiguration => [
          .line (env.paint .yellow "No checkstyle.xml found, using default ModifierOrder rule"),
          ruleNote Modifier.ruleName .standard]
      | .error _ => []

end JavaLint.Program
