import JavaLint.Files.Collect
import JavaLint.Program.Outcome
import JavaLint.Program.Report
import JavaLint.Program.Request
import JavaLint.Program.Setup

/-!
# Running the program

The program lists its rules, or checks the files that some paths stand for. Its outcome depends on
the words of its command line, on its environment and on the files alone.
-/

namespace JavaLint.Program

open JavaLint.CommandLine JavaLint.Files

/-- The extension of the files that are checked. -/
def sourceExtension : String := "java"

/-- The files that some paths stand for, each with its outcome. -/
def checkFiles (l : Linter) (fs : FileSystem) (paths : List String) : List CheckedFile :=
  (fs.collectAll sourceExtension paths).map fun path => ⟨path, l.checkFile fs path⟩

/-- What is told of the rules of a linter. -/
def rulesNote (env : Environment) (l : Linter) : Note :=
  if l.isEmpty then .line (env.paint .yellow "Warning: No rules configured")
  else .line (s!"Checking with {l.ruleNames.length} rule(s): " ++ ", ".intercalate l.ruleNames)

/-- What is told of the files that some paths stand for. -/
def collectNotes (fs : FileSystem) (paths : List String) (count : Nat) : List Note :=
  ((paths.filter (fs.passesOver sourceExtension)).map fun path =>
    .event ⟨.debug, mainPart, s!"skipping non-java path path={path}"⟩) ++
    [.event ⟨.info, mainPart, s!"collected java files files={count}"⟩]

/-- What is told of a file that has been checked. -/
def checkedNotes (f : CheckedFile) : List Note :=
  match f.outcome with
  | .error _ => []
  | .ok r =>
    (if r.hasSyntaxErrors then
      [.event ⟨.warn, linterPart, s!"syntax errors, results may be incomplete path={f.path}"⟩]
    else []) ++
      [.event ⟨.debug, linterPart, s!"checked path={f.path} violations={r.messages.length}"⟩]

/-- The outcome of checking some paths. -/
def check (env : Environment) (fs : FileSystem) (filter : Log.Filter) (paths : List String)
    (config : Option String) : Outcome :=
  let setup := setupNotes env fs config
  match linterFor fs config with
  | .error f =>
    .failed 1 (Note.shownAll filter setup ++ failureText "Failed to load configuration" f.causes)
  | .ok linter =>
    let files := checkFiles linter fs paths
    let summary := Summary.of files
    let notes := setup ++ [rulesNote env linter] ++ collectNotes fs paths files.length ++
      files.flatMap checkedNotes ++ files.flatMap (faultNotes env) ++ failedNotes env summary
    ⟨summary.exit, reportText env files, Note.shownAll filter notes⟩

/-- The filter for log events: that of the environment if it is well written, else that of the command
line. -/
def filterFor (env : Environment) (logLevel : String) : Except Log.FilterFault Log.Filter :=
  match env.logFilter.map Log.Filter.ofText with
  | some (.ok f) => .ok f
  | _ => Log.Filter.ofText logLevel

/-- The outcome of a run. -/
def run (env : Environment) (fs : FileSystem) (words : List String) : Outcome :=
  match Request.ofWords words with
  | .error (.help l) => .printed l.helpText
  | .error (.nothing l) => .failed 2 l.helpText
  | .error (.refused r) => .failed 2 r.render
  | .ok request =>
    match filterFor env request.logLevel with
    | .error f => .failed 1 (failureText s!"Invalid log level '{request.logLevel}'" f.causes)
    | .ok filter =>
      match request.task with
      | .rules => .printed (String.join (Registry.builtin.names.map (· ++ "\n")))
      | .check paths config => check env fs filter paths config

/-- The paths that a run looks at, apart from the one that an overlay holds. -/
def pathsOf (words : List String) : List String :=
  match Request.ofWords words with
  | .ok ⟨_, .check paths config⟩ =>
    let places := Config.Loader.overlayPlaces ++ Config.Loader.checkstylePlaces
    places.map (Path.join (loaderFor config).base) ++ config.toList ++ paths
  | _ => []

/-- The path that an overlay holds, if there is one. -/
def referenceOf? (fs : FileSystem) : Option String :=
  match Config.Loader.standard.readOverlay fs with
  | .ok (some (_, o)) => o.checkstyle.map (Path.join Config.Loader.standard.base)
  | _ => none

end JavaLint.Program
