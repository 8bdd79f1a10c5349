import JavaLint.Files.Tree
import JavaLint.Java.Parse
import JavaLint.Program.Outcome
import JavaLint.Tree.Outline

/-!
# Printing outlines

The second program prints the outline of the syntax tree of one file.
-/

namespace JavaLint.Program

open JavaLint.Files

/-- The name of the program that prints outlines. -/
def outlineName : String := "dump_java_ast"

/-- The outcome for some arguments, of which the first is the path of the file. -/
def outline (fs : FileSystem) : List String → Outcome
  | [] => .failed 1 s!"usage: {outlineName} <File.java>\n"
  | path :: _ =>
    match fs.readText path with
    | .error e => .failed 1 s!"{path}: {e.message}\n"
    | .ok source =>
      match Java.parse source with
      | none => .failed 1 s!"{path}: failed to parse\n"
      | some parsed => .printed (Outline.render source parsed.tree)

end JavaLint.Program
