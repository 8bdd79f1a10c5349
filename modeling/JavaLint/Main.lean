import JavaLint.Program.Outline
import JavaLint.Program.Run

/-!
# The executable

The parts of the disk that a run may look at are read, the run is made, and its outcome is printed.
Under the name of the second program the executable prints outlines.
-/

namespace JavaLint

open JavaLint.Files JavaLint.Program

/-- Reads what is at a path, as files and directories with the names on the way to them. Inside a
directory only directories and sources count, and links are not followed. What cannot be read is
passed over. -/
partial def readBelow (inside : Bool) (names : List String) (path : String) :
    IO (List (List String × Option ByteArray)) := do
  let place := (← IO.currentDir) / path
  let about ← (if inside then place.symlinkMetadata else place.metadata).toBaseIO
  match (about.toOption.map (·.type) : Option IO.FS.FileType) with
  | some .dir =>
    let listed ← place.readDir.toBaseIO
    let below ← (listed.toOption.getD #[]).toList.mapM fun e =>
      readBelow true (names ++ [e.fileName]) (Path.join path e.fileName)
    pure ((names, none) :: below.flatten)
  | some .file =>
    if inside && Path.extension? path != some sourceExtension then pure []
    else
      let content ← (IO.FS.readBinFile place).toBaseIO
      pure (content.toOption.toList.map fun bytes => (names, some bytes))
  | _ => pure []

/-- Adds what is at a path, and the directories that the path goes through. -/
def look (fs : FileSystem) (path : String) : IO FileSystem := do
  let full := if Path.isAbsolute path then path else fs.workingDirectory ++ "/" ++ path
  let mut names : List String := []
  let mut root := fs.root
  for part in Path.parts full do
    if part == ".." then names := names.dropLast
    else if part != "" && part != "." then
      names := names ++ [part]
      if ← ((← IO.currentDir) / ("/" ++ "/".intercalate names)).isDir then
        root := FileSystem.place none names root
  let found ← if path == "" then pure [] else readBelow false names path
  pure { fs with root := found.foldl (fun root (ns, content) => FileSystem.place content ns root) root }

/-- What surrounds the program. Lines are coloured on a terminal, unless that is forced or forbidden. -/
def environment : IO Environment := do
  let isSet := fun (value : Option String) => value.any (· != "0")
  let terminal ← (← IO.getStdout).isTty
  let asked := (← IO.getEnv "NO_COLOR").isNone && ((← IO.getEnv "CLICOLOR").getD "1") != "0"
  pure ⟨isSet (← IO.getEnv "CLICOLOR_FORCE") || terminal && asked, ← IO.getEnv "RUST_LOG"⟩

/-- Prints an outcome. -/
def tell (o : Outcome) : IO UInt32 := do
  (← IO.getStderr).putStr o.errors
  (← IO.getStdout).putStr o.output
  pure o.exit.toUInt32

end JavaLint

open JavaLint in
/-- The executable. -/
def main (words : List String) : IO UInt32 := do
  let nothing : Files.FileSystem := ⟨[], (← IO.currentDir).toString⟩
  if (← IO.appPath).fileName == some Program.outlineName then
    tell (Program.outline (← words.head?.toList.foldlM look nothing) words)
  else
    let fs ← (Program.pathsOf words).foldlM look nothing
    let fs ← (Program.referenceOf? fs).toList.foldlM look fs
    tell (Program.run (← environment) fs words)
