import JavaLint.Files.Tree

/-!
# Collecting files

A program is given paths. A path of a directory stands for the files of one extension in it, at any
depth, in the order of their names part by part.
-/

namespace JavaLint.Files

mutual

/-- The files with an extension that an entry at a path stands for. -/
def Entry.filesBelow (extension path : String) : Entry → List String
  | .file .. => if Path.extension? path = some extension then [path] else []
  | .special .. => []
  | .directory _ entries =>
    ((filesBelowEach extension path entries).mergeSort fun a b => a.1 ≤ b.1).flatMap (·.2)

/-- For each entry of the directory at a path, its name and the files that it stands for. -/
def filesBelowEach (extension path : String) : List Entry → List (String × List String)
  | [] => []
  | e :: rest =>
    (e.name, Entry.filesBelow extension (Path.join path e.name) e) ::
      filesBelowEach extension path rest

end

namespace FileSystem

/-- The files that a path stands for. A path that leads to nothing stands for itself, so that its
absence is told later. -/
def collect (fs : FileSystem) (extension path : String) : List String :=
  match fs.find path with
  | .ok e => e.filesBelow extension path
  | .error _ => [path]

/-- Whether a path leads to something that is passed over: no directory, and no file with the
extension. -/
def passesOver (fs : FileSystem) (extension path : String) : Bool :=
  match fs.find path with
  | .ok e => !e.isDirectory && !(e.isFile && Path.extension? path == some extension)
  | .error _ => false

/-- The files that some paths stand for, in the order of the paths. -/
def collectAll (fs : FileSystem) (extension : String) (paths : List String) : List String :=
  paths.flatMap (fs.collect extension)

end FileSystem

end JavaLint.Files
