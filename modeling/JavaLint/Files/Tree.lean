import JavaLint.Files.Path

/-!
# Files and directories

What a program sees of a disk: files with their bytes, in directories, and entries that are neither.
Looking up a path can fail, and so can reading what it leads to.
-/

namespace JavaLint.Files

/-- An entry of a directory. -/
inductive Entry where
  | file (name : String) (content : ByteArray)
  | directory (name : String) (entries : List Entry)
  /-- What is neither, such as a pipe, with the bytes that reading it gives. -/
  | special (name : String) (content : ByteArray)
deriving Inhabited

namespace Entry

/-- The name. -/
def name : Entry → String
  | file n _ => n
  | directory n _ => n
  | special n _ => n

/-- Whether the entry is a file. -/
def isFile : Entry → Bool
  | file .. => true
  | _ => false

/-- Whether the entry is a directory. -/
def isDirectory : Entry → Bool
  | directory .. => true
  | _ => false

/-- The entries of a directory; nothing else has any. -/
def entries : Entry → List Entry
  | directory _ es => es
  | _ => []

theorem exists_eq_directory {e : Entry} (h : e.isDirectory = true) :
    ∃ n es, e = directory n es := by
  cases e with
  | directory n es => exact ⟨n, es, rfl⟩
  | file n content => exact absurd h nofun
  | special n content => exact absurd h nofun

theorem isFile_of_isDirectory {e : Entry} (h : e.isDirectory = true) : e.isFile = false := by
  obtain ⟨n, es, rfl⟩ := exists_eq_directory h
  rfl

theorem isDirectory_of_isFile {e : Entry} (h : e.isFile = true) : e.isDirectory = false := by
  cases hd : e.isDirectory with
  | false => rfl
  | true => exact absurd h (Bool.eq_false_iff.1 (isFile_of_isDirectory hd))

end Entry

/-- Why a file cannot be read. -/
inductive ReadFault where
  | notFound
  | notDirectory
  | isDirectory
  | notText
deriving DecidableEq, Repr, Inhabited

namespace ReadFault

/-- What is said of a fault. -/
def message : ReadFault → String
  | notFound => "No such file or directory (os error 2)"
  | notDirectory => "Not a directory (os error 20)"
  | isDirectory => "Is a directory (os error 21)"
  | notText => "stream did not contain valid UTF-8"

end ReadFault

/-- Files and directories, and the directory where relative paths start. -/
structure FileSystem where
  /-- The entries of the root. -/
  root : List Entry
  /-- The path of the working directory, from the root. -/
  workingDirectory : String
deriving Inhabited

namespace FileSystem

/-- Follows names from an entry. `above` holds the directories on the way to it, the last one first;
nothing is above the root. -/
def follow (here : Entry) (above : List Entry) : List String → Except ReadFault Entry
  | [] => .ok here
  | name :: names =>
    match here with
    | .file .. | .special .. => .error .notDirectory
    | .directory _ entries =>
      if name = "" ∨ name = "." then follow here above names
      else if name = ".." then
        match above with
        | [] => follow here [] names
        | parent :: rest => follow parent rest names
      else
        match entries.find? fun e => e.name == name with
        | none => .error .notFound
        | some e => follow e (here :: above) names

/-- What a path leads to. -/
def find (fs : FileSystem) (path : String) : Except ReadFault Entry :=
  if path = "" then .error .notFound
  else
    let full := if Path.isAbsolute path then path else fs.workingDirectory ++ "/" ++ path
    follow (.directory "" fs.root) [] (Path.parts full)

/-- Whether a path leads to something. -/
def has (fs : FileSystem) (path : String) : Bool :=
  match fs.find path with
  | .ok _ => true
  | .error _ => false

/-- Whether a path leads to a file. -/
def isFile (fs : FileSystem) (path : String) : Bool :=
  match fs.find path with
  | .ok e => e.isFile
  | .error _ => false

/-- The text of the file that a path leads to. -/
def readText (fs : FileSystem) (path : String) : Except ReadFault String :=
  match fs.find path with
  | .error e => .error e
  | .ok (.directory ..) => .error .isDirectory
  | .ok (.file _ content) | .ok (.special _ content) =>
    match String.fromUTF8? content with
    | some text => .ok text
    | none => .error .notText

/-- Puts something at the end of a way of names into a directory. Directories on the way are made, and
a directory keeps what it holds when it is made again. -/
def place (content : Option ByteArray) : List String → List Entry → List Entry
  | [], entries => entries
  | name :: names, entries =>
    let others := entries.filter fun e => e.name != name
    let inside := ((entries.find? fun e => e.name == name).map Entry.entries).getD []
    match names, content with
    | [], some bytes => .file name bytes :: others
    | _, _ => .directory name (place content names inside) :: others

end FileSystem

end JavaLint.Files
