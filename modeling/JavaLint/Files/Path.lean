import JavaLint.Text.Search

/-!
# Paths

A path is a text whose parts are separated by slashes. It starts at the root if it begins with a
slash, and at the working directory otherwise.
-/

namespace JavaLint.Files

open JavaLint.Text

namespace Path

/-- The parts of a path. Two slashes in a row have an empty part between them. -/
def parts (path : String) : List String := (splitAtEach '/' path.toList).map String.ofList

/-- Whether a path starts at the root. -/
def isAbsolute (path : String) : Bool := path.toList.head? == some '/'

/-- The path that starts where `base` leads to. -/
def join (base path : String) : String :=
  if isAbsolute path then path
  else match base.toList.getLast? with
    | none => path
    | some '/' => base ++ path
    | some _ => base ++ "/" ++ path

/-- The last part that names something. -/
def fileName? (path : String) : Option String :=
  match ((parts path).filter fun p => p != "" && p != ".").getLast? with
  | some ".." => none
  | name => name

/-- What a name has behind its last dot, if something is before that dot. -/
def extensionOf (name : String) : Option String :=
  match (splitAtEach '.' name.toList).reverse with
  | last :: before =>
    if before.all List.isEmpty && before.length ≤ 1 then none else some (String.ofList last)
  | [] => none

/-- The extension of the file that a path names. -/
def extension? (path : String) : Option String := (fileName? path).bind extensionOf

end Path

end JavaLint.Files
