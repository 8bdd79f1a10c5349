import JavaLint.Config.Module

/-!
# Checkstyle configurations

The root of a configuration is the module `Checker`. Its first module `TreeWalker` holds the rules;
its modules of other names are about whole files.
-/

namespace JavaLint.Config

/-- A checkstyle configuration. -/
structure Checkstyle where
  root : Module
deriving Repr, Inhabited

namespace Checkstyle

/-- The name that the root has to have. -/
def rootName : String := "Checker"

/-- The name of the module that holds the rules. -/
def walkerName : String := "TreeWalker"

/-- The value of the first property of the root with a name. -/
def property? (c : Checkstyle) (name : String) : Option String := c.root.property? name

/-- The module that holds the rules. -/
def treeWalker? (c : Checkstyle) : Option Module :=
  c.root.modules.find? fun m => m.name == walkerName

/-- The rules. -/
def rules (c : Checkstyle) : List Module :=
  match c.treeWalker? with
  | some m => m.modules
  | none => []

/-- The modules about whole files. -/
def fileModules (c : Checkstyle) : List Module :=
  c.root.modules.filter fun m => m.name != walkerName

end Checkstyle

end JavaLint.Config
