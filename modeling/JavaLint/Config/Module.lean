/-!
# Modules of a checkstyle configuration

A configuration is a tree of modules. Each has a name, a list of properties, and further modules. A
name may occur more than once among the properties; a look-up in the list finds the first, while the
map of the properties keeps the last.
-/

namespace JavaLint.Config

/-- A property of a module. -/
structure Property where
  name : String
  value : String
deriving DecidableEq, Repr, Inhabited

/-- Values by their names. -/
structure PropertyMap where
  /-- The names with their values; no name occurs twice. -/
  entries : List (String × String)
deriving DecidableEq, Repr, Inhabited

namespace PropertyMap

/-- The map without names. -/
def empty : PropertyMap := ⟨[]⟩

/-- Replaces the value of a name, or adds the name at the end. -/
def put (name value : String) : List (String × String) → List (String × String)
  | [] => [(name, value)]
  | (n, v) :: rest => if n = name then (n, value) :: rest else (n, v) :: put name value rest

/-- Gives a name a value, in place of an earlier one. -/
def insert (m : PropertyMap) (name value : String) : PropertyMap := ⟨put name value m.entries⟩

/-- The map of a list of properties; of a repeated name the last value stays. -/
def ofList (properties : List Property) : PropertyMap :=
  properties.foldl (fun m p => m.insert p.name p.value) empty

/-- The value of a name. -/
def get? (m : PropertyMap) (name : String) : Option String := m.entries.lookup name

/-- The number of names. -/
def size (m : PropertyMap) : Nat := m.entries.length

end PropertyMap

/-- The value of the first property of a name. -/
def firstValue? (properties : List Property) (name : String) : Option String :=
  (properties.find? fun p => p.name == name).map (·.value)

/-- A module: its name, its properties, and the modules in it. -/
inductive Module where
  | mk (name : String) (properties : List Property) (modules : List Module)
deriving Repr, Inhabited

namespace Module

/-- The name. -/
def name : Module → String
  | mk n _ _ => n

/-- The properties, as they are written. -/
def properties : Module → List Property
  | mk _ ps _ => ps

/-- The modules in this one. -/
def modules : Module → List Module
  | mk _ _ ms => ms

/-- The value of the first property of a name. -/
def property? (m : Module) (name : String) : Option String := firstValue? m.properties name

/-- The properties by their names. -/
def propertyMap (m : Module) : PropertyMap := .ofList m.properties

end Module

end JavaLint.Config
