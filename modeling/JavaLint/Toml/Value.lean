/-!
# Values of TOML

A document is a table. A table can be written in pieces, but not every piece may add to every table,
so a table keeps how it came about.
-/

namespace JavaLint.Toml

/-- How a table came about. -/
inductive Form where
  /-- By a header, or as the whole document. -/
  | header
  /-- On the way to a table with a header. -/
  | implied
  /-- On the way to a key with dots. -/
  | dotted
  /-- In braces. -/
  | braces
deriving DecidableEq, Repr, Inhabited

/-- The sorts of values that are neither texts nor made of others. -/
inductive ScalarKind where
  | boolean
  | integer
  | float
  | time
deriving DecidableEq, Repr, Inhabited

/-- The place of a value: how many bytes of the document are left at its start and at its end. -/
structure Place where
  startsBefore : Nat
  endsBefore : Nat
deriving DecidableEq, Repr, Inhabited

/-- A value. -/
inductive Value where
  | text (content : String) (place : Place)
  | scalar (kind : ScalarKind) (written : String) (place : Place)
  /-- Values in brackets, or tables whose headers are in double brackets. -/
  | list (ofTables : Bool) (items : List Value) (place : Place)
  | table (form : Form) (entries : List (String × Value)) (place : Place)
deriving Repr, Inhabited

namespace Value

/-- The place of a value. -/
def place : Value → Place
  | text _ p => p
  | scalar _ _ p => p
  | list _ _ p => p
  | table _ _ p => p

/-- The entries of a table. -/
def entries? : Value → Option (List (String × Value))
  | table _ es _ => some es
  | _ => none

end Value

/-- Changes the value of a key, or adds the key at the end. The change sees the value, if any, and may
be refused. -/
def alter (key : String) (f : Option Value → Option Value) :
    List (String × Value) → Option (List (String × Value))
  | [] => (f none).map fun v => [(key, v)]
  | (k, v) :: rest =>
    if k = key then (f (some v)).map fun v => (k, v) :: rest
    else (alter key f rest).map ((k, v) :: ·)

/-- Changes the last item of a list. -/
def alterLast (f : Value → Option Value) : List Value → Option (List Value)
  | [] => none
  | [v] => (f v).map fun v => [v]
  | v :: rest => (alterLast f rest).map (v :: ·)

/-- A change of the form and the entries of a table; it may be refused. -/
abbrev TableChange := Form → List (String × Value) → Option (Form × List (String × Value))

/-- Changes the table at the end of a way of keys. Tables that lack on the way are made, of the form
that is given. A header may lead through all tables but those in braces, and through the last of
several tables; a key with dots leads only through tables without headers. -/
def descend (made : Form) (place : Place) (f : TableChange) : List String → TableChange
  | [], form, entries => f form entries
  | key :: way, form, entries => do
    let into := fun (form : Form) entries place => do
      let (form, entries) ← descend made place f way form entries
      pure (Value.table form entries place)
    let entries ← alter key (fun found =>
      match found with
      | none => into made [] place
      | some (.table .braces _ _) => none
      | some (.table form entries p) =>
        if made = .dotted ∧ form = .header then none else into form entries p
      | some (.list true items p) =>
        (alterLast (fun v =>
          match v with
          | .table form entries p => into form entries p
          | _ => none) items).map fun items => .list true items p
      | some _ => none) entries
    pure (form, entries)

/-- Adds a value under a key, which has to be new. `way` are the keys before the last dot; a table on
the way of a header takes no further keys by dots. -/
def assign (way : List String) (key : String) (value : Value) : TableChange :=
  descend .dotted value.place (fun form entries =>
    if !way.isEmpty && form != .dotted then none
    else
      (alter key (fun found => if found.isSome then none else some value) entries).map
        fun entries => (form, entries)) way

/-- Opens the table of a header. It has to be new, or made on the way to another header. -/
def openTable (way : List String) (key : String) (place : Place) : TableChange :=
  descend .implied place (fun form entries =>
    (alter key (fun found =>
      match found with
      | none => some (.table .header [] place)
      | some (.table .implied entries p) => some (.table .header entries p)
      | some _ => none) entries).map fun entries => (form, entries)) way

/-- Adds a table to those of a header in double brackets. -/
def openItem (way : List String) (key : String) (place : Place) : TableChange :=
  descend .implied place (fun form entries =>
    (alter key (fun found =>
      let item := Value.table .header [] place
      match found with
      | none => some (.list true [item] place)
      | some (.list true items p) => some (.list true (items ++ [item]) p)
      | some _ => none) entries).map fun entries => (form, entries)) way

end JavaLint.Toml
