/-!
# The order of modifiers

The Java language specification suggests an order for the modifiers of a declaration (sections
8.1.1, 8.3.1 and 8.4.3). A sequence keeps it when its keywords can be found one after the other by
going through the table once. The first keyword that is not found is out of order: it belongs
before one that precedes it, or repeats one, or is not in the table.
-/

namespace JavaLint.Modifier

/-- The suggested order. -/
def table : List String := [
  "public", "protected", "private", "abstract", "static", "final", "transient", "volatile",
  "synchronized", "native", "strictfp"]

/-- What is left of the table after the slot of a keyword, if it has one. -/
def after? (slots : List String) (keyword : String) : Option (List String) :=
  match slots with
  | [] => none
  | s :: rest => if s = keyword then some rest else after? rest keyword

/-- The first of some tokens whose keyword is not found in the slots from the cursor on. The cursor
moves past the slot of each keyword that is found. -/
def firstMisplacedFrom {α : Type} (keyword : α → String) (slots : List String) :
    List α → Option α
  | [] => none
  | t :: rest =>
    match after? slots (keyword t) with
    | some slots => firstMisplacedFrom keyword slots rest
    | none => some t

/-- The first of some tokens whose keyword breaks the suggested order. -/
def firstMisplaced? {α : Type} (keyword : α → String) (tokens : List α) : Option α :=
  firstMisplacedFrom keyword table tokens

end JavaLint.Modifier
