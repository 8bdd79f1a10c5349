import JavaLint.Tree.Basic

/-!
# Kinds of nodes

Of the many kinds of the grammar, rules tell apart only those listed here.
-/

namespace JavaLint

/-- The kinds of nodes that rules tell apart. -/
inductive NodeKind where
  | program
  /-- A clause of modifiers, such as `public static final`. -/
  | modifiers
  | annotation
  | markerAnnotation
  | lineComment
  | blockComment
  | classDeclaration
  | interfaceDeclaration
  | enumDeclaration
  | recordDeclaration
  | annotationTypeDeclaration
  | methodDeclaration
  | constructorDeclaration
  | fieldDeclaration
  | constantDeclaration
  | localVariableDeclaration
  /-- Skipped text. -/
  | error
  /-- Any other kind. -/
  | other
deriving DecidableEq, Repr, Inhabited

namespace NodeKind

/-- The kinds with the names that the grammar gives them. -/
def names : List (String × NodeKind) := [
  ("program", program),
  ("modifiers", modifiers),
  ("annotation", annotation),
  ("marker_annotation", markerAnnotation),
  ("line_comment", lineComment),
  ("block_comment", blockComment),
  ("class_declaration", classDeclaration),
  ("interface_declaration", interfaceDeclaration),
  ("enum_declaration", enumDeclaration),
  ("record_declaration", recordDeclaration),
  ("annotation_type_declaration", annotationTypeDeclaration),
  ("method_declaration", methodDeclaration),
  ("constructor_declaration", constructorDeclaration),
  ("field_declaration", fieldDeclaration),
  ("constant_declaration", constantDeclaration),
  ("local_variable_declaration", localVariableDeclaration),
  ("ERROR", error)]

/-- The kind that a name of the grammar stands for. -/
def ofRaw (name : String) : NodeKind := (names.lookup name).getD other

/-- Whether the node is an annotation, with or without arguments. -/
def isAnnotation (k : NodeKind) : Bool := k == annotation || k == markerAnnotation

/-- Whether the node is a comment. -/
def isComment (k : NodeKind) : Bool := k == lineComment || k == blockComment

/-- Whether the node is a declaration whose annotations may silence rules. -/
def isDeclaration : NodeKind → Bool
  | classDeclaration | interfaceDeclaration | enumDeclaration | recordDeclaration
  | annotationTypeDeclaration | methodDeclaration | constructorDeclaration | fieldDeclaration
  | constantDeclaration | localVariableDeclaration => true
  | _ => false

/-- Whether the node is a clause of modifiers. -/
def isModifiers (k : NodeKind) : Bool := k == modifiers

/-- The kind as it is written for people. -/
def render : NodeKind → String
  | program => "Program"
  | modifiers => "Modifiers"
  | annotation => "Annotation"
  | markerAnnotation => "MarkerAnnotation"
  | lineComment => "LineComment"
  | blockComment => "BlockComment"
  | classDeclaration => "ClassDeclaration"
  | interfaceDeclaration => "InterfaceDeclaration"
  | enumDeclaration => "EnumDeclaration"
  | recordDeclaration => "RecordDeclaration"
  | annotationTypeDeclaration => "AnnotationTypeDeclaration"
  | methodDeclaration => "MethodDeclaration"
  | constructorDeclaration => "ConstructorDeclaration"
  | fieldDeclaration => "FieldDeclaration"
  | constantDeclaration => "ConstantDeclaration"
  | localVariableDeclaration => "LocalVariableDeclaration"
  | error => "Error"
  | other => "Other"

end NodeKind

/-- The kind of the root. -/
def Tree.kind (t : Tree) : NodeKind := .ofRaw t.rawKind

end JavaLint
