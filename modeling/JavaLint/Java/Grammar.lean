import JavaLint.Grammar.Rule
import JavaLint.Text.IdentifierChars

/-!
# The grammar of Java

The grammar is that of compilation units, with two liberties: statements and methods may stand at
the top level, so that fragments can be read too, and names that are keywords only in some places
may be used as identifiers elsewhere. Where a text could be read as a type or as an expression the
rules leave both readings open; the dynamic precedence of generic types and of class literals
decides between whole trees.
-/

namespace JavaLint.Java

open JavaLint.Grammar JavaLint.Text

namespace Lexical

/-- A run of digits, with single underscores between digits. -/
def decimalDigits : Pattern := .sepBy1 (.many1 (.within [('0', '9')])) (.text "_")

/-- A decimal number without a leading zero. -/
def digits : Pattern :=
  .alt [.text "0",
    .seq [.within [('1', '9')],
      .optional (.seq [.optional (.text "_"),
        .sepBy1 (.many1 (.within [('0', '9')])) (.many1 (.text "_"))])]]

/-- A run of hexadecimal digits, with single underscores between digits. -/
def hexDigits : Pattern :=
  .sepBy1 (.many1 (.within [('A', 'F'), ('a', 'f'), ('0', '9')])) (.text "_")

/-- The suffix of a long number. -/
def longSuffix : Pattern := .optional (.anyOf "lL")

/-- The sign of an exponent. -/
def sign : Pattern := .optional (.anyOf "-+")

/-- The suffix of a floating-point number. -/
def floatSuffix : Pattern := .optional (.anyOf "fFdD")

/-- A decimal exponent. -/
def exponent : Pattern := .optional (.seq [.anyOf "eE", sign, decimalDigits])

/-- Integer literals to base ten. -/
def decimalInteger : Pattern := .seq [digits, longSuffix]

/-- Integer literals to base sixteen. -/
def hexInteger : Pattern := .seq [.alt [.text "0x", .text "0X"], hexDigits, longSuffix]

/-- Integer literals to base eight. -/
def octalInteger : Pattern :=
  .seq [.alt [.text "0o", .text "0O", .text "0"],
    .sepBy1 (.many1 (.within [('0', '7')])) (.text "_"), longSuffix]

/-- Integer literals to base two. -/
def binaryInteger : Pattern :=
  .seq [.alt [.text "0b", .text "0B"], .sepBy1 (.many1 (.anyOf "01")) (.text "_"), longSuffix]

/-- Floating-point literals to base ten. -/
def decimalFloat : Pattern :=
  .alt [
    .seq [decimalDigits, .text ".", .optional decimalDigits, exponent, floatSuffix],
    .seq [.text ".", decimalDigits, exponent, floatSuffix],
    .seq [digits, .anyOf "eEpP", sign, decimalDigits, floatSuffix],
    .seq [digits, exponent, .anyOf "fFdD"]]

/-- Floating-point literals to base sixteen. -/
def hexFloat : Pattern :=
  .seq [.alt [.text "0x", .text "0X"],
    .alt [.seq [hexDigits, .optional (.text ".")],
      .seq [.optional hexDigits, .text ".", hexDigits]],
    .optional (.seq [.anyOf "eEpP", sign, decimalDigits, floatSuffix])]

/-- Character literals. -/
def character : Pattern :=
  .seq [.text "'",
    .many1 (.alt [.noneOf "\\'\n", .seq [.text "\\", .noneOf "\n"], .text "\\\n"]),
    .text "'"]

/-- What may follow a backslash in a string. -/
def escape : Pattern :=
  .seq [.text "\\",
    .alt [
      .one ((CharSet.ofRanges [('x'.toNat, 'x'.toNat), ('u'.toNat, 'u'.toNat),
        ('0'.toNat, '7'.toNat)]).complementFrom 1),
      .seq [.within [('0', '7')], .optional (.within [('0', '7')]),
        .optional (.within [('0', '7')])],
      .seq [.text "x", .times 2 (.within [('0', '9'), ('a', 'f'), ('A', 'F')])],
      .seq [.text "u", .times 4 (.within [('0', '9'), ('a', 'f'), ('A', 'F')])],
      .seq [.text "u\x7b", .many1 (.within [('0', '9'), ('a', 'f'), ('A', 'F')]), .text "\x7d"]]]

/-- Identifiers, keywords among them. -/
def word : Pattern :=
  .seq [.one (identifierStart.union (CharSet.ofChars ['_', '$'])),
    .many (.one (identifierContinue.union (CharSet.ofChars ['\u00A2', '_', '$'])))]

/-- Comments to the end of the line. -/
def lineComment : Pattern := .seq [.text "//", .many (.noneOf "\n")]

/-- Comments between a slash with a star and a star with a slash. -/
def blockComment : Pattern :=
  .seq [.text "/*", .many (.noneOf "*"), .many1 (.text "*"),
    .many (.seq [.noneOf "/*", .many (.noneOf "*"), .many1 (.text "*")]), .text "/"]

/-- The characters that may stand between tokens. -/
def blanks : CharSet :=
  CharSet.ofRanges [(0x09, 0x0D), (0x20, 0x20)]

end Lexical

/-- Levels of precedence, from the weakest to the strongest. -/
structure Levels where
  assign : Int := 1
  declaration : Int := 2
  elementValue : Int := 2
  ternary : Int := 3
  or : Int := 4
  and : Int := 5
  bitOr : Int := 6
  bitXor : Int := 7
  bitAnd : Int := 8
  equality : Int := 9
  generic : Int := 10
  relation : Int := 10
  shift : Int := 11
  add : Int := 12
  multiply : Int := 13
  cast : Int := 14
  unary : Int := 15
  classLiteral : Int := 17

/-- The levels in force. -/
def levels : Levels := {}

open Rule

private def lit (s : String) : Rule Atom := .atom (.token (.ofText s))

private def tok (p : Pattern) : Rule Atom := .atom (.token (.ofPattern p))

private def ref (name : String) : Rule Atom := .atom (.name name)

private def commaSep1 (r : Rule Atom) : Rule Atom := sepBy1 r (lit ",")

private def commaSep (r : Rule Atom) : Rule Atom := sepBy r (lit ",")

private def annotations : Rule Atom := many (ref "_annotation")

private def anyName : Rule Atom := choice [ref "identifier", ref "_reserved_identifier"]

private def typeName : Rule Atom := renamed "type_identifier" (ref "identifier")

private def literalRules : List Definition := [
  ⟨"_literal", choice (["decimal_integer_literal", "hex_integer_literal", "octal_integer_literal",
    "binary_integer_literal", "decimal_floating_point_literal", "hex_floating_point_literal",
    "true", "false", "character_literal", "string_literal", "null_literal"].map ref)⟩,
  ⟨"decimal_integer_literal", tok Lexical.decimalInteger⟩,
  ⟨"hex_integer_literal", tok Lexical.hexInteger⟩,
  ⟨"octal_integer_literal", tok Lexical.octalInteger⟩,
  ⟨"binary_integer_literal", tok Lexical.binaryInteger⟩,
  ⟨"decimal_floating_point_literal", tok Lexical.decimalFloat⟩,
  ⟨"hex_floating_point_literal", tok Lexical.hexFloat⟩,
  ⟨"true", lit "true"⟩,
  ⟨"false", lit "false"⟩,
  ⟨"character_literal", tok Lexical.character⟩,
  ⟨"string_literal", choice [ref "_string_literal", ref "_multiline_string_literal"]⟩,
  ⟨"_string_literal", seq [lit "\"",
    many (choice [ref "string_fragment", ref "escape_sequence", ref "string_interpolation"]),
    lit "\""]⟩,
  ⟨"_multiline_string_literal", seq [lit "\"\"\"",
    many (choice [
      renamed "multiline_string_fragment" (ref "_multiline_string_fragment"),
      renamed "escape_sequence" (ref "_escape_sequence"),
      ref "string_interpolation"]),
    lit "\"\"\""]⟩,
  ⟨"string_fragment", .atom (.token (.immediately (.many1 (.noneOf "\"\\")) 1))⟩,
  ⟨"_multiline_string_fragment", choice [
    tok (.many1 (.noneOf "\"\\")),
    tok (.seq [.text "\"", .many (.alt [.noneOf "\"\\", .text "\\\""])])]⟩,
  ⟨"string_interpolation", seq [lit "\\\x7b", ref "expression", lit "\x7d"]⟩,
  ⟨"_escape_sequence", choice [
    prec 2 (.atom (.token (.immediately (.seq [.text "\\", .noneOf "bfnrts'\"\\"]) 0))),
    prec 1 (ref "escape_sequence")]⟩,
  ⟨"escape_sequence", .atom (.token (.immediately Lexical.escape 0))⟩,
  ⟨"null_literal", lit "null"⟩]

private def binaryOperators : List (String × Int) := [
  (">", levels.relation), ("<", levels.relation), (">=", levels.relation),
  ("<=", levels.relation), ("==", levels.equality), ("!=", levels.equality),
  ("&&", levels.and), ("||", levels.or), ("+", levels.add), ("-", levels.add),
  ("*", levels.multiply), ("/", levels.multiply), ("&", levels.bitAnd), ("|", levels.bitOr),
  ("^", levels.bitXor), ("%", levels.multiply), ("<<", levels.shift), (">>", levels.shift),
  (">>>", levels.shift)]

private def expressionRules : List Definition := [
  ⟨"expression", choice (["assignment_expression", "binary_expression", "instanceof_expression",
    "lambda_expression", "ternary_expression", "update_expression", "primary_expression",
    "unary_expression", "cast_expression", "switch_expression"].map ref)⟩,
  ⟨"cast_expression", prec levels.cast (choice [
    seq [lit "(", field "type" (ref "_type"), lit ")", field "value" (ref "expression")],
    seq [lit "(", sepBy1 (field "type" (ref "_type")) (lit "&"), lit ")",
      field "value" (choice [ref "primary_expression", ref "lambda_expression"])]])⟩,
  ⟨"assignment_expression", precRight levels.assign (seq [
    field "left" (choice [ref "identifier", ref "_reserved_identifier", ref "field_access",
      ref "array_access"]),
    field "operator" (choice (["=", "+=", "-=", "*=", "/=", "&=", "|=", "^=", "%=", "<<=", ">>=",
      ">>>="].map lit)),
    field "right" (ref "expression")])⟩,
  ⟨"binary_expression", choice (binaryOperators.map fun (operator, level) =>
    precLeft level (seq [field "left" (ref "expression"), field "operator" (lit operator),
      field "right" (ref "expression")]))⟩,
  ⟨"instanceof_expression", prec levels.relation (seq [
    field "left" (ref "expression"), lit "instanceof", optional (lit "final"),
    choice [
      seq [field "right" (ref "_type"), optional (field "name" anyName)],
      field "pattern" (ref "record_pattern")]])⟩,
  ⟨"lambda_expression", seq [
    field "parameters" (choice [ref "identifier", ref "formal_parameters",
      ref "inferred_parameters", ref "_reserved_identifier"]),
    lit "->",
    field "body" (choice [ref "expression", ref "block"])]⟩,
  ⟨"inferred_parameters", seq [lit "(", commaSep1 anyName, lit ")"]⟩,
  ⟨"ternary_expression", precRight levels.ternary (seq [
    field "condition" (ref "expression"), lit "?", field "consequence" (ref "expression"),
    lit ":", field "alternative" (ref "expression")])⟩,
  ⟨"unary_expression", choice (["+", "-", "!", "~"].map fun operator =>
    precLeft levels.unary (seq [field "operator" (lit operator),
      field "operand" (ref "expression")]))⟩,
  ⟨"update_expression", precLeft levels.unary (choice [
    seq [ref "expression", lit "++"], seq [ref "expression", lit "--"],
    seq [lit "++", ref "expression"], seq [lit "--", ref "expression"]])⟩,
  ⟨"primary_expression", choice (["_literal", "class_literal", "this", "identifier",
    "_reserved_identifier", "parenthesized_expression", "object_creation_expression",
    "field_access", "array_access", "method_invocation", "method_reference",
    "array_creation_expression", "template_expression"].map ref)⟩,
  ⟨"array_creation_expression", precRight 0 (seq [
    lit "new", annotations, field "type" (ref "_simple_type"),
    choice [
      seq [field "dimensions" (many1 (ref "dimensions_expr")),
        field "dimensions" (optional (ref "dimensions"))],
      seq [field "dimensions" (ref "dimensions"), field "value" (ref "array_initializer")]]])⟩,
  ⟨"dimensions_expr", seq [annotations, lit "[", ref "expression", lit "]"]⟩,
  ⟨"parenthesized_expression", seq [lit "(", ref "expression", lit ")"]⟩,
  ⟨"class_literal", precDynamic levels.classLiteral
    (seq [ref "_unannotated_type", lit ".", lit "class"])⟩,
  ⟨"object_creation_expression", choice [
    ref "_unqualified_object_creation_expression",
    seq [ref "primary_expression", lit ".", ref "_unqualified_object_creation_expression"]]⟩,
  ⟨"_unqualified_object_creation_expression", precRight 0 (seq [
    lit "new",
    choice [
      seq [annotations, field "type_arguments" (ref "type_arguments"), annotations],
      annotations],
    field "type" (ref "_simple_type"), field "arguments" (ref "argument_list"),
    optional (ref "class_body")])⟩,
  ⟨"field_access", seq [
    field "object" (choice [ref "primary_expression", ref "super"]),
    optional (seq [lit ".", ref "super"]), lit ".",
    field "field" (choice [ref "identifier", ref "_reserved_identifier", ref "this"])]⟩,
  ⟨"template_expression", seq [
    field "template_processor" (ref "primary_expression"), lit ".",
    field "template_argument" (ref "string_literal")]⟩,
  ⟨"array_access", seq [
    field "array" (ref "primary_expression"), lit "[", field "index" (ref "expression"),
    lit "]"]⟩,
  ⟨"method_invocation", seq [
    choice [
      field "name" anyName,
      seq [
        field "object" (choice [ref "primary_expression", ref "super"]), lit ".",
        optional (seq [ref "super", lit "."]),
        field "type_arguments" (optional (ref "type_arguments")),
        field "name" anyName]],
    field "arguments" (ref "argument_list")]⟩,
  ⟨"argument_list", seq [lit "(", commaSep (ref "expression"), lit ")"]⟩,
  ⟨"method_reference", seq [
    choice [ref "_type", ref "primary_expression", ref "super"], lit "::",
    optional (ref "type_arguments"), choice [lit "new", ref "identifier"]]⟩,
  ⟨"type_arguments", seq [lit "<", commaSep (choice [ref "_type", ref "wildcard"]), lit ">"]⟩,
  ⟨"wildcard", seq [annotations, lit "?", optional (ref "_wildcard_bounds")]⟩,
  ⟨"_wildcard_bounds", choice [
    seq [lit "extends", ref "_type"], seq [ref "super", ref "_type"]]⟩,
  ⟨"dimensions", precRight 0 (many1 (seq [annotations, lit "[", lit "]"]))⟩,
  ⟨"switch_expression", seq [
    lit "switch", field "condition" (ref "parenthesized_expression"),
    field "body" (ref "switch_block")]⟩,
  ⟨"switch_block", seq [lit "\x7b",
    choice [many (ref "switch_block_statement_group"), many (ref "switch_rule")],
    lit "\x7d"]⟩,
  ⟨"switch_block_statement_group", precLeft 0 (seq [
    many1 (seq [ref "switch_label", lit ":"]), many (ref "statement")])⟩,
  ⟨"switch_rule", seq [ref "switch_label", lit "->",
    choice [ref "expression_statement", ref "throw_statement", ref "block"]]⟩,
  ⟨"switch_label", choice [
    seq [lit "case", choice [ref "pattern", commaSep1 (ref "expression")],
      optional (ref "guard")],
    lit "default"]⟩,
  ⟨"pattern", choice [ref "type_pattern", ref "record_pattern"]⟩,
  ⟨"type_pattern", seq [ref "_unannotated_type", anyName]⟩,
  ⟨"record_pattern", seq [
    choice [ref "identifier", ref "_reserved_identifier", ref "generic_type"],
    ref "record_pattern_body"]⟩,
  ⟨"record_pattern_body", seq [lit "(",
    commaSep (choice [ref "record_pattern_component", ref "record_pattern"]), lit ")"]⟩,
  ⟨"record_pattern_component", choice [
    ref "underscore_pattern", seq [ref "_unannotated_type", anyName]]⟩,
  ⟨"underscore_pattern", lit "_"⟩,
  ⟨"guard", seq [lit "when", ref "expression"]⟩]

private def statementRules : List Definition := [
  ⟨"statement", choice [
    ref "declaration", ref "expression_statement", ref "labeled_statement", ref "if_statement",
    ref "while_statement", ref "for_statement", ref "enhanced_for_statement", ref "block",
    lit ";", ref "assert_statement", ref "do_statement", ref "break_statement",
    ref "continue_statement", ref "return_statement", ref "yield_statement",
    ref "switch_expression", ref "synchronized_statement", ref "local_variable_declaration",
    ref "throw_statement", ref "try_statement", ref "try_with_resources_statement"]⟩,
  ⟨"block", seq [lit "\x7b", many (ref "statement"), lit "\x7d"]⟩,
  ⟨"expression_statement", seq [ref "expression", lit ";"]⟩,
  ⟨"labeled_statement", seq [ref "identifier", lit ":", ref "statement"]⟩,
  ⟨"assert_statement", choice [
    seq [lit "assert", ref "expression", lit ";"],
    seq [lit "assert", ref "expression", lit ":", ref "expression", lit ";"]]⟩,
  ⟨"do_statement", seq [
    lit "do", field "body" (ref "statement"), lit "while",
    field "condition" (ref "parenthesized_expression"), lit ";"]⟩,
  ⟨"break_statement", seq [lit "break", optional (ref "identifier"), lit ";"]⟩,
  ⟨"continue_statement", seq [lit "continue", optional (ref "identifier"), lit ";"]⟩,
  ⟨"return_statement", seq [lit "return", optional (ref "expression"), lit ";"]⟩,
  ⟨"yield_statement", seq [lit "yield", ref "expression", lit ";"]⟩,
  ⟨"synchronized_statement", seq [
    lit "synchronized", ref "parenthesized_expression", field "body" (ref "block")]⟩,
  ⟨"throw_statement", seq [lit "throw", ref "expression", lit ";"]⟩,
  ⟨"try_statement", seq [
    lit "try", field "body" (ref "block"),
    choice [many1 (ref "catch_clause"),
      seq [many (ref "catch_clause"), ref "finally_clause"]]]⟩,
  ⟨"catch_clause", seq [
    lit "catch", lit "(", ref "catch_formal_parameter", lit ")", field "body" (ref "block")]⟩,
  ⟨"catch_formal_parameter", seq [
    optional (ref "modifiers"), ref "catch_type", ref "_variable_declarator_id"]⟩,
  ⟨"catch_type", sepBy1 (ref "_unannotated_type") (lit "|")⟩,
  ⟨"finally_clause", seq [lit "finally", ref "block"]⟩,
  ⟨"try_with_resources_statement", seq [
    lit "try", field "resources" (ref "resource_specification"), field "body" (ref "block"),
    many (ref "catch_clause"), optional (ref "finally_clause")]⟩,
  ⟨"resource_specification", seq [
    lit "(", sepBy1 (ref "resource") (lit ";"), optional (lit ";"), lit ")"]⟩,
  ⟨"resource", choice [
    seq [optional (ref "modifiers"), field "type" (ref "_unannotated_type"),
      ref "_variable_declarator_id", lit "=", field "value" (ref "expression")],
    ref "identifier", ref "field_access"]⟩,
  ⟨"if_statement", precRight 0 (seq [
    lit "if", field "condition" (ref "parenthesized_expression"),
    field "consequence" (ref "statement"),
    optional (seq [lit "else", field "alternative" (ref "statement")])])⟩,
  ⟨"while_statement", seq [
    lit "while", field "condition" (ref "parenthesized_expression"),
    field "body" (ref "statement")]⟩,
  ⟨"for_statement", seq [
    lit "for", lit "(",
    choice [
      field "init" (ref "local_variable_declaration"),
      seq [commaSep (field "init" (ref "expression")), lit ";"]],
    field "condition" (optional (ref "expression")), lit ";",
    commaSep (field "update" (ref "expression")), lit ")",
    field "body" (ref "statement")]⟩,
  ⟨"enhanced_for_statement", seq [
    lit "for", lit "(", optional (ref "modifiers"), field "type" (ref "_unannotated_type"),
    ref "_variable_declarator_id", lit ":", field "value" (ref "expression"), lit ")",
    field "body" (ref "statement")]⟩]

private def annotationRules : List Definition := [
  ⟨"_annotation", choice [ref "marker_annotation", ref "annotation"]⟩,
  ⟨"marker_annotation", seq [lit "@", field "name" (ref "_name")]⟩,
  ⟨"annotation", seq [
    lit "@", field "name" (ref "_name"), field "arguments" (ref "annotation_argument_list")]⟩,
  ⟨"annotation_argument_list", seq [lit "(",
    choice [ref "_element_value", commaSep (ref "element_value_pair")], lit ")"]⟩,
  ⟨"element_value_pair", seq [
    field "key" anyName, lit "=", field "value" (ref "_element_value")]⟩,
  ⟨"_element_value", prec levels.elementValue (choice [
    ref "expression", ref "element_value_array_initializer", ref "_annotation"])⟩,
  ⟨"element_value_array_initializer", seq [
    lit "\x7b", commaSep (ref "_element_value"), optional (lit ","), lit "\x7d"]⟩]

private def modifierWords : List String := [
  "public", "protected", "private", "abstract", "static", "final", "strictfp", "default",
  "synchronized", "native", "transient", "volatile", "sealed", "non-sealed"]

private def declarationRules : List Definition := [
  ⟨"declaration", prec levels.declaration (choice (["module_declaration", "package_declaration",
    "import_declaration", "class_declaration", "record_declaration", "interface_declaration",
    "annotation_type_declaration", "enum_declaration"].map ref))⟩,
  ⟨"module_declaration", seq [
    annotations, optional (lit "open"), lit "module", field "name" (ref "_name"),
    field "body" (ref "module_body")]⟩,
  ⟨"module_body", seq [lit "\x7b", many (ref "module_directive"), lit "\x7d"]⟩,
  ⟨"module_directive", choice (["requires_module_directive", "exports_module_directive",
    "opens_module_directive", "uses_module_directive", "provides_module_directive"].map ref)⟩,
  ⟨"requires_module_directive", seq [
    lit "requires", many (field "modifiers" (ref "requires_modifier")),
    field "module" (ref "_name"), lit ";"]⟩,
  ⟨"requires_modifier", choice [lit "transitive", lit "static"]⟩,
  ⟨"exports_module_directive", seq [
    lit "exports", field "package" (ref "_name"), optional (lit "to"),
    optional (field "modules" (ref "_name")),
    many (seq [lit ",", field "modules" (ref "_name")]), lit ";"]⟩,
  ⟨"opens_module_directive", seq [
    lit "opens", field "package" (ref "_name"), optional (lit "to"),
    optional (field "modules" (ref "_name")),
    many (seq [lit ",", field "modules" (ref "_name")]), lit ";"]⟩,
  ⟨"uses_module_directive", seq [lit "uses", field "type" (ref "_name"), lit ";"]⟩,
  ⟨"provides_module_directive", seq [
    lit "provides", field "provided" (ref "_name"), lit "with", ref "_name",
    many (seq [lit ",", field "provider" (ref "_name")]), lit ";"]⟩,
  ⟨"package_declaration", seq [annotations, lit "package", ref "_name", lit ";"]⟩,
  ⟨"import_declaration", seq [
    lit "import", optional (lit "static"), ref "_name",
    optional (seq [lit ".", ref "asterisk"]), lit ";"]⟩,
  ⟨"asterisk", lit "*"⟩,
  ⟨"enum_declaration", seq [
    optional (ref "modifiers"), lit "enum", field "name" (ref "identifier"),
    field "interfaces" (optional (ref "super_interfaces")), field "body" (ref "enum_body")]⟩,
  ⟨"enum_body", seq [
    lit "\x7b", commaSep (ref "enum_constant"), optional (lit ","),
    optional (ref "enum_body_declarations"), lit "\x7d"]⟩,
  ⟨"enum_body_declarations", seq [lit ";", many (ref "_class_body_declaration")]⟩,
  ⟨"enum_constant", seq [
    optional (ref "modifiers"), field "name" (ref "identifier"),
    field "arguments" (optional (ref "argument_list")),
    field "body" (optional (ref "class_body"))]⟩,
  ⟨"class_declaration", seq [
    optional (ref "modifiers"), lit "class", field "name" (ref "identifier"),
    optional (field "type_parameters" (ref "type_parameters")),
    optional (field "superclass" (ref "superclass")),
    optional (field "interfaces" (ref "super_interfaces")),
    optional (field "permits" (ref "permits")), field "body" (ref "class_body")]⟩,
  ⟨"modifiers", many1 (choice (ref "_annotation" :: modifierWords.map lit))⟩,
  ⟨"type_parameters", seq [lit "<", commaSep1 (ref "type_parameter"), lit ">"]⟩,
  ⟨"type_parameter", seq [annotations, typeName, optional (ref "type_bound")]⟩,
  ⟨"type_bound", seq [lit "extends", ref "_type", many (seq [lit "&", ref "_type"])]⟩,
  ⟨"superclass", seq [lit "extends", ref "_type"]⟩,
  ⟨"super_interfaces", seq [lit "implements", ref "type_list"]⟩,
  ⟨"type_list", seq [ref "_type", many (seq [lit ",", ref "_type"])]⟩,
  ⟨"permits", seq [lit "permits", ref "type_list"]⟩,
  ⟨"class_body", seq [lit "\x7b", many (ref "_class_body_declaration"), lit "\x7d"]⟩,
  ⟨"_class_body_declaration", choice ((["field_declaration", "record_declaration",
    "method_declaration", "compact_constructor_declaration", "class_declaration",
    "interface_declaration", "annotation_type_declaration", "enum_declaration", "block",
    "static_initializer", "constructor_declaration"].map ref) ++ [lit ";"])⟩,
  ⟨"static_initializer", seq [lit "static", ref "block"]⟩,
  ⟨"constructor_declaration", seq [
    optional (ref "modifiers"), ref "_constructor_declarator", optional (ref "throws"),
    field "body" (ref "constructor_body")]⟩,
  ⟨"_constructor_declarator", seq [
    field "type_parameters" (optional (ref "type_parameters")),
    field "name" (ref "identifier"), field "parameters" (ref "formal_parameters")]⟩,
  ⟨"constructor_body", seq [
    lit "\x7b", optional (ref "explicit_constructor_invocation"), many (ref "statement"),
    lit "\x7d"]⟩,
  ⟨"explicit_constructor_invocation", seq [
    choice [
      seq [field "type_arguments" (optional (ref "type_arguments")),
        field "constructor" (choice [ref "this", ref "super"])],
      seq [field "object" (choice [ref "primary_expression"]), lit ".",
        field "type_arguments" (optional (ref "type_arguments")),
        field "constructor" (ref "super")]],
    field "arguments" (ref "argument_list"), lit ";"]⟩,
  ⟨"_name", choice [ref "identifier", ref "_reserved_identifier", ref "scoped_identifier"]⟩,
  ⟨"scoped_identifier", seq [
    field "scope" (ref "_name"), lit ".", field "name" anyName]⟩,
  ⟨"field_declaration", seq [
    optional (ref "modifiers"), field "type" (ref "_unannotated_type"),
    ref "_variable_declarator_list", lit ";"]⟩,
  ⟨"record_declaration", seq [
    optional (ref "modifiers"), lit "record", field "name" (ref "identifier"),
    optional (field "type_parameters" (ref "type_parameters")),
    field "parameters" (ref "formal_parameters"),
    optional (field "interfaces" (ref "super_interfaces")), field "body" (ref "class_body")]⟩,
  ⟨"annotation_type_declaration", seq [
    optional (ref "modifiers"), lit "@interface", field "name" (ref "identifier"),
    field "body" (ref "annotation_type_body")]⟩,
  ⟨"annotation_type_body", seq [lit "\x7b",
    many (choice ((["annotation_type_element_declaration", "constant_declaration",
      "class_declaration", "interface_declaration", "enum_declaration",
      "annotation_type_declaration"].map ref) ++ [lit ";"])),
    lit "\x7d"]⟩,
  ⟨"annotation_type_element_declaration", seq [
    optional (ref "modifiers"), field "type" (ref "_unannotated_type"), field "name" anyName,
    lit "(", lit ")", field "dimensions" (optional (ref "dimensions")),
    optional (ref "_default_value"), lit ";"]⟩,
  ⟨"_default_value", seq [lit "default", field "value" (ref "_element_value")]⟩,
  ⟨"interface_declaration", seq [
    optional (ref "modifiers"), lit "interface", field "name" (ref "identifier"),
    field "type_parameters" (optional (ref "type_parameters")),
    optional (ref "extends_interfaces"), optional (field "permits" (ref "permits")),
    field "body" (ref "interface_body")]⟩,
  ⟨"extends_interfaces", seq [lit "extends", ref "type_list"]⟩,
  ⟨"interface_body", seq [lit "\x7b",
    many (choice ((["constant_declaration", "enum_declaration", "method_declaration",
      "class_declaration", "interface_declaration", "record_declaration",
      "annotation_type_declaration"].map ref) ++ [lit ";"])),
    lit "\x7d"]⟩,
  ⟨"constant_declaration", seq [
    optional (ref "modifiers"), field "type" (ref "_unannotated_type"),
    ref "_variable_declarator_list", lit ";"]⟩,
  ⟨"_variable_declarator_list", commaSep1 (field "declarator" (ref "variable_declarator"))⟩,
  ⟨"variable_declarator", seq [
    ref "_variable_declarator_id",
    optional (seq [lit "=", field "value" (ref "_variable_initializer")])]⟩,
  ⟨"_variable_declarator_id", choice [
    seq [field "name" anyName, field "dimensions" (optional (ref "dimensions"))],
    ref "underscore_pattern"]⟩,
  ⟨"_variable_initializer", choice [ref "expression", ref "array_initializer"]⟩,
  ⟨"array_initializer", seq [
    lit "\x7b", commaSep (ref "_variable_initializer"), optional (lit ","), lit "\x7d"]⟩]

private def typeRules : List Definition := [
  ⟨"_type", choice [ref "_unannotated_type", ref "annotated_type"]⟩,
  ⟨"_unannotated_type", choice [ref "_simple_type", ref "array_type"]⟩,
  ⟨"_simple_type", choice [ref "void_type", ref "integral_type", ref "floating_point_type",
    ref "boolean_type", typeName, ref "scoped_type_identifier", ref "generic_type"]⟩,
  ⟨"annotated_type", seq [many1 (ref "_annotation"), ref "_unannotated_type"]⟩,
  ⟨"scoped_type_identifier", seq [
    choice [typeName, ref "scoped_type_identifier", ref "generic_type"], lit ".", annotations,
    typeName]⟩,
  ⟨"generic_type", precDynamic levels.generic (seq [
    choice [typeName, ref "scoped_type_identifier"], ref "type_arguments"])⟩,
  ⟨"array_type", seq [
    field "element" (ref "_unannotated_type"), field "dimensions" (ref "dimensions")]⟩,
  ⟨"integral_type", choice (["byte", "short", "int", "long", "char"].map lit)⟩,
  ⟨"floating_point_type", choice (["float", "double"].map lit)⟩,
  ⟨"boolean_type", lit "boolean"⟩,
  ⟨"void_type", lit "void"⟩]

private def methodRules : List Definition := [
  ⟨"_method_header", seq [
    optional (seq [field "type_parameters" (ref "type_parameters"), annotations]),
    field "type" (ref "_unannotated_type"), ref "_method_declarator",
    optional (ref "throws")]⟩,
  ⟨"_method_declarator", seq [
    field "name" anyName, field "parameters" (ref "formal_parameters"),
    field "dimensions" (optional (ref "dimensions"))]⟩,
  ⟨"formal_parameters", seq [lit "(",
    choice [
      ref "receiver_parameter",
      seq [optional (seq [ref "receiver_parameter", lit ","]),
        commaSep (choice [ref "formal_parameter", ref "spread_parameter"])]],
    lit ")"]⟩,
  ⟨"formal_parameter", seq [
    optional (ref "modifiers"), field "type" (ref "_unannotated_type"),
    ref "_variable_declarator_id"]⟩,
  ⟨"receiver_parameter", seq [
    annotations, ref "_unannotated_type", many (seq [ref "identifier", lit "."]),
    ref "this"]⟩,
  ⟨"spread_parameter", seq [
    optional (ref "modifiers"), ref "_unannotated_type", lit "...",
    ref "variable_declarator"]⟩,
  ⟨"throws", seq [lit "throws", commaSep1 (ref "_type")]⟩,
  ⟨"local_variable_declaration", seq [
    optional (ref "modifiers"), field "type" (ref "_unannotated_type"),
    ref "_variable_declarator_list", lit ";"]⟩,
  ⟨"method_declaration", seq [
    optional (ref "modifiers"), ref "_method_header",
    choice [field "body" (ref "block"), lit ";"]]⟩,
  ⟨"compact_constructor_declaration", seq [
    optional (ref "modifiers"), field "name" (ref "identifier"),
    field "body" (ref "block")]⟩,
  ⟨"_reserved_identifier", choice [
    prec (-3) (renamed "identifier"
      (choice (["open", "module", "record", "with", "sealed"].map lit))),
    renamed "identifier" (lit "yield")]⟩,
  ⟨"this", lit "this"⟩,
  ⟨"super", lit "super"⟩,
  ⟨"identifier", tok Lexical.word⟩,
  ⟨"line_comment", tok Lexical.lineComment⟩,
  ⟨"block_comment", tok Lexical.blockComment⟩]

/-- The grammar of Java. -/
def grammar : Ruleset where
  definitions :=
    [⟨"program", many (ref "_toplevel_statement")⟩,
     ⟨"_toplevel_statement", choice [ref "statement", ref "method_declaration"]⟩] ++
    literalRules ++ expressionRules ++ statementRules ++ annotationRules ++ declarationRules ++
    typeRules ++ methodRules
  word := "identifier"
  extras := ["line_comment", "block_comment"]
  blanks := Lexical.blanks
  inlined := ["_name", "_class_body_declaration", "_variable_initializer"]
  groups := ["expression", "declaration", "statement", "primary_expression", "_literal", "_type",
    "_simple_type", "_unannotated_type", "module_directive"]

end JavaLint.Java
