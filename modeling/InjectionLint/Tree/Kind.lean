/-!
Names of the grammars: the kinds of syntax nodes and the labels that tie a child to its parent. The
kinds that scopes and rules tell apart have a constructor; `other` keeps the name of any other kind.
-/

set_option autoImplicit false

namespace InjectionLint

inductive Kind where
  | program
  | functionDeclaration
  | functionExpression
  | functionKeyword
  | generatorFunction
  | generatorFunctionDeclaration
  | arrowFunction
  | methodDefinition
  | statementBlock
  | switchBody
  | forStatement
  | forInStatement
  | catchClause
  | lexicalDeclaration
  | variableDeclaration
  | variableDeclarator
  | classDeclaration
  | classExpression
  | parenthesizedExpression
  | binaryExpression
  | templateString
  | templateSubstitution
  | callExpression
  | memberExpression
  | subscriptExpression
  | identifier
  | undefinedValue
  | stringLiteral
  | numberLiteral
  | trueLiteral
  | falseLiteral
  | escapeSequence
  | comment
  | shorthandPropertyIdentifier
  | shorthandPropertyIdentifierPattern
  | propertyIdentifier
  | typeIdentifier
  | assignmentPattern
  | objectAssignmentPattern
  | pairPattern
  | requiredParameter
  | optionalParameter
  | restPattern
  | objectPattern
  | arrayPattern
  | plus
  | letKeyword
  | constKeyword
  | varKeyword
  | other (name : String)
  deriving DecidableEq, Repr

namespace Kind

def name : Kind → String
  | .program => "program"
  | .functionDeclaration => "function_declaration"
  | .functionExpression => "function_expression"
  | .functionKeyword => "function"
  | .generatorFunction => "generator_function"
  | .generatorFunctionDeclaration => "generator_function_declaration"
  | .arrowFunction => "arrow_function"
  | .methodDefinition => "method_definition"
  | .statementBlock => "statement_block"
  | .switchBody => "switch_body"
  | .forStatement => "for_statement"
  | .forInStatement => "for_in_statement"
  | .catchClause => "catch_clause"
  | .lexicalDeclaration => "lexical_declaration"
  | .variableDeclaration => "variable_declaration"
  | .variableDeclarator => "variable_declarator"
  | .classDeclaration => "class_declaration"
  | .classExpression => "class"
  | .parenthesizedExpression => "parenthesized_expression"
  | .binaryExpression => "binary_expression"
  | .templateString => "template_string"
  | .templateSubstitution => "template_substitution"
  | .callExpression => "call_expression"
  | .memberExpression => "member_expression"
  | .subscriptExpression => "subscript_expression"
  | .identifier => "identifier"
  | .undefinedValue => "undefined"
  | .stringLiteral => "string"
  | .numberLiteral => "number"
  | .trueLiteral => "true"
  | .falseLiteral => "false"
  | .escapeSequence => "escape_sequence"
  | .comment => "comment"
  | .shorthandPropertyIdentifier => "shorthand_property_identifier"
  | .shorthandPropertyIdentifierPattern => "shorthand_property_identifier_pattern"
  | .propertyIdentifier => "property_identifier"
  | .typeIdentifier => "type_identifier"
  | .assignmentPattern => "assignment_pattern"
  | .objectAssignmentPattern => "object_assignment_pattern"
  | .pairPattern => "pair_pattern"
  | .requiredParameter => "required_parameter"
  | .optionalParameter => "optional_parameter"
  | .restPattern => "rest_pattern"
  | .objectPattern => "object_pattern"
  | .arrayPattern => "array_pattern"
  | .plus => "+"
  | .letKeyword => "let"
  | .constKeyword => "const"
  | .varKeyword => "var"
  | .other name => name

def ofName : String → Kind
  | "program" => .program
  | "function_declaration" => .functionDeclaration
  | "function_expression" => .functionExpression
  | "function" => .functionKeyword
  | "generator_function" => .generatorFunction
  | "generator_function_declaration" => .generatorFunctionDeclaration
  | "arrow_function" => .arrowFunction
  | "method_definition" => .methodDefinition
  | "statement_block" => .statementBlock
  | "switch_body" => .switchBody
  | "for_statement" => .forStatement
  | "for_in_statement" => .forInStatement
  | "catch_clause" => .catchClause
  | "lexical_declaration" => .lexicalDeclaration
  | "variable_declaration" => .variableDeclaration
  | "variable_declarator" => .variableDeclarator
  | "class_declaration" => .classDeclaration
  | "class" => .classExpression
  | "parenthesized_expression" => .parenthesizedExpression
  | "binary_expression" => .binaryExpression
  | "template_string" => .templateString
  | "template_substitution" => .templateSubstitution
  | "call_expression" => .callExpression
  | "member_expression" => .memberExpression
  | "subscript_expression" => .subscriptExpression
  | "identifier" => .identifier
  | "undefined" => .undefinedValue
  | "string" => .stringLiteral
  | "number" => .numberLiteral
  | "true" => .trueLiteral
  | "false" => .falseLiteral
  | "escape_sequence" => .escapeSequence
  | "comment" => .comment
  | "shorthand_property_identifier" => .shorthandPropertyIdentifier
  | "shorthand_property_identifier_pattern" => .shorthandPropertyIdentifierPattern
  | "property_identifier" => .propertyIdentifier
  | "type_identifier" => .typeIdentifier
  | "assignment_pattern" => .assignmentPattern
  | "object_assignment_pattern" => .objectAssignmentPattern
  | "pair_pattern" => .pairPattern
  | "required_parameter" => .requiredParameter
  | "optional_parameter" => .optionalParameter
  | "rest_pattern" => .restPattern
  | "object_pattern" => .objectPattern
  | "array_pattern" => .arrayPattern
  | "+" => .plus
  | "let" => .letKeyword
  | "const" => .constKeyword
  | "var" => .varKeyword
  | name => .other name

def isFunction : Kind → Bool
  | .functionDeclaration | .functionExpression | .functionKeyword | .generatorFunction
  | .generatorFunctionDeclaration | .arrowFunction | .methodDefinition => true
  | _ => false

def isName : Kind → Bool
  | .identifier | .undefinedValue | .shorthandPropertyIdentifier
  | .shorthandPropertyIdentifierPattern | .propertyIdentifier | .typeIdentifier => true
  | _ => false

end Kind

inductive Field where
  | function
  | arguments
  | left
  | right
  | operator
  | optionalChain
  | body
  | parameter
  | parameters
  | name
  | value
  | kind
  | pattern
  | other (name : String)
  deriving DecidableEq, Repr

namespace Field

def ofName? : String → Option Field
  | "" => none
  | "function" => some .function
  | "arguments" => some .arguments
  | "left" => some .left
  | "right" => some .right
  | "operator" => some .operator
  | "optional_chain" => some .optionalChain
  | "body" => some .body
  | "parameter" => some .parameter
  | "parameters" => some .parameters
  | "name" => some .name
  | "value" => some .value
  | "kind" => some .kind
  | "pattern" => some .pattern
  | label => some (.other label)

end Field

end InjectionLint
