import InjectionLint.Tree.Basic

/-!
The names that a binding pattern introduces. Default values, property keys and type annotations are no
part of what is bound.
-/

set_option autoImplicit false

namespace InjectionLint

namespace Tree

mutual

/-- The nodes that name what a pattern binds, from left to right. -/
def boundNames : Tree → List Tree
  | .node label children =>
    match label.kind with
    | .identifier | .shorthandPropertyIdentifierPattern => [.node label children]
    | .assignmentPattern | .objectAssignmentPattern => boundInRole .left children
    | .pairPattern => boundInRole .value children
    | .requiredParameter | .optionalParameter => boundInRole .pattern children
    | .restPattern | .objectPattern | .arrayPattern => boundInEach children
    | _ => []

def boundInRole (field : Field) : List Tree → List Tree
  | [] => []
  | tree :: rest => if tree.label.field = some field then boundNames tree else boundInRole field rest

def boundInEach : List Tree → List Tree
  | [] => []
  | tree :: rest => (if tree.isNamed then boundNames tree else []) ++ boundInEach rest

end

end Tree

end InjectionLint
