import QueryTree.Kind

/-!
# What can go wrong

Errors are causes. What a user is told about them is in `Error.message`.
-/
namespace QueryTree

/-- Why a JSON value is no tree although every kind in it is known. -/
inductive Defect
  /-- A mandatory field is left out. -/
  | missingField (name : String)
  /-- A choice from a closed list is not on the list. -/
  | unknownVariant (name : String)
  /-- Raw text has too few or too many fragments for its parameters. -/
  | rawArity (fragments parameters : Nat)
  /-- Something of the wrong form stands in a place, or the text is no JSON. -/
  | unfit
  deriving DecidableEq, Repr

inductive Error
  | invalidExpression (shown : String)
  | unknownKind (tag : String)
  | notRoot (kind : Kind)
  | kindChanged (before after : Kind)
  | rawArity (fragments parameters : Nat)
  | unknownDialect (name : String)
  | badConfig
  | malformed (defect : Defect)
  | unreadable (reason : String)
  deriving DecidableEq, Repr

def arityMessage (fragments parameters : Nat) : String :=
  "Raw node has " ++ toString fragments ++ " SQL fragments for " ++ toString parameters ++
    " parameters"

namespace Defect

def message : Defect → String
  | missingField name => "missing field `" ++ name ++ "`"
  | unknownVariant name => "unknown variant `" ++ name ++ "`"
  | rawArity fragments parameters => arityMessage fragments parameters
  | unfit => ""

end Defect

namespace Error

def message : Error → String
  | invalidExpression shown => "Invalid expression: " ++ shown
  | unknownKind tag => "Unknown operation node kind: '" ++ tag ++ "'"
  | notRoot kind => kind.name ++ " is not a root operation node"
  | kindChanged before after =>
    "Transformer changed node kind from " ++ before.name ++ " to " ++ after.name
  | rawArity fragments parameters => arityMessage fragments parameters
  | unknownDialect name => "Configuration error: Unknown dialect: '" ++ name ++ "'"
  | badConfig => "Configuration error: "
  | malformed defect => "JSON error: " ++ defect.message
  | unreadable reason => "IO error: " ++ reason

end Error

end QueryTree
