import SubscriberContract.Model.Span

/-!
# Listener constructions

Of each argument of a construction only the kind of its expression is kept.
-/

namespace SubscriberContract

/-- The syntactic kind of an argument. -/
inductive ExpressionKind
  | nameReference | qualifiedNameReference | mappingConstructor | numericLiteral | stringLiteral
  | functionCall | newExpression | other
deriving DecidableEq, Repr

namespace ExpressionKind

def name : ExpressionKind → String
  | .nameReference => "nameReference"
  | .qualifiedNameReference => "qualifiedNameReference"
  | .mappingConstructor => "mappingConstructor"
  | .numericLiteral => "numericLiteral"
  | .stringLiteral => "stringLiteral"
  | .functionCall => "functionCall"
  | .newExpression => "newExpression"
  | .other => "other"

def all : List ExpressionKind :=
  [.nameReference, .qualifiedNameReference, .mappingConstructor, .numericLiteral, .stringLiteral,
    .functionCall, .newExpression, .other]

/-- Whether such an argument could stand for a port, a listener or a configuration alike. -/
def isAmbiguous : ExpressionKind → Bool
  | .nameReference | .mappingConstructor => true
  | _ => false

end ExpressionKind

inductive Argument
  | positional (expression : ExpressionKind)
  | named (name : String) (expression : ExpressionKind)
  /-- The spread of a list, `...expr`. -/
  | rest (expression : ExpressionKind)
deriving DecidableEq, Repr

def Argument.expression : Argument → ExpressionKind
  | .positional e | .named _ e | .rest e => e

/-- A place where a listener is constructed; a bare `new` has no argument list. -/
structure Listener where
  span : Span
  arguments : Option (List Argument)
deriving DecidableEq

/-- Whether the first two arguments are both ambiguous, so that a call with the configuration
first could not be told apart. -/
def Listener.isAmbiguous (l : Listener) : Bool :=
  match l.arguments with
  | some (a :: b :: _) => a.expression.isAmbiguous && b.expression.isAmbiguous
  | _ => false

end SubscriberContract
