import SubscriberContract.Model.TypeShape

/-!
# The callback contract

A subscriber service may declare three callbacks. Each takes one parameter type and returns one of
a fixed set of types; two of them may return nothing.
-/

namespace SubscriberContract

/-- The rule for one callback. Types are given by qualified name. -/
structure Callback where
  name : String
  parameters : List String
  /-- The return types in the order in which messages list them. -/
  returns : List String
  /-- Whether the return type may be absent or nil. -/
  nilAllowed : Bool
deriving DecidableEq, Repr

namespace Callback

def acceptsParameter (c : Callback) (name : String) : Bool := c.parameters.contains name

def acceptsReturn (c : Callback) (name : String) : Bool := c.returns.contains name

/-- The return types as messages list them. -/
def returnsText (c : Callback) : String := "|".intercalate c.returns

end Callback

namespace Contract

/-- The annotation that marks a subscriber service. -/
def marker : String := "SubscriberServiceConfig"

/-- The one callback that a service must declare. -/
def notification : String := "onEventNotification"

def onVerification : Callback where
  name := "onSubscriptionVerification"
  parameters := ["websub:SubscriptionVerification"]
  returns := ["websub:SubscriptionVerificationSuccess", "websub:SubscriptionVerificationError"]
  nilAllowed := false

def onDenial : Callback where
  name := "onSubscriptionValidationDenied"
  parameters := ["websub:SubscriptionDeniedError"]
  returns := ["websub:Acknowledgement"]
  nilAllowed := true

def onNotification : Callback where
  name := notification
  parameters := ["websub:ContentDistributionMessage"]
  returns := ["websub:Acknowledgement", "websub:SubscriptionDeletedError"]
  nilAllowed := true

def callbacks : List Callback := [onVerification, onDenial, onNotification]

/-- The callback of exactly this name. -/
def find? (name : String) : Option Callback := callbacks.find? (·.name == name)

/-- The contract as it is printed: for each callback its name, parameters and return types. -/
def text : String :=
  String.join <| callbacks.map fun c =>
    let omissible := if c.nilAllowed then " (may be omitted)" else ""
    let parameters := " | ".intercalate c.parameters
    s!"{c.name}\n  parameter: {parameters}\n  returns:   {c.returnsText}{omissible}\n"

end Contract
end SubscriberContract
