import SubscriberContract.Model.ModuleId
import SubscriberContract.Text.Blank

/-!
# Type shapes

The types of a method's parameters and result, reduced to what the callback contract tells apart:
named types, unions, error types and nil. `leaves` flattens unions; the return check looks at
nothing else. `description` is the text of a type in messages.
-/

namespace SubscriberContract

inductive TypeShape
  /-- A named type; without an origin it belongs to the service's own module. -/
  | reference (origin : Option String) (name : String)
  /-- The alternatives of a union type; `T?` is the union of `T` and nil. -/
  | union (members : List TypeShape)
  /-- An error type, known by its printed signature. -/
  | error (origin : Option ModuleId) (signature : String)
  | nil
  /-- Any other type. -/
  | other (signature : String)
deriving Repr, BEq

/-- `origin:name`, or the bare name where the origin is absent or blank. -/
def qualify (origin : Option String) (name : String) : String :=
  match Text.trimBlanks (origin.getD "").toList with
  | [] => name
  | c :: s => String.ofList (c :: s) ++ ":" ++ name

namespace TypeShape

mutual

protected def decEq : (a b : TypeShape) → Decidable (a = b)
  | .reference o n, .reference o' n' =>
    decidable_of_iff (o = o' ∧ n = n') (by simp)
  | .union ms, .union ms' =>
    match TypeShape.decEqList ms ms' with
    | .isTrue h => .isTrue (by rw [h])
    | .isFalse h => .isFalse (by simpa using h)
  | .error o s, .error o' s' => decidable_of_iff (o = o' ∧ s = s') (by simp)
  | .nil, .nil => .isTrue rfl
  | .other s, .other s' => decidable_of_iff (s = s') (by simp)
  | .reference .., .union .. | .reference .., .error .. | .reference .., .nil
  | .reference .., .other .. | .union .., .reference .. | .union .., .error .. | .union .., .nil
  | .union .., .other .. | .error .., .reference .. | .error .., .union .. | .error .., .nil
  | .error .., .other .. | .nil, .reference .. | .nil, .union .. | .nil, .error ..
  | .nil, .other .. | .other .., .reference .. | .other .., .union .. | .other .., .error ..
  | .other .., .nil => .isFalse (by simp)

protected def decEqList : (a b : List TypeShape) → Decidable (a = b)
  | [], [] => .isTrue rfl
  | a :: as, b :: bs =>
    match TypeShape.decEq a b with
    | .isTrue h =>
      match TypeShape.decEqList as bs with
      | .isTrue h' => .isTrue (by rw [h, h'])
      | .isFalse h' => .isFalse fun e => h' (List.cons.inj e).2
    | .isFalse h => .isFalse fun e => h (List.cons.inj e).1
  | [], _ :: _ | _ :: _, [] => .isFalse (by simp)

end

instance : DecidableEq TypeShape := TypeShape.decEq

/-- A named type declared in module `origin`; the empty text stands for no module. -/
def named (origin name : String) : TypeShape :=
  .reference (if origin = "" then none else some origin) name

/-- `T?`. -/
def optional (t : TypeShape) : TypeShape := .union [t, .nil]

def isNil : TypeShape → Bool
  | .nil => true
  | _ => false

/-- The name of an error type: its signature without the printed module identity and without
colons, qualified with the module's short name. -/
def errorName : Option ModuleId → String → String
  | none, signature => String.ofList (Text.erase [':'] signature.toList)
  | some m, signature =>
    qualify (some m.shortName)
      (String.ofList (Text.erase [':'] (Text.erase m.print.toList signature.toList)))

/-- The name by which the contract knows a type, for the shapes that have one. -/
def qualifiedName? : TypeShape → Option String
  | .reference origin name => some (qualify origin name)
  | .error origin signature => some (errorName origin signature)
  | .union _ | .nil | .other _ => none

/-- The text of a union, from its members and their texts: `T?` where one member is left beside
nils, else the alternatives. -/
def describeUnion (members : List TypeShape) (texts : List String) : String :=
  match (members.zip texts).filter fun p => !p.1.isNil with
  | [(_, text)] => if members.any isNil then text ++ "?" else "|".intercalate texts
  | _ => "|".intercalate texts

mutual

/-- The text of a type in messages. -/
def description : TypeShape → String
  | .reference origin name => qualify origin name
  | .union members => describeUnion members (descriptions members)
  | .error origin signature => errorName origin signature
  | .nil => "()"
  | .other signature => signature

def descriptions : List TypeShape → List String
  | [] => []
  | t :: ts => t.description :: descriptions ts

end

mutual

/-- The alternatives of a type, unions flattened at every depth. -/
def leaves : TypeShape → List TypeShape
  | .union members => leavesOf members
  | t => [t]

def leavesOf : List TypeShape → List TypeShape
  | [] => []
  | t :: ts => t.leaves ++ leavesOf ts

end

end TypeShape
end SubscriberContract
