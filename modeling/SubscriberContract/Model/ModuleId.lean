import SubscriberContract.Text.Cut

/-!
# Module identities

A module is named by organisation, name and version and printed `org/name:version`. Reading splits
at the first `/` and then at the first `:`, so printing loses nothing exactly when the organisation
holds no `/`, the name no `:`, and no part is empty.
-/

namespace SubscriberContract

structure ModuleId where
  org : String
  name : String
  version : String
deriving DecidableEq, Repr

namespace ModuleId

def print (m : ModuleId) : String := m.org ++ "/" ++ m.name ++ ":" ++ m.version

/-- The prefix by which source code refers to the module: the last dotted segment of its name. -/
def shortName (m : ModuleId) : String := String.ofList (Text.afterLast '.' m.name.toList)

def parse? (text : String) : Option ModuleId := do
  let (org, rest) ← Text.cutAt? '/' text.toList
  let (name, version) ← Text.cutAt? ':' rest
  if org = [] ∨ name = [] ∨ version = [] then none
  else some ⟨String.ofList org, String.ofList name, String.ofList version⟩

/-- What is said of a text that is no module identity. -/
def malformed (text : String) : String :=
  s!"malformed module id '{text}': expected `org/name:version`"

/-- The parts from which the printed form can be read back. -/
def WellFormed (m : ModuleId) : Prop :=
  m.org ≠ "" ∧ '/' ∉ m.org.toList ∧ m.name ≠ "" ∧ ':' ∉ m.name.toList ∧ m.version ≠ ""

instance (m : ModuleId) : Decidable m.WellFormed := by unfold WellFormed; infer_instance

end ModuleId
end SubscriberContract
