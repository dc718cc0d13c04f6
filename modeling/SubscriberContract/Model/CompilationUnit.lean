import SubscriberContract.Model.Listener
import SubscriberContract.Model.Service

/-!
# Compilation units

What a front end extracts from one source file.
-/

namespace SubscriberContract

structure CompilationUnit where
  /-- The path of the source, relative to the unit file. -/
  source : Option String
  listeners : List Listener
  services : List Service
deriving DecidableEq

instance : Inhabited CompilationUnit := ⟨⟨none, [], []⟩⟩

end SubscriberContract
