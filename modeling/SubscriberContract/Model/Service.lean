import SubscriberContract.Model.Span
import SubscriberContract.Model.TypeShape

/-!
# Service declarations

A subscriber service with its annotations and methods, as a front end exports it. A method carries
its signature only when the front end could resolve one.
-/

namespace SubscriberContract

/-- A keyword in front of a method declaration. -/
inductive Qualifier
  | remote | resource | isolated | publicAccess | privateAccess | transactional
deriving DecidableEq, Repr

namespace Qualifier

def keyword : Qualifier → String
  | .remote => "remote"
  | .resource => "resource"
  | .isolated => "isolated"
  | .publicAccess => "public"
  | .privateAccess => "private"
  | .transactional => "transactional"

def all : List Qualifier :=
  [.remote, .resource, .isolated, .publicAccess, .privateAccess, .transactional]

end Qualifier

/-- An annotation on a service; the name is absent where the front end could not resolve it. -/
structure Annotation where
  name : Option String
  origin : Option String
deriving DecidableEq, Repr

def Annotation.named (name : String) : Annotation := ⟨some name, none⟩

/-- Parameter types, and the return type where one is declared. -/
structure Signature where
  params : List TypeShape
  result : Option TypeShape
deriving DecidableEq, Repr

structure Method where
  name : String
  qualifiers : List Qualifier
  span : Span
  signature : Option Signature
deriving DecidableEq

namespace Method

/-- A method without qualifiers and signature. -/
def bare (name : String) (span : Span) : Method := ⟨name, [], span, none⟩

def isRemote (m : Method) : Bool := m.qualifiers.contains .remote

/-- Adds a qualifier that the method does not have yet. -/
def qualify (m : Method) (q : Qualifier) : Method :=
  if m.qualifiers.contains q then m else { m with qualifiers := m.qualifiers ++ [q] }

end Method

structure Service where
  span : Span
  annotations : List Annotation
  methods : List Method
deriving DecidableEq

/-- A service without annotations and methods. -/
def Service.empty (span : Span) : Service := ⟨span, [], []⟩

end SubscriberContract
