import SubscriberContract.Json.Tagged
import SubscriberContract.Model.TypeShape

/-!
# Types in unit files

A module identity is a text, and a type shape is a union tagged by `kind`. The members of a union
type are read from kept trees, level by level; a tree has no more levels than its depth.
-/

namespace SubscriberContract

open Json (FromTree Format Tagged Members)

def textFromTree : FromTree String
  | .text s => .ok s
  | j => .error (.wrongType j.found "a string")

/-- Null or a value. -/
def optionFromTree {α : Type} (item : FromTree α) : FromTree (Option α)
  | .null => .ok none
  | j => (item j).map some

def listFromTree {α : Type} (item : FromTree α) : FromTree (List α)
  | .array items => items.mapM item
  | j => .error (.wrongType j.found "a sequence")

namespace ModuleId

def parse (text : String) : Except Mismatch ModuleId :=
  match parse? text with
  | some m => .ok m
  | none => .error (.refused (malformed text))

def format : Format ModuleId := Format.parsed parse print

def fromTree : FromTree ModuleId := fun j => textFromTree j >>= parse

end ModuleId

namespace TypeShape

def variants : List String := ["reference", "union", "error", "nil", "other"]

/-- The tag of a type is its `kind`. -/
def tagged (build : String → FromTree TypeShape) : Tagged TypeShape :=
  ⟨"kind", "TypeShape", variants, build⟩

/-- Reads a variant from what stands beside the tag; `member` reads a member of a union. -/
def build (member : FromTree TypeShape) (variant : String) : FromTree TypeShape := fun j =>
  match variant with
  | "reference" => do
    let ms := Members.defaulted "module" (optionFromTree textFromTree) none <|
      Members.required "name" textFromTree .done
    let (origin, name, ()) ← ms.ofTree "struct variant TypeShape::Reference" j
    return .reference origin name
  | "union" => do
    let ms := Members.required "members" (listFromTree member) .done
    let (members, ()) ← ms.ofTree "struct variant TypeShape::Union" j
    return .union members
  | "error" => do
    let ms := Members.defaulted "module" (optionFromTree ModuleId.fromTree) none <|
      Members.required "signature" textFromTree .done
    let (origin, signature, ()) ← ms.ofTree "struct variant TypeShape::Error" j
    return .error origin signature
  | "nil" =>
    match j with
    | .array (i :: items) => .error (.wrongLength (i :: items).length "0 elements in sequence")
    | _ => .ok .nil
  | _ => do
    let ms := Members.required "signature" textFromTree .done
    let (signature, ()) ← ms.ofTree "struct variant TypeShape::Other" j
    return .other signature

/-- Reads a type from a tree of at most `levels` levels. -/
def fromTree : (levels : Nat) → FromTree TypeShape
  | 0, _ => .error (.missingMember "kind")
  | levels + 1, j => do
    let u := tagged fun _ _ => .error (.missingMember "kind")
    let (variant, beside) ← u.split j
    build (fromTree levels) variant beside

mutual

def tree : TypeShape → Json
  | .reference origin name => .object
    [("kind", .text "reference"), ("module", origin.elim .null .text), ("name", .text name)]
  | .union members => .object [("kind", .text "union"), ("members", .array (trees members))]
  | .error origin signature => .object
    [("kind", .text "error"), ("module", origin.elim .null fun m => .text m.print),
      ("signature", .text signature)]
  | .nil => .object [("kind", .text "nil")]
  | .other signature => .object [("kind", .text "other"), ("signature", .text signature)]

def trees : List TypeShape → List Json
  | [] => []
  | t :: ts => t.tree :: trees ts

end

def format : Format TypeShape :=
  Tagged.format
    (tagged fun variant beside => build (fromTree (beside.depth + 1)) variant beside) tree

end TypeShape
end SubscriberContract
