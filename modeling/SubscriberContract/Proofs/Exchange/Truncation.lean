import Mathlib.Data.List.TakeWhile
import SubscriberContract.Proofs.Exchange.RoundTrip

/-!
# Cut and padded texts

The text of a stored value shows its own end. If anything is missing the reader says that the text
ended too early, wherever it was cut; if anything but white space follows, it is refused for that.
So neither can be taken for the text of another value.
-/

namespace SubscriberContract

open Json (Format)

/-! ## Texts that show their end -/

namespace Json

variable {α : Type} {f : Format α} {good : α → Prop} {least : Nat}

theorem Format.Faithful.decode_cut (h : f.Faithful good least) {a : α} (ha : good a)
    (hd : (f.tree a).depth ≤ maxDepth) (hn : ∀ n, f.tree a ≠ .number n) {p q : String}
    (hpq : p ++ q = f.encode a) (hq : q ≠ "") : Ended (f.decode p) := by
  have htext : [] ++ (f.tree a).chars = p.toList ++ q.toList := by
    rw [List.nil_append, ← String.toList_append, hpq, Format.encode, Json.compact,
      String.toList_ofList]
  have hne : q.toList ≠ [] := fun he => hq (String.toList_inj.mp he)
  obtain ⟨e, he, hended⟩ | ⟨⟨n, hnumber⟩, -⟩ := h.misses ha hd blank_nil (h.written a) htext hne
  · refine ⟨e, ?_, hended⟩
    unfold Format.decode readWhole
    rw [he]
    rfl
  · exact absurd hnumber (hn n)

theorem Format.Faithful.decode_padded (h : f.Faithful good least) {a : α} (ha : good a)
    (hd : (f.tree a).depth ≤ maxDepth) (hn : ∀ n, f.tree a ≠ .number n) (w : String) :
    f.decode (f.encode a ++ w) = (readEnd w.toList).map fun () => a := by
  have hread := h.takes ha hd blank_nil (h.written a) (follows_of_ne_number hn w.toList)
  unfold Format.decode readWhole
  rw [String.toList_append, Format.encode, Json.compact, String.toList_ofList]
  rw [List.nil_append] at hread
  rw [hread]
  rfl

theorem blank_of_skipSpaces_eq_nil {w : Input} (h : skipSpaces w = []) : Blank w :=
  List.dropWhile_eq_nil_iff.mp h

theorem readEnd_eq_error {w : Input} (hw : ¬ Blank w) :
    ∃ f, readEnd w = .error f ∧ f.fault = .malformed .trailingText := by
  unfold readEnd
  split
  · next h => exact absurd (blank_of_skipSpaces_eq_nil h) hw
  · exact ⟨_, rfl, rfl⟩

end Json

/-! ## The stored types -/

namespace StoredType

/-- Every stored value is written as an object or a text. -/
theorem tree_ne_number (k : StoredType) (v : k.Value) (n : Json.Number) :
    k.format.tree v ≠ .number n := by
  cases k with
  | typeShape =>
    show TypeShape.tree v ≠ .number n
    rw [TypeShape.tree_eq]
    exact nofun
  | argument =>
    show Argument.tree v ≠ .number n
    rw [Argument.tree_eq]
    exact nofun
  | _ => exact nofun

/-- **Cut and padded texts.** Take the text of a value that is decoded from it. Every proper
beginning of the text is refused for ending too early. With something behind it the text is still
decoded, to the same value, if that is only white space, and is refused for it otherwise. -/
theorem decode_cut_padded (k : StoredType) (v : k.Value)
    (h : k.format.decode (k.format.encode v) = .ok v) :
    (∀ p q : String, p ++ q = k.format.encode v → q ≠ "" →
      ∃ f, k.format.decode p = .error f ∧ f.fault.category = .ended) ∧
    ∀ w : String,
      (Json.Blank w.toList → k.format.decode (k.format.encode v ++ w) = .ok v) ∧
      (¬ Json.Blank w.toList → ∃ f, k.format.decode (k.format.encode v ++ w) = .error f ∧
        f.fault = .malformed .trailingText) := by
  obtain ⟨hgood, hdepth⟩ := k.faithful.good_of_decode (by decide) h
  have hnumber := k.tree_ne_number v
  refine ⟨fun p q hpq hq => k.faithful.decode_cut hgood hdepth hnumber hpq hq, fun w => ?_⟩
  rw [k.faithful.decode_padded hgood hdepth hnumber w]
  constructor
  · intro hw
    rw [Json.readEnd_eq_ok hw]
    rfl
  · intro hw
    obtain ⟨f, hf, hfault⟩ := Json.readEnd_eq_error hw
    exact ⟨f, by rw [hf]; rfl, hfault⟩

/-- The text of a method, cut inside an escape and inside a number, padded with white space and with
a brace too many. -/
theorem decode_cut_padded_method :
    let m : Method := ⟨"a\u0007", [], .between 10 40, none⟩
    Method.format.decode (Method.format.encode m) = .ok m ∧
    (∃ f, Method.format.decode "\x7b\"name\":\"a\\u00" = .error f ∧
      f.fault.category = .ended) ∧
    (∃ f, Method.format.decode
      "\x7b\"name\":\"a\\u0007\",\"qualifiers\":[],\"span\":\x7b\"start\":1" = .error f ∧
        f.fault.category = .ended) ∧
    Method.format.decode (Method.format.encode m ++ " \n") = .ok m ∧
    ∃ f, Method.format.decode (Method.format.encode m ++ " \x7d") = .error f ∧
      f.fault = .malformed .trailingText := by
  intro m
  have hm : Method.format.decode (Method.format.encode m) = .ok m := by decide +kernel
  obtain ⟨hcut, hpadded⟩ := decode_cut_padded .method m hm
  refine ⟨hm, ?_, ?_, (hpadded " \n").1 (by decide), (hpadded " \x7d").2 (by decide)⟩
  · exact hcut _
      "07\",\"qualifiers\":[],\"span\":\x7b\"start\":10,\"end\":40\x7d,\"signature\":null\x7d"
      (by decide +kernel) (by decide)
  · exact hcut _ "0,\"end\":40\x7d,\"signature\":null\x7d" (by decide +kernel) (by decide)

end StoredType
end SubscriberContract
