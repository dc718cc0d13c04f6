import SubscriberContract.Proofs.Exchange.TypeShape

/-!
# The grammar of module identities

A text is read as a module identity if it is an organisation, `/`, a name, `:` and a version, where
the organisation ends at the first `/` and the name at the first `:` behind it. Both separators may
stand in the version, `:` in the organisation and `/` in the name, so it has to be shown that a text
falls into such parts in one way only; then reading is the inverse of printing for the identities
with such parts, and for no others.
-/

namespace SubscriberContract.ModuleId

/-- The text falls into the parts of the identity: none is empty, and those that a separator ends do
not hold it. -/
structure Decomposes (text : String) (m : ModuleId) : Prop where
  joined : text = m.org ++ "/" ++ m.name ++ ":" ++ m.version
  org_ne_empty : m.org ≠ ""
  org_free : '/' ∉ m.org.toList
  name_ne_empty : m.name ≠ ""
  name_free : ':' ∉ m.name.toList
  version_ne_empty : m.version ≠ ""

variable {text text' : String} {m m' : ModuleId}

theorem decomposes_iff : Decomposes text m ↔ m.WellFormed ∧ text = m.print := by
  constructor
  · rintro ⟨hjoined, horg, hslash, hname, hcolon, hversion⟩
    exact ⟨⟨horg, hslash, hname, hcolon, hversion⟩, hjoined⟩
  · rintro ⟨⟨horg, hslash, hname, hcolon, hversion⟩, hjoined⟩
    exact ⟨hjoined, horg, hslash, hname, hcolon, hversion⟩

theorem parse_eq_ok_iff_decomposes : parse text = .ok m ↔ Decomposes text m :=
  parse_eq_ok_iff.trans decomposes_iff.symm

theorem Decomposes.unique (h : Decomposes text m) (h' : Decomposes text m') : m = m' := by
  have hparse := parse_eq_ok_iff_decomposes.mpr h
  rw [parse_eq_ok_iff_decomposes.mpr h'] at hparse
  exact (Except.ok.inj hparse).symm

theorem parse_eq_error_iff {e : Mismatch} :
    parse text = .error e ↔ (∀ m, ¬ Decomposes text m) ∧ e = .refused (malformed text) := by
  have hnone : parse? text = none ↔ ∀ m, ¬ Decomposes text m := by
    rw [Option.eq_none_iff_forall_ne_some]
    refine forall_congr' fun m => not_congr ?_
    rw [parse?_eq_some_iff, decomposes_iff]
  rw [← hnone, parse]
  cases parse? text with
  | none => simp [eq_comm]
  | some m => simp

/-- What is said of a malformed text says which text it is. -/
theorem malformed_inj : malformed text = malformed text' ↔ text = text' := by
  unfold malformed
  simp [toString]

/-- **The grammar of module identities.** A text is read as an identity exactly if it falls into the
parts of this identity, which it does in one way only, and the identity is printed as the text; any
other text is refused, by a reason that gives the text. And an identity put together from any three
texts is read back from its printed form exactly if none of them is empty, the organisation holds no
`/` and the name no `:`. -/
theorem parse_grammar :
    (∀ text : String,
      (∀ m, parse text = .ok m ↔ Decomposes text m ∧ m.print = text) ∧
      ((∃ m, Decomposes text m) ↔ ∃! m, Decomposes text m) ∧
      (∀ e, parse text = .error e ↔
        (¬ ∃ m, Decomposes text m) ∧ e = .refused (malformed text)) ∧
      ∀ text', malformed text = malformed text' ↔ text = text') ∧
    ∀ org name version : String,
      parse (print ⟨org, name, version⟩) = .ok ⟨org, name, version⟩ ↔
        (org ≠ "" ∧ '/' ∉ org.toList) ∧ (name ≠ "" ∧ ':' ∉ name.toList) ∧ version ≠ "" := by
  refine ⟨fun text => ⟨fun m => ?_, ?_, fun e => ?_, fun text' => malformed_inj⟩, ?_⟩
  · rw [parse_eq_ok_iff_decomposes]
    exact ⟨fun h => ⟨h, (decomposes_iff.mp h).2.symm⟩, And.left⟩
  · exact ⟨fun ⟨m, h⟩ => ⟨m, h, fun m' h' => h'.unique h⟩, ExistsUnique.exists⟩
  · rw [parse_eq_error_iff, not_exists]
  · intro org name version
    rw [parse_eq_ok_iff, and_iff_left rfl]
    unfold WellFormed
    tauto

/-- The separators that do not end a part belong to it. -/
example : parse "a:b/c/d:e/f:g" = .ok ⟨"a:b", "c/d", "e/f:g"⟩ := by decide

end SubscriberContract.ModuleId
