import SubscriberContract.Json.Format
import SubscriberContract.Proofs.Json.Written
import SubscriberContract.Proofs.Outcome

/-!
# What readers give

`Gives read P` says that every value of the reader, whatever text it comes from, has the property.
The loops hand it on from their items and members. A tree is never deeper than the room in which
it was read.
-/

namespace SubscriberContract.Json

variable {α β σ : Type}

/-- Every value that the reader gives has the property. -/
def Gives (read : Reader α) (P : α → Prop) : Prop := ∀ ⦃s a s'⦄, read s = .ok (a, s') → P a

theorem Gives.mono {read : Reader α} {P Q : α → Prop} (h : Gives read P) (hPQ : ∀ a, P a → Q a) :
    Gives read Q := fun _ _ _ hs => hPQ _ (h hs)

theorem Gives.map {read : Reader α} {P : α → Prop} {Q : β → Prop} {f : α → β} (h : Gives read P)
    (hf : ∀ a, P a → Q (f a)) : Gives (fun s => (read s).map fun (a, s) => (f a, s)) Q := by
  intro s b s' hs
  obtain ⟨⟨a, t⟩, ha, hb⟩ := map_eq_ok_iff.mp hs
  obtain ⟨rfl, rfl⟩ := Prod.mk.inj hb
  exact hf a (h ha)

theorem Gives.afterSpaces {read : Reader α} {P : α → Prop} (h : Gives read P) :
    Gives (afterSpaces read) P := by
  intro s a s' hs
  unfold Json.afterSpaces at hs
  split at hs
  · cases hs
  · exact h hs

theorem Gives.enclosed {inside : Reader α} {close : Input → Except Failure Input}
    {leave : Input → Input} {P : α → Prop} (h : Gives inside P) :
    Gives (enclosed inside close leave) P := by
  intro s a s' hs
  unfold Json.enclosed at hs
  split at hs
  · cases hs
  · next b t hi =>
    split at hs
    · cases hs
    · cases hs
      exact h hi

theorem Gives.readItems {item : Reader α} {P : α → Prop} (h : Gives item P) (first : Bool) :
    Gives (readItems item first) fun as => ∀ a ∈ as, P a := by
  have loop : ∀ turns first, Gives (readItemsIn item turns first) fun as => ∀ a ∈ as, P a := by
    intro turns
    induction turns with
    | zero => exact fun _ _ _ _ hs => nomatch hs
    | succ turns ih =>
      intro first s as s' hs
      rw [readItemsIn] at hs
      split at hs
      · cases hs
      · cases hs
        exact List.forall_mem_nil P
      · split at hs
        · cases hs
        · next a t ha =>
          split at hs
          · cases hs
          · next as t has =>
            cases hs
            exact List.forall_mem_cons.mpr ⟨h ha, ih false has⟩
  exact fun s as s' hs => loop _ first hs

/-- What every step of a reader of members keeps, its result has. -/
theorem Gives.readMembers {member : String → σ → Reader σ} {start : σ} {I : σ → Prop}
    (hstart : I start) (hstep : ∀ name a, I a → Gives (member name a) I) :
    Gives (readMembers member start) I := by
  have loop : ∀ turns first a, I a → Gives (readMembersIn member turns first a) I := by
    intro turns
    induction turns with
    | zero => exact fun _ _ _ _ _ _ hs => nomatch hs
    | succ turns ih =>
      intro first a ha s b s' hs
      rw [readMembersIn] at hs
      split at hs
      · cases hs
      · cases hs
        exact ha
      · split at hs
        · cases hs
        · split at hs
          · cases hs
          · next c t hc => exact ih false c (hstep _ a ha hc) hs
  exact fun s b s' hs => loop _ true start hstart hs

/-- A value that does not fit is never given. -/
theorem wrongType_ne_ok {expected : String} {s : Input} {r : α × Input} :
    wrongType expected s ≠ .ok r := by
  intro hs
  unfold wrongType at hs
  split at hs
  · cases hs
  · cases hs
  · split at hs <;> cases hs

/-! ## Trees -/

theorem readScalar_gives : Gives readScalar fun j => j.depth = 0 := by
  intro s j s' hs
  unfold readScalar at hs
  split at hs
  · cases hs
  all_goals try
    obtain ⟨r, -, hr⟩ := map_eq_ok_iff.mp hs
    cases hr
    rfl
  · split at hs
    · obtain ⟨r, -, hr⟩ := map_eq_ok_iff.mp hs
      cases hr
      rfl
    · cases hs

theorem readTreeMember_gives {value : Reader Json} {n : Nat} (h : Gives value fun j => j.depth ≤ n)
    (name : String) {members : List (String × Json)} (hm : ∀ p ∈ members, p.2.depth ≤ n) :
    Gives (readTreeMember value name members) fun members => ∀ p ∈ members, p.2.depth ≤ n := by
  intro s ms s' hs
  unfold readTreeMember at hs
  split at hs
  · cases hs
  · split at hs
    · cases hs
    · next j t hj =>
      cases hs
      exact List.forall_mem_cons.mpr ⟨h hj, hm⟩

/-- A tree is not deeper than the room. -/
theorem readTree_gives (room : Nat) : Gives (readTree room) fun j => j.depth ≤ room := by
  induction room with
  | zero =>
    intro s j s' hs
    rw [readTree] at hs
    split at hs
    · cases hs
    · cases hs
    · exact Nat.le_of_eq (readScalar_gives hs)
  | succ room ih =>
    intro s j s' hs
    rw [readTree] at hs
    split at hs
    · have hlist : Gives (inList (readItems (readTree room) true)) fun items =>
          ∀ j ∈ items, j.depth ≤ room := (ih.readItems true).enclosed
      exact hlist.map (Q := fun j => j.depth ≤ room + 1) (f := array)
        (fun _ hitems => depth_array_le.mpr hitems) hs
    · have hobject : Gives (inObject (readMembers (readTreeMember (readTree room)) []))
          fun members => ∀ p ∈ members, p.2.depth ≤ room :=
        (Gives.readMembers (List.forall_mem_nil _) fun name _ hm =>
          readTreeMember_gives ih name hm).enclosed
      refine hobject.map (Q := fun j => j.depth ≤ room + 1) (f := fun ms => object ms.reverse)
        (fun members hm => depth_object_le.mpr fun p hp => ?_) hs
      exact hm p (List.mem_reverse.mp hp)
    · exact Nat.le_trans (Nat.le_of_eq (readScalar_gives hs)) (Nat.zero_le _)

/-- A variant that is found has the name that was looked for. -/
theorem Format.name_of_variant {all : List α} {name : α → String} {t : String} {a : α}
    (h : Format.variant all name t = .ok a) : name a = t := by
  unfold Format.variant at h
  split at h
  · next b hfind =>
    cases h
    have hname := List.find?_some hfind
    exact beq_iff_eq.mp hname
  · cases h

end SubscriberContract.Json
