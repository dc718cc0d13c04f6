import SubscriberContract.Model.ModuleId
import SubscriberContract.Proofs.Text.Cut

/-!
# Module identities and their printed form

Reading splits at the first separators, so it undoes printing exactly for the identities whose parts
are not empty and do not hold the separator that ends them; and it gives no others.
-/

namespace SubscriberContract

namespace ModuleId

theorem toList_print (m : ModuleId) :
    m.print.toList = m.org.toList ++ '/' :: (m.name.toList ++ ':' :: m.version.toList) := by
  simp [print]

theorem parse?_eq_some_iff {t : String} {m : ModuleId} :
    parse? t = some m ↔ m.WellFormed ∧ t = m.print := by
  constructor
  · intro h
    obtain ⟨⟨org, rest⟩, horg, h⟩ := Option.bind_eq_some_iff.mp h
    obtain ⟨⟨name, version⟩, hname, h⟩ := Option.bind_eq_some_iff.mp h
    dsimp only at h
    split at h
    · cases h
    · next hparts =>
      cases h
      obtain ⟨hslash, ht⟩ := Text.cutAt?_eq_some_iff.mp horg
      obtain ⟨hcolon, rfl⟩ := Text.cutAt?_eq_some_iff.mp hname
      refine ⟨?_, String.toList_inj.mp ?_⟩
      · simpa [WellFormed, hslash, hcolon, not_or] using hparts
      · simpa [toList_print] using ht
  · rintro ⟨⟨horg, hslash, hname, hcolon, hversion⟩, rfl⟩
    have h₁ : Text.cutAt? '/' m.print.toList =
        some (m.org.toList, m.name.toList ++ ':' :: m.version.toList) :=
      Text.cutAt?_eq_some_iff.mpr ⟨hslash, toList_print m⟩
    have h₂ : Text.cutAt? ':' (m.name.toList ++ ':' :: m.version.toList) =
        some (m.name.toList, m.version.toList) :=
      Text.cutAt?_eq_some_iff.mpr ⟨hcolon, rfl⟩
    rw [parse?, h₁]
    dsimp only [Option.bind_eq_bind, Option.bind_some]
    rw [h₂]
    simp [horg, hname, hversion]

end ModuleId
end SubscriberContract
