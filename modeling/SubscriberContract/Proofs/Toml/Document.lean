import SubscriberContract.Proofs.Toml.Keys

/-!
# Documents as they are read

A value that is read gives the keys of its tables once, and so does a draft after every line; hence
the keys of a document are given once (`distinct_parse`). `Gives` says what a reading gives if it
succeeds, and is handed on by the ways in which readings are composed.
-/

namespace SubscriberContract.Toml

variable {α β : Type} {P : α → Prop}

/-- Whatever is read has the property. -/
def Gives (P : α → Prop) (r : Except Trouble (α × Input)) : Prop := ∀ a s, r = .ok (a, s) → P a

theorem gives_ok {a : α} {s : Input} (h : P a) : Gives P (.ok (a, s)) := by
  rintro _ _ ⟨⟩
  exact h

theorem gives_fail (s : Input) : Gives P (fail s) := nofun

theorem gives_failFor (reason : Reason) (s : Input) : Gives P (failFor reason s) := nofun

namespace Gives

/-- Making a failure final, naming what was read and adding what was expected change no success. -/
theorem mapError {r : Except Trouble (α × Input)} (h : Gives P r) (f : Trouble → Trouble) :
    Gives P (r.mapError f) := fun a s hr => h a s (mapError_eq_ok_iff.mp hr)

theorem bind {r : Except Trouble β} {f : β → Except Trouble (α × Input)}
    (h : ∀ b, r = .ok b → Gives P (f b)) : Gives P (r >>= f) := by
  intro a s hs
  obtain ⟨b, hb, hf⟩ := bind_eq_ok_iff.mp hs
  exact h b hb a s hf

theorem orElse {first : Except Trouble (α × Input)} {second : Unit → Except Trouble (α × Input)}
    (h : Gives P first) (h' : Gives P (second ())) : Gives P (orElse first second) := by
  intro a s hs
  unfold Toml.orElse at hs
  split at hs
  · exact h a s hs
  · split at hs
    · cases hs
    · exact h' a s hs

theorem ite {c : Prop} [Decidable c] {r r' : Except Trouble (α × Input)} (h : Gives P r)
    (h' : Gives P r') : Gives P (if c then r else r') := by
  split
  · exact h
  · exact h'

end Gives

theorem of_attempt {r : Except Trouble α} {a : α} (h : attempt r = .ok (some a)) : r = .ok a := by
  unfold attempt Toml.orElse at h
  cases r with
  | ok b =>
    cases h
    rfl
  | error t =>
    dsimp only [Except.map] at h
    split at h <;> cases h

theorem refusedAt_eq_ok_iff {start : Input} {r : Except Reason α} {a : α} :
    refusedAt start r = .ok a ↔ r = .ok a := by
  cases r <;> simp [refusedAt, failFor]

/-! ## Values -/

/-- The value is no table. -/
def Value.IsPlain (v : Value) : Prop := v.held = []

theorem Value.isPlain_boolean (b : Bool) : (Value.boolean b).IsPlain := rfl

theorem Value.isPlain_floating (bits : UInt64) : (Value.floating bits).IsPlain := rfl

theorem Value.IsPlain.distinct {v : Value} (h : v.IsPlain) : v.Distinct := by
  intro t ht
  rw [h] at ht
  cases ht

theorem gives_readDateTime (s : Input) : Gives Value.IsPlain (readDateTime s) := by
  refine .orElse (.mapError ?_ _) (.mapError ?_ _)
  · exact .bind fun _ _ => .bind fun _ _ => gives_ok rfl
  · exact .bind fun _ _ => gives_ok rfl

theorem gives_readInBase (label : String) (base : Nat) (p : Char → Bool) (s : Input) :
    Gives Value.IsPlain (readInBase label base p s) := by
  refine .bind ?_
  rintro ⟨ds, rest⟩ -
  exact .ite (.mapError (gives_failFor _ _) _) (gives_ok rfl)

theorem gives_readInteger (s : Input) : Gives Value.IsPlain (readInteger s) := by
  unfold readInteger
  split
  · exact gives_readInBase _ _ _ _
  · exact gives_readInBase _ _ _ _
  · exact gives_readInBase _ _ _ _
  · refine .bind ?_
    rintro ⟨⟨negative, ds⟩, rest⟩ -
    refine .ite (.ite ?_ (gives_ok rfl)) (.ite ?_ (gives_ok rfl))
    · exact .mapError (gives_failFor _ _) _
    · exact .mapError (gives_failFor _ _) _

theorem gives_readSpecial (negative : Bool) (s : Input) :
    Gives Value.IsPlain (readSpecial negative s) := by
  unfold readSpecial
  refine .orElse ?_ ?_
  · exact .bind fun _ _ => gives_ok (Value.isPlain_floating _)
  · exact .bind fun _ _ => gives_ok (Value.isPlain_floating _)

theorem gives_readFloat (s : Input) : Gives Value.IsPlain (readFloat s) := by
  refine .mapError (.orElse (.bind ?_) ?_) _
  · rintro ⟨⟨negative, ds⟩, rest⟩ -
    refine .bind ?_
    rintro ⟨⟨fraction, exponent⟩, rest⟩ -
    exact .ite (.mapError (gives_fail _) _) (gives_ok rfl)
  · exact gives_readSpecial _ _

theorem gives_readNumber (s : Input) : Gives Value.IsPlain (readNumber s) :=
  .orElse (gives_readDateTime s) (.orElse (gives_readFloat s) (gives_readInteger s))

theorem gives_readWord {word : List Char} {v : Value} (hv : v.IsPlain) (s : Input) :
    Gives Value.IsPlain (readWord word v s) :=
  .mapError (.mapError (.bind fun _ _ => gives_ok hv) _) _

theorem gives_readScalar (s : Input) : Gives Value.IsPlain (readScalar s) := by
  unfold readScalar
  split
  · exact gives_fail []
  · split
    · exact .bind fun _ _ => gives_ok rfl
    · exact .bind fun _ _ => gives_ok rfl
    · exact .mapError (gives_readWord (Value.isPlain_boolean _) _) _
    · exact .mapError (gives_readWord (Value.isPlain_boolean _) _) _
    · exact gives_readWord (Value.isPlain_floating _) _
    · exact gives_readWord (Value.isPlain_floating _) _
    · exact .mapError (gives_readInteger _) _
    · exact .mapError (gives_readFloat _) _
    · exact .ite (gives_readNumber _) (.mapError (.mapError (gives_fail _) _) _)

theorem gives_readSeparatedItems {item : Reader α} (h : ∀ s, Gives P (item s)) (turns : Nat)
    (s : Input) : Gives (fun as => ∀ a ∈ as, P a) (readSeparatedItems item turns s) := by
  induction turns generalizing s with
  | zero => exact gives_ok nofun
  | succ turns ih =>
    rw [readSeparatedItems]
    refine .bind ?_
    rintro (_ | ⟨a, rest⟩) hitem
    · exact gives_ok nofun
    · have ha : P a := h s a rest (of_attempt hitem)
      dsimp only
      split
      · refine .bind ?_
        rintro ⟨as, left⟩ has
        exact gives_ok (List.forall_mem_cons.mpr ⟨ha, ih _ as left has⟩)
      · exact gives_ok (List.forall_mem_singleton.mpr ha)

/-- Values under distinct keys of an inline table are entered one after the other. -/
theorem distinct_foldlM_enterInline {pairs : List ((List Key × Key) × LocatedValue)}
    (hpairs : ∀ p ∈ pairs, p.2.value.Distinct) {entries entries' : Entries}
    (h : entries.Distinct)
    (hf : pairs.foldlM (fun entries p => enterInline p.1.2 p.2 [] p.1.1 entries) entries =
      .ok entries') : entries'.Distinct := by
  induction pairs generalizing entries with
  | nil =>
    cases hf
    exact h
  | cons p pairs ih =>
    obtain ⟨hp, hrest⟩ := List.forall_mem_cons.mp hpairs
    rw [List.foldlM_cons] at hf
    obtain ⟨entries₁, he, hf⟩ := bind_eq_ok_iff.mp hf
    exact ih hrest (distinct_enterInline hp [] p.1.1 h he) hf

theorem gives_readArray (value : Reader LocatedValue) (s : Input) :
    Gives Value.IsPlain (readArray value s) := by
  refine .bind ?_
  rintro ⟨items, s'⟩ -
  exact .bind fun _ _ => gives_ok rfl

theorem gives_readInlineTable {value : Reader LocatedValue}
    (h : ∀ s, Gives (fun v => v.value.Distinct) (value s)) (s : Input) :
    Gives Value.Distinct (readInlineTable value s) := by
  unfold readInlineTable
  refine .bind ?_
  rintro ⟨entries, s₁⟩ hentries
  refine .bind fun _ _ => gives_ok (Value.distinct_inlineTable.mpr ?_)
  obtain ⟨⟨pairs, rest⟩, hpairs, hentries⟩ := bind_eq_ok_iff.mp (mapError_eq_ok_iff.mp hentries)
  obtain ⟨entries', hfold, hentries⟩ := bind_eq_ok_iff.mp hentries
  cases hentries
  refine distinct_foldlM_enterInline ?_ .nil (refusedAt_eq_ok_iff.mp hfold)
  refine gives_readSeparatedItems (P := fun p => p.2.value.Distinct) (fun s => ?_) _ _ _ _ hpairs
  refine .bind ?_
  rintro ⟨key, s₂⟩ -
  refine .mapError (.bind fun _ _ => .bind ?_) _
  rintro ⟨v, s₃⟩ hv
  exact gives_ok (h _ v s₃ hv)

/-- A value, if those that it opens are read so. -/
theorem gives_readValue_of {room : Nat}
    (h : ∀ r, room = r + 1 → ∀ s, Gives (fun v => v.value.Distinct) (readValue r s)) (s : Input) :
    Gives (fun v => v.value.Distinct) (readValue room s) := by
  unfold readValue
  dsimp only
  split
  · exact .bind nofun
  · exact .bind nofun
  · refine .bind ?_
    rintro ⟨v, rest⟩ hv
    exact gives_ok (gives_readArray _ _ v rest hv).distinct
  · next r t =>
    refine .bind ?_
    rintro ⟨v, rest⟩ hv
    exact gives_ok (gives_readInlineTable (h r rfl) t v rest hv)
  · refine .bind ?_
    rintro ⟨v, rest⟩ hv
    exact gives_ok (gives_readScalar _ v rest hv).distinct

theorem gives_readValue (room : Nat) (s : Input) :
    Gives (fun v => v.value.Distinct) (readValue room s) := by
  induction room generalizing s with
  | zero => exact gives_readValue_of (fun r hr => absurd hr.symm (Nat.succ_ne_zero r)) s
  | succ room ih =>
    refine gives_readValue_of ?_ s
    rintro r ⟨⟩
    exact ih

/-! ## Lines -/

theorem gives_readTable {d : Draft} (h : d.Distinct) (s : Input) :
    Gives Draft.Distinct (readTable d s) := by
  refine .mapError (.mapError ?_ _) _
  split
  · refine .bind ?_
    rintro ⟨⟨⟨path, last⟩, stop⟩, rest⟩ -
    refine .bind fun d' hd' => gives_ok ?_
    exact h.beginItem (refusedAt_eq_ok_iff.mp hd')
  · refine .bind ?_
    rintro ⟨⟨⟨path, last⟩, stop⟩, rest⟩ -
    refine .bind fun d' hd' => gives_ok ?_
    exact h.beginTable (refusedAt_eq_ok_iff.mp hd')
  · exact gives_fail _

theorem gives_readEntry {d : Draft} (h : d.Distinct) (s : Input) :
    Gives Draft.Distinct (readEntry d s) := by
  refine .mapError (.bind ?_) _
  rintro ⟨⟨path, last⟩, rest⟩ -
  refine .bind fun rest _ => .bind ?_
  rintro ⟨v, rest⟩ hv
  refine .bind fun rest _ => .bind fun d' hd' => gives_ok ?_
  exact h.enter (gives_readValue _ _ v _ hv) (refusedAt_eq_ok_iff.mp hd')

theorem distinct_readLines {turns : Nat} {d d' : Draft} {s : Input} (h : d.Distinct)
    (hr : readLines turns d s = .ok d') : d'.Distinct := by
  induction turns generalizing d s with
  | zero =>
    cases hr
    exact h
  | succ turns ih =>
    rw [readLines] at hr
    split at hr
    · cases hr
      exact h
    · obtain ⟨s', -, hr⟩ := bind_eq_ok_iff.mp hr
      exact ih h hr
    · obtain ⟨⟨d₁, s'⟩, hd₁, hr⟩ := bind_eq_ok_iff.mp hr
      exact ih (gives_readTable h _ d₁ s' hd₁) hr
    · split at hr
      · exact ih h hr
      · split at hr
        · cases hr
        · obtain ⟨⟨d₁, s'⟩, hd₁, hr⟩ := bind_eq_ok_iff.mp hr
          exact ih (gives_readEntry h _ d₁ s' hd₁) hr

/-- No table of a document gives a key twice. -/
theorem distinct_parse {text : String} {entries : Entries} (h : parse text = .ok entries) :
    entries.Distinct := by
  obtain ⟨d, hd, h⟩ := bind_eq_ok_iff.mp h
  have hlines : d.Distinct := distinct_readLines Draft.distinct_start hd
  exact hlines.close (refusedAt_eq_ok_iff.mp h)

end SubscriberContract.Toml
