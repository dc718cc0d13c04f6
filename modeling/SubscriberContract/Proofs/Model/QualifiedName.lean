import SubscriberContract.Model.TypeShape
import SubscriberContract.Proofs.Model.ModuleId
import SubscriberContract.Proofs.Text.Blank
import SubscriberContract.Proofs.Text.Cut

/-!
# Qualified names

A qualified name is the name behind its module and a colon; the blanks around the module are left
out, and a blank module is left out with its colon. The module of an error is the last segment of
its module's name, and the name is what remains of the signature without the printed identity and
without colons. So an error never has a name of its own with a colon in it, while a reference may be
called by a name that looks qualified: `qualify_eq_iff` and `errorName_eq_iff` say which types have
a name with one colon. Between references whose own names hold no colon nothing is lost but the
blanks around a module: the last colon of a qualified name is the one behind its module
(`qualify_eq_qualify_iff`).
-/

namespace SubscriberContract

/-- No module is given, or one of blanks only. -/
def BlankOrigin (origin : Option String) : Prop := ∀ o ∈ origin, Text.AllBlank o.toList

namespace ModuleId

/-- The last segment of the module's name is this text, but for blanks around it. -/
def GoesBy (m : ModuleId) (origin : String) : Prop :=
  ∃ segment, Text.LastSegment '.' m.name.toList segment ∧ Text.TrimsTo segment origin.toList

/-- The signature becomes this name when the occurrences of the printed identity are taken out, from
left to right and without overlap, and then the colons. -/
def LocalName (m : ModuleId) (signature name : String) : Prop :=
  ∃ rest, Text.Erased m.print.toList signature.toList rest ∧
    name.toList = rest.filter (· ≠ ':')

theorem print_ne_nil (m : ModuleId) : m.print.toList ≠ [] := by
  rw [toList_print]
  exact List.append_ne_nil_of_right_ne_nil _ (List.cons_ne_nil _ _)

theorem goesBy_iff {m : ModuleId} {origin : String} :
    m.GoesBy origin ↔ Text.TrimsTo m.shortName.toList origin.toList := by
  unfold GoesBy shortName
  rw [String.toList_ofList]
  simp only [← Text.afterLast_eq_iff, exists_eq_left']

theorem localName_iff {m : ModuleId} {signature name : String} :
    m.LocalName signature name ↔
      String.ofList (Text.erase [':'] (Text.erase m.print.toList signature.toList)) = name := by
  unfold LocalName
  simp only [← Text.erase_eq_iff m.print_ne_nil, exists_eq_left']
  rw [Text.erase_singleton, ← String.toList_inj, String.toList_ofList, eq_comm]

end ModuleId

/-! ## References -/

theorem qualify_of_blank {origin : Option String} (h : BlankOrigin origin) (name : String) :
    qualify origin name = name := by
  have hnil : Text.trimBlanks (origin.getD "").toList = [] := by
    rw [Text.trimBlanks_eq_nil_iff]
    cases origin with
    | none => exact nofun
    | some o => exact h o rfl
  unfold qualify
  rw [hnil]

theorem qualify_of_trimsTo {o origin : String} (h : Text.TrimsTo o.toList origin.toList)
    (hne : origin ≠ "") (name : String) : qualify (some o) name = origin ++ ":" ++ name := by
  have htrim : Text.trimBlanks ((some o).getD "").toList = origin.toList := h.eq_trimBlanks
  have hcons : origin.toList ≠ [] := by simpa using hne
  unfold qualify
  rw [htrim]
  obtain ⟨c, s, hs⟩ := List.exists_cons_of_ne_nil hcons
  rw [hs]
  show String.ofList (c :: s) ++ ":" ++ name = _
  rw [← hs, String.ofList_toList]

/-- A module is blank, or there is one text that it is but for the blanks around it. -/
theorem blank_or_trimsTo (o : String) :
    BlankOrigin (some o) ∨
      ∃ origin : String, origin ≠ "" ∧ Text.TrimsTo o.toList origin.toList := by
  have htrims := Text.trimsTo_trimBlanks o.toList
  by_cases h : Text.AllBlank o.toList
  · refine .inl ?_
    rintro _ ⟨⟩
    exact h
  · have hne : Text.trimBlanks o.toList ≠ [] := mt Text.trimBlanks_eq_nil_iff.mp h
    refine .inr ⟨String.ofList (Text.trimBlanks o.toList), ?_, ?_⟩
    · simpa using hne
    · rwa [String.toList_ofList]

variable {origin name : String}

/-- Which references have a name with one colon: those of that module and name, and those without a
module that are called by the whole text. -/
theorem qualify_eq_iff (horigin : ':' ∉ origin.toList) (hne : origin ≠ "")
    (hname : ':' ∉ name.toList) (o : Option String) (n : String) :
    qualify o n = origin ++ ":" ++ name ↔
      (∃ o' ∈ o, Text.TrimsTo o'.toList origin.toList ∧ n = name) ∨
        BlankOrigin o ∧ n = origin ++ ":" ++ name := by
  constructor
  · intro h
    cases o with
    | none =>
      have hblank : BlankOrigin none := nofun
      rw [qualify_of_blank hblank] at h
      exact .inr ⟨hblank, h⟩
    | some o =>
      rcases blank_or_trimsTo o with hblank | ⟨t, ht, htrims⟩
      · rw [qualify_of_blank hblank] at h
        exact .inr ⟨hblank, h⟩
      · rw [qualify_of_trimsTo htrims ht] at h
        have hlist : t.toList ++ ':' :: n.toList = origin.toList ++ ':' :: name.toList := by
          simpa using congrArg String.toList h
        obtain ⟨horigin', hname'⟩ := (Text.append_separator_inj horigin hname).mp hlist
        exact .inl ⟨o, rfl, horigin' ▸ htrims, String.toList_inj.mp hname'⟩
  · rintro (⟨o', ho, htrims, rfl⟩ | ⟨hblank, hn⟩)
    · rw [Option.mem_def.mp ho]
      exact qualify_of_trimsTo htrims hne n
    · rw [qualify_of_blank hblank]
      exact hn

/-! ## Distinct references -/

/-- What a module counts for: nothing where it is absent or blank, and otherwise its text without
the blanks around it. -/
inductive CountsFor : Option String → Option String → Prop
  | nothing {o : Option String} (h : BlankOrigin o) : CountsFor o none
  | text {o origin : String} (h : Text.TrimsTo o.toList origin.toList) (hne : origin ≠ "") :
    CountsFor (some o) (some origin)

theorem exists_countsFor (o : Option String) : ∃ origin, CountsFor o origin := by
  cases o with
  | none => exact ⟨none, .nothing nofun⟩
  | some o =>
    rcases blank_or_trimsTo o with hblank | ⟨origin, hne, htrims⟩
    · exact ⟨none, .nothing hblank⟩
    · exact ⟨some origin, .text htrims hne⟩

theorem CountsFor.qualify_eq {o origin : Option String} (h : CountsFor o origin) (n : String) :
    qualify o n = origin.elim n (· ++ ":" ++ n) := by
  cases h with
  | nothing hblank => exact qualify_of_blank hblank n
  | text htrims hne => exact qualify_of_trimsTo htrims hne n

/-- A blank module and one that is not blank are told apart by the colon, and two that are not blank
by what stands in front of the last one. -/
theorem elim_qualified_inj {m m' : Option String} {n n' : String} (hn : ':' ∉ n.toList)
    (hn' : ':' ∉ n'.toList) :
    m.elim n (· ++ ":" ++ n) = m'.elim n' (· ++ ":" ++ n') ↔ n = n' ∧ m = m' := by
  have hcolon (t u : String) : ':' ∈ (t ++ ":" ++ u).toList := by simp
  cases m with
  | none =>
    cases m' with
    | none => simp
    | some t' =>
      refine iff_of_false (fun h => hn ?_) (by simp)
      rw [show n = t' ++ ":" ++ n' from h]
      exact hcolon t' n'
  | some t =>
    cases m' with
    | none =>
      refine iff_of_false (fun h => hn' ?_) (by simp)
      rw [← show t ++ ":" ++ n = n' from h]
      exact hcolon t n
    | some t' =>
      calc t ++ ":" ++ n = t' ++ ":" ++ n'
          ↔ t.toList ++ ':' :: n.toList = t'.toList ++ ':' :: n'.toList := by
            rw [← String.toList_inj]
            simp
        _ ↔ t.toList = t'.toList ∧ n.toList = n'.toList := Text.append_last_separator_inj hn hn'
        _ ↔ n = n' ∧ some t = some t' := by
            rw [String.toList_inj, String.toList_inj, and_comm, Option.some.injEq]

theorem CountsFor.unique {o m m' : Option String} (h : CountsFor o m) (h' : CountsFor o m') :
    m = m' := by
  have hempty : ':' ∉ "".toList := by decide
  have hsame := (h.qualify_eq "").symm.trans (h'.qualify_eq "")
  exact ((elim_qualified_inj hempty hempty).mp hsame).2

/-- **Qualification does not merge distinct references.** Every module counts for one text or for
nothing; and where the names hold no colon, two qualified names are the same exactly if the names
are and the modules count for the same. -/
theorem qualify_eq_qualify_iff :
    (∀ o : Option String, ∃! origin, CountsFor o origin) ∧
    ∀ (o o' : Option String) (n n' : String), ':' ∉ n.toList → ':' ∉ n'.toList →
      (qualify o n = qualify o' n' ↔
        n = n' ∧ ∃ origin, CountsFor o origin ∧ CountsFor o' origin) := by
  refine ⟨fun o => ?_, fun o o' n n' hn hn' => ?_⟩
  · obtain ⟨origin, h⟩ := exists_countsFor o
    exact ⟨origin, h, fun _ h' => h'.unique h⟩
  · obtain ⟨m, hm⟩ := exists_countsFor o
    obtain ⟨m', hm'⟩ := exists_countsFor o'
    rw [hm.qualify_eq, hm'.qualify_eq, elim_qualified_inj hn hn']
    refine and_congr_right fun _ => ⟨?_, ?_⟩
    · rintro rfl
      exact ⟨m, hm, hm'⟩
    · rintro ⟨origin, h, h'⟩
      rw [hm.unique h, hm'.unique h']

/-- A module with a colon in it counts for the same with blanks around it, and for another one
without its last segment. -/
theorem qualify_eq_qualify_iff_colon :
    ':' ∉ "T".toList ∧ qualify (some " a:b\u2003") "T" = qualify (some "a:b") "T" ∧
      qualify (some "a") "T" ≠ qualify (some "a:b") "T" := by
  have hname : ':' ∉ "T".toList := by decide
  have hsame (o o' : Option String) := qualify_eq_qualify_iff.2 o o' "T" "T" hname hname
  have hfirst : ∀ c ∈ some 'a', Text.isBlank c = false := by
    rintro c ⟨⟩
    rfl
  have hlast : ∀ c ∈ some 'b', Text.isBlank c = false := by
    rintro c ⟨⟩
    rfl
  have hblanks : CountsFor (some " a:b\u2003") (some "a:b") :=
    .text ⟨⟨[' '], ['\u2003'], by decide, by decide, rfl⟩, hfirst, hlast⟩ (by decide)
  have hcolon : CountsFor (some "a:b") (some "a:b") :=
    .text ⟨⟨[], [], nofun, nofun, rfl⟩, hfirst, hlast⟩ (by decide)
  have hshort : CountsFor (some "a") (some "a") :=
    .text ⟨⟨[], [], nofun, nofun, rfl⟩, hfirst, hfirst⟩ (by decide)
  refine ⟨hname, (hsame _ _).mpr ⟨rfl, some "a:b", hblanks, hcolon⟩, fun h => ?_⟩
  obtain ⟨-, origin, h₁, h₂⟩ := (hsame _ _).mp h
  have horigin : some "a" = some "a:b" := (hshort.unique h₁).trans (h₂.unique hcolon)
  exact absurd horigin (by decide)

/-! ## Errors -/

namespace TypeShape

/-- Which errors have a name with one colon: the module is needed for the colon, since none is left
of those in the signature. -/
theorem errorName_eq_iff (horigin : ':' ∉ origin.toList) (hne : origin ≠ "")
    (hname : ':' ∉ name.toList) (o : Option ModuleId) (signature : String) :
    errorName o signature = origin ++ ":" ++ name ↔
      ∃ m ∈ o, m.GoesBy origin ∧ m.LocalName signature name := by
  have hcolon (s : List Char) : String.ofList (Text.erase [':'] s) ≠ origin ++ ":" ++ name := by
    intro h
    have hmem : ':' ∈ (String.ofList (Text.erase [':'] s)).toList := by
      rw [h]
      simp
    rw [String.toList_ofList, Text.erase_singleton] at hmem
    simp at hmem
  cases o with
  | none =>
    refine iff_of_false (hcolon signature.toList) ?_
    rintro ⟨m, hm, -⟩
    cases hm
  | some m =>
    rw [errorName, qualify_eq_iff horigin hne hname]
    constructor
    · rintro (⟨o', ho, htrims, hlocal⟩ | ⟨-, hlocal⟩)
      · cases ho
        exact ⟨m, rfl, ModuleId.goesBy_iff.mpr htrims, ModuleId.localName_iff.mpr hlocal⟩
      · exact absurd hlocal (hcolon _)
    · rintro ⟨m', hm, hgoes, hlocal⟩
      cases hm
      exact .inl ⟨_, rfl, ModuleId.goesBy_iff.mp hgoes, ModuleId.localName_iff.mp hlocal⟩

/-- Of the organisation and the version an error's name shows nothing but what they take out of the
signature. -/
theorem errorName_congr {m m' : ModuleId} {signature signature' : String} {rest : List Char}
    (hname : m.name = m'.name) (h : Text.Erased m.print.toList signature.toList rest)
    (h' : Text.Erased m'.print.toList signature'.toList rest) :
    errorName (some m) signature = errorName (some m') signature' := by
  have hshort : m.shortName = m'.shortName := by
    unfold ModuleId.shortName
    rw [hname]
  rw [errorName, errorName, hshort, h.eq_erase m.print_ne_nil, h'.eq_erase m'.print_ne_nil]

end TypeShape

/-! ## Errors as hosts print them

A host prints an error as the identity of its module, a colon and its name. -/

namespace ModuleId

/-- The printed identity has a colon behind another character, so it does not occur where the only
colon comes first. -/
theorem print_not_infix (m : ModuleId) {name : List Char} (h : ':' ∉ name) :
    ¬ m.print.toList <:+: ':' :: name := by
  rintro ⟨front, back, hs⟩
  rw [toList_print] at hs
  have hcolon : (front ++ (m.org.toList ++ '/' :: m.name.toList)) ++
      ':' :: (m.version.toList ++ back) = [] ++ ':' :: name := by
    simpa using hs
  obtain ⟨hempty, -⟩ := (Text.append_separator_inj List.not_mem_nil h).mp hcolon
  simp at hempty

/-- Only the identity in front and the colon behind it are taken out of the printed error. -/
theorem localName_print (m : ModuleId) (h : ':' ∉ name.toList) :
    m.LocalName (m.print ++ ":" ++ name) name := by
  refine ⟨':' :: name.toList, ?_, ?_⟩
  · have hfound := Text.Erased.found (Text.erased_of_not_infix (m.print_not_infix h))
    simpa using hfound
  · have hkept : name.toList.filter (· ≠ ':') = name.toList := by
      rw [List.filter_eq_self]
      intro c hc
      have hne : c ≠ ':' := by
        rintro rfl
        exact h hc
      simpa using hne
    simpa using hkept.symm

end ModuleId

theorem TypeShape.errorName_print (m : ModuleId) (h : ':' ∉ name.toList) :
    errorName (some m) (m.print ++ ":" ++ name) = qualify (some m.shortName) name := by
  rw [errorName, ModuleId.localName_iff.mp (m.localName_print h)]

end SubscriberContract
