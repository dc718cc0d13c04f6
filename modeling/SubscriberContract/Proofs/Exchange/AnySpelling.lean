import SubscriberContract.Proofs.Exchange.Lenience
import SubscriberContract.Proofs.Exchange.Repetition

/-!
# Unit files of any front end

What is decoded does not depend on how a front end spells the objects of a compilation unit, as long
as no object has a member twice that it knows.
-/

namespace SubscriberContract

open Json (Format IsText Repeats Respelled)

namespace Json

variable {α : Type} {f : Format α} {c : Content} {good : α → Prop} {j : Json} {text : String}

theorem Format.Lenient.decode_eq (h : f.Lenient c good) {a : α} (ha : good a)
    (hd : (f.tree a).depth ≤ maxDepth) (hn : ∀ n, j ≠ .number n) (hj : Respelled c (f.tree a) j)
    (ht : IsText .exact j text) : f.decode text = .ok a := by
  obtain ⟨w, t, w', hw, ht, hw', htext⟩ := ht
  have hread := h ha hj (Nat.le_trans hj.depth_le hd) hw ht (follows_of_ne_number hn w')
  unfold Format.decode readWhole
  rw [htext, hread]
  show (readEnd w' >>= fun _ => Except.ok a) = _
  rw [readEnd_eq_ok hw']
  rfl

theorem Format.Wary.decode_ne_ok (h : f.Wary c) (hn : ∀ n, j ≠ .number n)
    (ht : IsText .loose j text) (hj : Repeats c j) : ∃ e, f.decode text = .error e := by
  obtain ⟨w, t, w', hw, ht, -, htext⟩ := ht
  cases hdecode : f.decode text with
  | error e => exact ⟨e, rfl⟩
  | ok a =>
    obtain ⟨⟨b, s⟩, hread, -⟩ := bind_eq_ok_iff.mp hdecode
    rw [htext] at hread
    exact absurd hj (h maxDepth hw ht (follows_of_ne_number hn w') hread).2

end Json

namespace CompilationUnit

/-- **Any spelling.** Take a compilation unit that is decoded from its own text, and any text of a
spelling of its tree: in any objects, members stand in another order, those that stand for a default
are left out, others that the object does not know are added, and there is white space between the
tokens. The text is decoded to that unit. And whatever text has an object with a member twice that
it knows is not decoded at all. -/
theorem decode_respelled :
    (∀ u, format.decode (format.encode u) = .ok u → ∀ j text,
      Respelled (.one .unit) (format.tree u) j → IsText .exact j text →
        format.decode text = .ok u) ∧
    ∀ j text, IsText .loose j text → Repeats (.one .unit) j →
      ∃ f, format.decode text = .error f := by
  constructor
  · intro u hu j text hj ht
    obtain ⟨hgood, hdepth⟩ := faithful.good_of_decode (by decide) hu
    obtain ⟨members, rfl, -⟩ := hj.of_object
    exact lenient.decode_eq hgood hdepth (fun _ => Json.noConfusion) hj ht
  · intro j text ht hj
    refine wary.decode_ne_ok (fun n => ?_) ht hj
    rintro rfl
    cases hj

/-- A unit with one listener, the members of each object in reverse order, two left out and two
added; and a listener whose span has its end twice. -/
theorem decode_respelled_listener :
    let u : CompilationUnit := ⟨none, [⟨.between 0 5, some [.rest .other]⟩], []⟩
    format.decode (format.encode u) = .ok u ∧
    format.decode (" \x7b\"v\":7,\"listeners\":[\x7b\"arguments\":[\x7b\"x\":true," ++
      "\"expression\":\"other\",\"form\":\"rest\"\x7d]," ++
      "\"span\":\x7b\"end\":5,\"start\":0\x7d\x7d]\x7d\n") = .ok u ∧
    ∃ f, format.decode
      "\x7b\"listeners\":[\x7b\"span\":\x7b\"end\":5,\"end\":[]\x7d\x7d]\x7d" = .error f := by
  intro u
  have reversed : ∀ (p : Part) (members added : List (String × Json)) {kept},
      (∀ m ∈ added, m.1 ∉ p.known members ∧ Json.Plain m.2) →
        Json.RespelledMembers (p.fields members) members kept →
          Respelled (.one p) (.object members) (.object (kept ++ added).reverse) :=
    fun _ _ _ _ ha hk => .object hk ha (List.reverse_perm _)
  have hargument : Respelled (.one .argument)
      (.object [("form", .text "rest"), ("expression", .text "other")])
      (.object [("x", .boolean true), ("expression", .text "other"), ("form", .text "rest")]) :=
    reversed .argument _ [("x", .boolean true)]
      (List.forall_mem_singleton.mpr ⟨by decide, .boolean true⟩) (.refl _ _)
  have hspan : Respelled (.one .span) (.object [("start", .natural 0), ("end", .natural 5)])
      (.object [("end", .natural 5), ("start", .natural 0)]) :=
    reversed .span _ [] (List.forall_mem_nil _) (.refl _ _)
  have hlistener : Respelled (.one .listener)
      (Listener.format.tree ⟨.between 0 5, some [.rest .other]⟩)
      (.object [("arguments", .array [.object [("x", .boolean true),
        ("expression", .text "other"), ("form", .text "rest")]]),
        ("span", .object [("end", .natural 5), ("start", .natural 0)])]) := by
    refine reversed .listener _ [] (List.forall_mem_nil _) (.keep ?_ (.keep ?_ (.nil _)))
    · exact hspan
    · exact .array (.cons hargument (.nil _))
  have hunit : Respelled (.one .unit) (format.tree u) (.object [("v", .natural 7),
      ("listeners", .array [.object [("arguments", .array [.object [("x", .boolean true),
        ("expression", .text "other"), ("form", .text "rest")]]),
        ("span", .object [("end", .natural 5), ("start", .natural 0)])]])]) := by
    refine reversed .unit _ [("v", .natural 7)]
      (List.forall_mem_singleton.mpr ⟨by decide, .natural (by decide)⟩)
      (.drop (.head _) (.keep ?_ (.drop (.tail _ (.tail _ (.head _))) (.nil _))))
    exact .array (.cons hlistener (.nil _))
  have hrepeats : Repeats (.one .unit) (.object [("listeners", .array [.object
      [("span", .object [("end", .natural 5), ("end", .array [])])]])]) :=
    .member (.head _) (.item (.head _) (.member (.head _)
      (.here (.tail _ (.head _)) (by decide))))
  have number : ∀ {k n}, n < 10 → Json.Written k (.natural n) (Json.natural n).chars :=
    fun h => Json.written_natural (Nat.lt_trans h (by decide))
  have text : ∀ {k s}, Json.Written k (.text s) (Json.text s).chars := Json.written_text _
  have boolean : ∀ {k}, Json.Written k (.boolean true) (Json.boolean true).chars := .yes
  have empty : ∀ {k}, Json.Written k (.array []) (Json.array []).chars :=
    .emptyArray Json.blank_nil
  have single : ∀ {k j}, Json.Written k j j.chars →
      Json.Written k (.array [j]) (Json.array [j]).chars :=
    fun h => Json.written_array (List.forall_mem_singleton.mpr h)
  have hu : format.decode (format.encode u) = .ok u := by decide +kernel
  refine ⟨hu, ?_, ?_⟩
  · refine decode_respelled.1 u hu _ _ hunit ⟨[' '], _, ['\n'], by decide,
      Json.written_object (List.forall_mem_cons.mpr ⟨number (by decide),
        List.forall_mem_singleton.mpr (single (Json.written_object ?_))⟩),
      by decide, by decide +kernel⟩
    simp [Json.written_object, single, number, text, boolean]
  · refine decode_respelled.2 _ _ ⟨[], _, [], by decide,
      Json.written_object (List.forall_mem_singleton.mpr (single (Json.written_object ?_))),
      by decide, by decide +kernel⟩ hrepeats
    simp [Json.written_object, number, empty]

end CompilationUnit
end SubscriberContract
