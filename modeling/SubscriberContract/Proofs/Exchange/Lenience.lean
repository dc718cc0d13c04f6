import SubscriberContract.Proofs.Exchange.CompilationUnit

/-!
# Unit files in every spelling

Each format of a unit file takes every spelling of a value whose module identities can all be read
back. A member may be left out where it holds null or an empty array and the record has a value for
an absent one; these two are the same value.
-/

namespace SubscriberContract

open Json (Format eq_none_of_tree eq_nil_of_tree)

theorem Span.lenient : Span.format.Lenient (.one .span) fun _ => True := by
  have hrecord : Span.format.Lenient (.one .span) _ :=
    .record .span (.required Format.Faithful.word.lenient (by simp [Part.fields]) (by decide) <|
      .required Format.Faithful.word.lenient (by simp [Part.fields]) (by decide) .done)
      (fun _ => rfl) rfl between_start_stop
  exact hrecord.congr fun _ _ => by simp

theorem optional_text_lenient : (Format.optional .text).Lenient .plain fun _ => True :=
  (Format.Faithful.optional .text nofun).lenient.congr fun _ => by simp

theorem Annotation.lenient : Annotation.format.Lenient (.one .mark) fun _ => True := by
  have hrecord : Annotation.format.Lenient (.one .mark) _ :=
    .record .mark
      (.defaulted optional_text_lenient (eq_none_of_tree nofun) (by simp [Part.fields])
        (by decide) <|
      .defaulted optional_text_lenient (eq_none_of_tree nofun) (by simp [Part.fields])
        (by decide) .done) (fun _ => rfl) rfl fun _ => rfl
  exact hrecord.congr fun _ _ => by simp

theorem Listener.lenient : Listener.format.Lenient (.one .listener) fun _ => True := by
  have harguments : (Format.optional (.list Argument.format)).Lenient (.many .argument) _ :=
    .optional (.list Argument.lenient) nofun
  have hrecord : Listener.format.Lenient (.one .listener) _ :=
    .record .listener (.required Span.lenient (by simp [Part.fields]) (by decide) <|
      .defaulted harguments (eq_none_of_tree nofun) (by simp [Part.fields]) (by decide) .done)
      (fun _ => rfl) rfl fun _ => rfl
  exact hrecord.congr fun _ _ => by simp

theorem Signature.lenient :
    Signature.format.Lenient (.one .signature) fun s => WellFormedAll s.moduleIds := by
  have hresult : (Format.optional TypeShape.format).Lenient (.one .type) _ :=
    .optional TypeShape.lenient TypeShape.tree_ne_null
  have hrecord : Signature.format.Lenient (.one .signature) _ :=
    .record .signature
      (.defaulted (.list TypeShape.lenient) eq_nil_of_tree (by simp [Part.fields]) (by decide) <|
      .defaulted hresult (eq_none_of_tree TypeShape.tree_ne_null) (by simp [Part.fields])
        (by decide) .done) (fun _ => rfl) rfl fun _ => rfl
  exact hrecord.congr fun s hs => by simpa [wellFormedAll_iff] using hs

theorem Method.lenient :
    Method.format.Lenient (.one .method) fun m => WellFormedAll m.moduleIds := by
  have hqualifiers : (Format.list Qualifier.format).Lenient .plain _ :=
    (Format.Faithful.list Qualifier.faithful).lenient
  have hsignature : (Format.optional Signature.format).Lenient (.one .signature) _ :=
    .optional Signature.lenient nofun
  have hrecord : Method.format.Lenient (.one .method) _ :=
    .record .method
      (.required Format.Faithful.text.lenient (by simp [Part.fields]) (by decide) <|
      .defaulted hqualifiers eq_nil_of_tree (by simp [Part.fields]) (by decide) <|
      .required Span.lenient (by simp [Part.fields]) (by decide) <|
      .defaulted hsignature (eq_none_of_tree nofun) (by simp [Part.fields]) (by decide) .done)
      (fun _ => rfl) rfl fun _ => rfl
  exact hrecord.congr fun m hm => by simpa [wellFormedAll_iff] using hm

theorem Service.lenient :
    Service.format.Lenient (.one .service) fun s => WellFormedAll s.moduleIds := by
  have hrecord : Service.format.Lenient (.one .service) _ :=
    .record .service (.required Span.lenient (by simp [Part.fields]) (by decide) <|
      .defaulted (.list Annotation.lenient) eq_nil_of_tree (by simp [Part.fields]) (by decide) <|
      .defaulted (.list Method.lenient) eq_nil_of_tree (by simp [Part.fields]) (by decide) .done)
      (fun _ => rfl) rfl fun _ => rfl
  exact hrecord.congr fun s hs => by simpa [wellFormedAll_iff] using hs

theorem CompilationUnit.lenient :
    CompilationUnit.format.Lenient (.one .unit) fun u => WellFormedAll u.moduleIds := by
  have hrecord : CompilationUnit.format.Lenient (.one .unit) _ :=
    .record .unit
      (.defaulted optional_text_lenient (eq_none_of_tree nofun) (by simp [Part.fields])
        (by decide) <|
      .defaulted (.list Listener.lenient) eq_nil_of_tree (by simp [Part.fields]) (by decide) <|
      .defaulted (.list Service.lenient) eq_nil_of_tree (by simp [Part.fields]) (by decide) .done)
      (fun _ => rfl) rfl fun _ => rfl
  exact hrecord.congr fun u hu => by simpa [wellFormedAll_iff] using hu

end SubscriberContract
