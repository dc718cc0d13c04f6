import SubscriberContract.Proofs.Model.Span
import SubscriberContract.Report.Notice

/-!
# Marks of spans

What a notice marks of a source is the part of a diagnostic's span that exists there: a span that
ends beyond the source is cut off, and one that begins beyond it is empty at the end. So the mark
can be looked up in the source whatever offsets a host hands over. Where there is no source, nothing
is cut off.
-/

namespace SubscriberContract

namespace Report

/-- The mark lies in a source of `n` bytes and covers the bytes of the span that are there. -/
structure Mark.Covers (m : Mark) (s : Span) (n : Nat) : Prop where
  starts : m.offset = min s.start.toNat n
  fits : m.offset + m.length ≤ n
  bytes : ∀ i, m.offset ≤ i ∧ i < m.offset + m.length ↔
    s.start.toNat ≤ i ∧ i < s.stop.toNat ∧ i < n
  beyond : n ≤ s.start.toNat → m.offset = n ∧ m.length = 0

theorem stop_markOf_none (s : Span) : (markOf none s).stop = s.stop.toNat := s.start_add_length

theorem stop_markOf (text : String) (s : Span) :
    (markOf (some text) s).stop = min s.stop.toNat text.utf8ByteSize := by
  show (s.clampTo _).start.toNat + (s.clampTo _).length.toNat = _
  rw [Span.start_add_length, Span.stop_clampTo]

theorem covers_markOf (text : String) (s : Span) :
    (markOf (some text) s).Covers s text.utf8ByteSize := by
  have hstart : (markOf (some text) s).offset = min s.start.toNat text.utf8ByteSize :=
    s.start_clampTo _
  have hstop := stop_markOf text s
  have hle := s.start_le_stop
  unfold Mark.stop at hstop
  constructor
  · exact hstart
  · omega
  · intro i
    omega
  · omega

end Report

open Report

/-- **Spans never leave their range.** A span built from two offsets goes from the smaller to the
larger one, a span read from a text is built from the two that are read, and the default one is
empty; so the start comes first and the length is what lies between the ends. Clamping to a count of
bytes, however large, takes the smaller of each end and the count, and clamping in steps takes the
least of the counts. What the notice of a diagnostic marks, and shows, of its source is therefore
the part of the span that exists in it; without a source the whole span is marked, and nothing is
shown. -/
theorem span_in_range :
    (∀ a b : UInt32, (Span.between a b).start.toNat = min a.toNat b.toNat ∧
      (Span.between a b).stop.toNat = max a.toNat b.toNat) ∧
    (∀ text, Span.format.decode text = (Span.ends.decode text).map fun (a, b, ()) => .between a b) ∧
    (∀ a b, Span.format.decode (Span.ends.encode (a, b, ())) = .ok (.between a b)) ∧
    (default : Span) = .between 0 0 ∧
    (∀ s : Span, s.start.toNat ≤ s.stop.toNat ∧
      s.length.toNat = s.stop.toNat - s.start.toNat ∧
      (∀ n, (s.clampTo n).start.toNat = min s.start.toNat n ∧
        (s.clampTo n).stop.toNat = min s.stop.toNat n) ∧
      (∀ m n, (s.clampTo m).clampTo n = s.clampTo (min m n)) ∧
      ∀ (n : Nat) (ns : List Nat),
        ns.foldl Span.clampTo (s.clampTo n) = s.clampTo (ns.foldl min n)) ∧
    ∀ (d : Diagnostic) (name : String),
      (∀ text, ∃ p e, (Notice.ofDiagnostic d name (some text)).place = some p ∧
        (Notice.ofDiagnostic d name (some text)).excerpt = some e ∧ e.source = text ∧
        e.mark = p.mark ∧ p.mark = markOf (some text) d.span ∧
        p.mark.Covers d.span text.utf8ByteSize) ∧
      ∃ p, (Notice.ofDiagnostic d name none).place = some p ∧
        (Notice.ofDiagnostic d name none).excerpt = none ∧ p.mark = markOf none d.span ∧
        p.mark.offset = d.span.start.toNat ∧ p.mark.stop = d.span.stop.toNat := by
  refine ⟨fun a b => ⟨Span.start_between a b, Span.stop_between a b⟩, Span.decode_eq_map,
    Span.decode_encode_ends, rfl, fun s => ?_, fun d name => ?_⟩
  · have hlength := s.start_add_length
    exact ⟨s.start_le_stop, by omega, fun n => ⟨s.start_clampTo n, s.stop_clampTo n⟩,
      s.clampTo_clampTo, s.foldl_clampTo⟩
  · refine ⟨fun text => ?_, _, rfl, rfl, rfl, rfl, stop_markOf_none d.span⟩
    exact ⟨_, _, rfl, rfl, rfl, rfl, rfl, covers_markOf text d.span⟩

end SubscriberContract
