import SubscriberContract.Proofs.Exchange.CompilationUnit

/-!
# Arithmetic of spans

A span is the interval between two offsets, whichever of them is given first, and clamping takes the
smaller of each of its ends and a byte count. So clamping in several steps is clamping once to the
least count, also for counts that no offset reaches. The order of the ends is what keeps the length
from wrapping.
-/

namespace SubscriberContract

open Json (Format Members)

namespace Span

/-! ## Ends and length -/

theorem start_between (a b : UInt32) : (between a b).start.toNat = min a.toNat b.toNat := by
  unfold between
  split
  · next h =>
    have hle : a.toNat ≤ b.toNat := h
    exact (Nat.min_eq_left hle).symm
  · next h =>
    have hle : b.toNat ≤ a.toNat := Nat.le_of_not_le h
    exact (Nat.min_eq_right hle).symm

theorem stop_between (a b : UInt32) : (between a b).stop.toNat = max a.toNat b.toNat := by
  unfold between
  split
  · next h =>
    have hle : a.toNat ≤ b.toNat := h
    exact (Nat.max_eq_right hle).symm
  · next h =>
    have hle : b.toNat ≤ a.toNat := Nat.le_of_not_le h
    exact (Nat.max_eq_left hle).symm

theorem start_le_stop (s : Span) : s.start.toNat ≤ s.stop.toNat := s.ordered

/-- The length does not wrap: it leads from the start to the end. -/
theorem start_add_length (s : Span) : s.start.toNat + s.length.toNat = s.stop.toNat := by
  have hlength : s.length.toNat = s.stop.toNat - s.start.toNat :=
    UInt32.toNat_sub_of_le s.stop s.start s.ordered
  have hle := s.start_le_stop
  omega

theorem eq_of_ends {s t : Span} (hstart : s.start.toNat = t.start.toNat)
    (hstop : s.stop.toNat = t.stop.toNat) : s = t := by
  obtain ⟨a, b, h⟩ := s
  obtain ⟨a', b', h'⟩ := t
  obtain rfl : a = a' := UInt32.toNat_inj.mp hstart
  obtain rfl : b = b' := UInt32.toNat_inj.mp hstop
  rfl

/-! ## Clamping -/

/-- A count beyond the last offset is no smaller than any offset, so it does not matter which offset
stands for it. -/
theorem toNat_min_offsetOf (a : UInt32) (n : Nat) :
    (min a (offsetOf n)).toNat = min a.toNat n := by
  have ha : a.toNat < 2 ^ 32 := a.toNat_lt
  have hn : (offsetOf n).toNat = min n 0xffffffff := by
    rw [offsetOf, UInt32.toNat_ofNat']
    omega
  rw [UInt32.toNat_min, hn]
  omega

section

variable (s : Span)

theorem start_clampTo (n : Nat) : (s.clampTo n).start.toNat = min s.start.toNat n := by
  have hle := s.start_le_stop
  rw [clampTo, start_between, toNat_min_offsetOf, toNat_min_offsetOf]
  omega

theorem stop_clampTo (n : Nat) : (s.clampTo n).stop.toNat = min s.stop.toNat n := by
  have hle := s.start_le_stop
  rw [clampTo, stop_between, toNat_min_offsetOf, toNat_min_offsetOf]
  omega

theorem clampTo_clampTo (m n : Nat) : (s.clampTo m).clampTo n = s.clampTo (min m n) := by
  apply eq_of_ends
  · rw [start_clampTo, start_clampTo, start_clampTo, Nat.min_assoc]
  · rw [stop_clampTo, stop_clampTo, stop_clampTo, Nat.min_assoc]

/-- Clamping step by step takes the least of the counts. -/
theorem foldl_clampTo (n : Nat) (ns : List Nat) :
    ns.foldl clampTo (s.clampTo n) = s.clampTo (ns.foldl min n) := by
  induction ns generalizing n with
  | nil => rfl
  | cons m ns ih => rw [List.foldl_cons, clampTo_clampTo, ih, List.foldl_cons]

end

/-! ## Spans from a text -/

/-- The two ends of a span as they are written, in either order. -/
def ends : Format (UInt32 × UInt32 × Unit) :=
  .record "RawSpan" (.required "start" .word <| .required "end" .word .done) id id

/-- What is read as a span is the span between the two ends that are read. -/
theorem decode_eq_map (text : String) :
    Span.format.decode text = (ends.decode text).map fun (a, b, ()) => between a b :=
  Json.decode_record text

theorem faithful_ends : ends.Faithful (fun _ => True) 1 := by
  have hmembers : (Members.required "start" .word <| .required "end" .word .done).Faithful
      (fun _ => True ∧ True ∧ True) 0 :=
    .required .word (by decide) <| .required .word (by decide) .done
  exact (Format.Faithful.record hmembers (fun _ => rfl) fun _ => rfl).congr fun _ => by simp

/-- Two ends are read back as the span between them, whichever is written first. -/
theorem decode_encode_ends (a b : UInt32) :
    Span.format.decode (ends.encode (a, b, ())) = .ok (between a b) := by
  have hdepth : (ends.tree (a, b, ())).depth = 1 := rfl
  have hends : ends.decode (ends.encode (a, b, ())) = .ok (a, b, ()) :=
    faithful_ends.decode_encode_of_good trivial (by rw [hdepth]; decide)
  rw [decode_eq_map, hends]
  rfl

end Span
end SubscriberContract
