/-!
# Spans

A span is a range of byte offsets into the source that a front end read. Offsets are 32-bit words.
The order of its ends is part of the type, so its length never wraps.
-/

namespace SubscriberContract

/-- A range of byte offsets; `stop` is the first offset after it. -/
structure Span where
  start : UInt32
  stop : UInt32
  ordered : start ≤ stop
deriving DecidableEq

namespace Span

/-- The span between two offsets, given in either order. -/
def between (a b : UInt32) : Span :=
  if h : a ≤ b then ⟨a, b, h⟩
  else ⟨b, a, (UInt32.le_total b a).resolve_right h⟩

instance : Inhabited Span := ⟨between 0 0⟩

def length (s : Span) : UInt32 := s.stop - s.start

def isEmpty (s : Span) : Bool := s.start == s.stop

/-- A byte count as an offset; counts that no offset reaches become the last one. -/
def offsetOf (n : Nat) : UInt32 := UInt32.ofNat (min n 0xffffffff)

/-- The part of the span inside a source of `n` bytes. -/
def clampTo (s : Span) (n : Nat) : Span :=
  between (min s.start (offsetOf n)) (min s.stop (offsetOf n))

end Span
end SubscriberContract
