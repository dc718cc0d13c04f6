/-!
# UTF-8

Bytes as characters. A part that is no character counts once for each maximal run of bytes that
could still have begun one, so that no valid character after it is lost.
-/

namespace SubscriberContract.Text.Utf8

/-- The bytes a lead byte has to be followed by, as bounds; `none` where no character starts. -/
def continuation (lead : UInt8) : Option (List (UInt8 × UInt8)) :=
  let tail := (0x80, 0xBF)
  if lead < 0x80 then some []
  else if lead < 0xC2 then none
  else if lead < 0xE0 then some [tail]
  else if lead = 0xE0 then some [(0xA0, 0xBF), tail]
  else if lead = 0xED then some [(0x80, 0x9F), tail]
  else if lead < 0xF0 then some [tail, tail]
  else if lead = 0xF0 then some [(0x90, 0xBF), tail, tail]
  else if lead < 0xF4 then some [tail, tail, tail]
  else if lead = 0xF4 then some [(0x80, 0x8F), tail, tail]
  else none

/-- The bits of a lead byte that belong to the character. -/
def leadBits (lead : UInt8) : Nat :=
  if lead < 0x80 then lead.toNat
  else if lead < 0xE0 then lead.toNat % 0x20
  else if lead < 0xF0 then lead.toNat % 0x10
  else lead.toNat % 0x08

/-- Takes bytes within the bounds onto `value`, as many as follow; the value is missing where a
byte is. -/
def takeTail : (bounds : List (UInt8 × UInt8)) → (value : Nat) → List UInt8 →
    Option Nat × List UInt8
  | [], value, s => (some value, s)
  | _ :: _, _, [] => (none, [])
  | (low, high) :: bounds, value, b :: s =>
    if low ≤ b ∧ b ≤ high then takeTail bounds (value * 0x40 + b.toNat % 0x40) s
    else (none, b :: s)

theorem length_takeTail_le (bounds : List (UInt8 × UInt8)) (value : Nat) (s : List UInt8) :
    (takeTail bounds value s).2.length ≤ s.length := by
  induction bounds generalizing value s with
  | nil => simp [takeTail]
  | cons bound bounds ih =>
    cases s with
    | nil => simp [takeTail]
    | cons b s =>
      by_cases h : bound.1 ≤ b ∧ b ≤ bound.2
      · simpa [takeTail, h] using Nat.le_succ_of_le (ih _ s)
      · simp [takeTail, h]

/-- The characters of a text; a part that is no character gives `none`. -/
def parts : List UInt8 → List (Option Char)
  | [] => []
  | lead :: s =>
    match continuation lead with
    | none => none :: parts s
    | some bounds =>
      let tail := takeTail bounds (leadBits lead) s
      tail.1.map Char.ofNat :: parts tail.2
termination_by s => s.length
decreasing_by
  · simp
  · exact Nat.lt_succ_of_le (length_takeTail_le _ _ _)

/-- The text, if every part is a character. -/
def decode? (s : List UInt8) : Option String := ((parts s).mapM id).map String.ofList

/-- The text with a replacement character for each part that is none. -/
def display (s : List UInt8) : String :=
  String.ofList ((parts s).map (·.getD '\uFFFD'))

end SubscriberContract.Text.Utf8
