/-!
# Escape sequences

Terminals take an escape character and some characters after it as a command. Such a sequence shows
nothing, so it has no width and offers no place to break a line.
-/

namespace SubscriberContract.Text

/-- Where a text stands in an escape sequence. -/
inductive EscapeState
  | outside
  /-- After the escape character; one more character belongs to the sequence. -/
  | begun
  /-- In a control sequence, which its final character ends. -/
  | control
  /-- In a command to the system, which a bell or an escaped backslash ends. -/
  | command (previous : Char)
deriving DecidableEq, Repr

namespace EscapeState

def next : EscapeState → Char → EscapeState
  | .outside, c => if c = '\x1b' then .begun else .outside
  | .begun, c => if c = '[' then .control else if c = ']' then .command c else .outside
  | .control, c => if 0x40 ≤ c.toNat ∧ c.toNat ≤ 0x7e then .outside else .control
  | .command previous, c =>
    if c = '\x07' ∨ (c = '\\' ∧ previous = '\x1b') then .outside else .command c

/-- Whether a character here belongs to an escape sequence. -/
def hides (state : EscapeState) (c : Char) : Bool := state ≠ .outside ∨ c = '\x1b'

/-- For each character, whether it belongs to an escape sequence. -/
def hidden (state : EscapeState) : List Char → List Bool
  | [] => []
  | c :: s => state.hides c :: hidden (state.next c) s

end EscapeState

/-- The characters outside escape sequences. -/
def visible (s : List Char) : List Char :=
  (s.zip (EscapeState.hidden .outside s)).filterMap fun (c, h) => if h then none else some c

/-- Gives flags of the visible characters to all characters. The flag of a character that escape
sequences stand before goes to the first of them. -/
def spread : (inSequence : Bool) → (hidden flags : List Bool) → List Bool
  | _, [], _ => []
  | inSequence, h :: hs, flags =>
    (!inSequence && flags.headD false) :: spread h hs (if h then flags else flags.tail)

end SubscriberContract.Text
