import SubscriberContract.Text.Printable

/-!
# Quoted texts

A text inside a message stands between double quotes, with everything escaped that could not be
seen there.
-/

namespace SubscriberContract.Text

/-- The hexadecimal digits of a code point between braces. -/
def bracedHex (c : Char) : List Char :=
  ['\\', 'u', '\x7b'] ++ Nat.toDigits 16 c.toNat ++ ['\x7d']

def quotedChar (c : Char) : List Char :=
  match c with
  | '\x00' => ['\\', '0']
  | '\t' => ['\\', 't']
  | '\r' => ['\\', 'r']
  | '\n' => ['\\', 'n']
  | '"' => ['\\', '"']
  | '\\' => ['\\', '\\']
  | c => if isPrintable c then [c] else bracedHex c

def quoted (s : String) : String := String.ofList ('"' :: s.toList.flatMap quotedChar ++ ['"'])

end SubscriberContract.Text
