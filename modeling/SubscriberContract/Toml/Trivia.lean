import SubscriberContract.Toml.Trouble

/-!
# White space, line ends and comments in TOML
-/

namespace SubscriberContract.Toml

def isSpace (c : Char) : Bool := c == ' ' || c == '\t'

def skipSpaces (s : Input) : Input := s.dropWhile isSpace

/-- What follows a line end at the front, if there is one. -/
def lineEnd? : Input → Option Input
  | '\n' :: s => some s
  | '\r' :: '\n' :: s => some s
  | _ => none

/-- A control character other than the tab; such a character stands in no comment and no string. -/
def isControl (c : Char) : Bool := (c < ' ' && c != '\t') || c == '\x7f'

/-- Passes over a comment, if one begins here. -/
def skipComment : Input → Input
  | '#' :: s => s.dropWhile (!isControl ·)
  | s => s

/-- Passes over a line end, or stands at the end of the text. -/
def endLine (s : Input) : Except Trouble Input :=
  match lineEnd? s with
  | some s => .ok s
  | none => if s = [] then .ok [] else fail s

/-- Passes over the rest of a line, which may hold a comment. -/
def readRestOfLine (s : Input) : Except Trouble Input := endLine (skipComment (skipSpaces s))

/-- What is expected where a line has to end. -/
def lineRest : List String := ["newline", "`#`"]

/-- Passes over white space and line ends. -/
def skipBlankLines : (turns : Nat) → Input → Input
  | 0, s => s
  | turns + 1, s =>
    let s := skipSpaces s
    match lineEnd? s with
    | some s => skipBlankLines turns s
    | none => s

/-- Passes over white space, comments and line ends. A comment has to end with its line, and a
carriage return has to be part of a line end; reading stops after the character that is no line
end. -/
def skipTrivia : (turns : Nat) → Input → Except Trouble Input
  | 0, s => .ok s
  | turns + 1, s =>
    let s := skipSpaces s
    match s.head? with
    | some '#' | some '\n' | some '\r' =>
      match lineEnd? (skipComment s) with
      | some s => skipTrivia turns s
      | none => fail (skipComment s).tail
    | _ => .ok s

end SubscriberContract.Toml
