import SubscriberContract.Text.BreakClass

/-!
# Break opportunities

Where a line may be broken, by Unicode's line breaking algorithm. Whether a break is allowed between
two characters follows from the class of the second, from a bounded memory of what came before it
and, for a few classes, from the character that follows.
-/

namespace SubscriberContract.Text
namespace BreakClass

/-- A class that stands for letters. -/
def isLetter (c : BreakClass) : Bool := c == .al || c == .hl || c == .dottedCircle

/-- A class that stands for a pictograph or ideograph. -/
def isPicture (c : BreakClass) : Bool := c == .ideograph || c == .eb || c == .em

def isHangul (c : BreakClass) : Bool := [.jl, .jv, .jt, .h2, .h3].contains c

def isQuotation (c : BreakClass) : Bool := c == .qu || c == .quOpen || c == .quClose

def isOpening (c : BreakClass) : Bool := c == .op || c == .opWide

/-- A mark attaches to the character before it and counts as that character. -/
def isMark (c : BreakClass) : Bool := c == .cm || c == .zwj

/-- A class that marks do not attach to. -/
def standsAlone (c : BreakClass) : Bool := [.bk, .cr, .lf, .nl, .sp, .zw].contains c

/-- A class that can carry a syllable. -/
def isAksara (c : BreakClass) : Bool := [.ak, .aks, .dottedCircle].contains c

/-- What an opening quotation mark follows; so does the start of the text. -/
def beginsQuotation (c : BreakClass) : Bool :=
  c.isQuotation || c.isOpening || c == .gl || c.standsAlone

/-- What follows a closing quotation mark; so does the end of the text. -/
def endsQuotation (c : BreakClass) : Bool :=
  c.isQuotation || c.standsAlone || [.gl, .wj, .cl, .cp, .ex, .is, .sy].contains c

/-- Whether two characters without space between them stay together, by the rules that look at
nothing else. -/
def together (a b : BreakClass) : Bool :=
  [.ba, .hy, .ns].contains b || a == .bb
  || (a == .sy && b == .hl)
  || b == .inseparable
  || (a.isLetter && b == .nu) || (a == .nu && b.isLetter)
  || (a == .pr && b.isPicture) || (a.isPicture && b == .po)
  || ((a == .pr || a == .po) && b.isLetter) || (a.isLetter && (b == .pr || b == .po))
  || ([.cl, .cp, .nu].contains a && (b == .po || b == .pr))
  || ((a == .po || a == .pr) && (b.isOpening || b == .nu))
  || ([.hy, .is, .nu, .sy].contains a && b == .nu)
  || (a == .jl && [.jl, .jv, .h2, .h3].contains b)
  || ((a == .jv || a == .h2) && (b == .jv || b == .jt))
  || ((a == .jt || a == .h3) && b == .jt)
  || (a.isHangul && b == .po) || (a == .pr && b.isHangul)
  || (a.isLetter && b.isLetter)
  || (a == .ap && b.isAksara) || (a.isAksara && (b == .vi || b == .vf))
  || (a == .is && b.isLetter)
  || ((a.isLetter || a == .nu) && b == .op) || (a == .cp && (b.isLetter || b == .nu))
  || (a == .eb && b == .em)

end BreakClass

/-- What is remembered of the text so far. Marks count as the character they attach to. -/
structure BreakMemory where
  last : BreakClass
  /-- The class before `last`. -/
  previous : Option BreakClass
  /-- The class before the spaces at the end; `last` where there are none. -/
  beforeSpaces : BreakClass
  /-- Whether the text ends in a mark that opens a quotation, apart from spaces. -/
  quoting : Bool
  /-- Whether the very last character is a zero-width joiner. -/
  joined : Bool
  /-- Whether an odd number of regional indicators ends the text. -/
  oddIndicators : Bool

namespace BreakMemory

/-- Whether a character of this class attaches to what is remembered. -/
def attaches (m : BreakMemory) (c : BreakClass) : Bool := c.isMark && !m.last.standsAlone

/-- The class that a character counts as: a mark on its own is a letter. -/
def effective (c : BreakClass) : BreakClass := if c.isMark then .al else c

/-- The class of the next character that is not attached to the one before. -/
def following (rest : List BreakClass) : Option BreakClass :=
  (rest.dropWhile BreakClass.isMark).head?

/-- Whether a syllable goes on with a character of class `c`: after a virama, or when its own final
vowel is killed. -/
def syllableGoesOn (m : BreakMemory) (c : BreakClass) (rest : List BreakClass) : Bool :=
  (m.last == .vi && m.previous.any BreakClass.isAksara && (c == .ak || c == .dottedCircle))
    || (m.last.isAksara && c.isAksara && following rest == some .vf)

/-- Whether a line may be broken before a character of class `c`, with the classes of what
follows it. -/
def mayBreak (m : BreakMemory) (c : BreakClass) (rest : List BreakClass) : Bool :=
  if [.bk, .lf, .nl].contains m.last then true
  else if m.last == .cr then c != .lf
  else if c.standsAlone then false
  else if m.beforeSpaces == .zw then true
  else if m.joined then false
  else if m.attaches c then false
  else
    let c := effective c
    if c == .wj || m.last == .wj || m.last == .gl then false
    else if c == .gl && !([.sp, .ba, .hy].contains m.last) then false
    else if [.cl, .cp, .ex, .is, .sy].contains c then false
    else if m.beforeSpaces.isOpening then false
    else if m.quoting then false
    else if c == .quClose && (following rest).all BreakClass.endsQuotation then false
    else if (m.beforeSpaces == .cl || m.beforeSpaces == .cp) && c == .ns then false
    else if m.beforeSpaces == .b2 && c == .b2 then false
    else if m.last == .sp then true
    else if c.isQuotation || m.last.isQuotation then false
    else if c == .cb || m.last == .cb then true
    else if m.previous == some .hl && (m.last == .hy || m.last == .ba) then false
    else if m.last == .ri && c == .ri then !m.oddIndicators
    else if m.syllableGoesOn c rest then false
    else !m.last.together c

def start (c : BreakClass) : BreakMemory :=
  let e := effective c
  ⟨e, none, e, e == .quOpen, c == .zwj, e == .ri⟩

def push (m : BreakMemory) (c : BreakClass) : BreakMemory :=
  if m.attaches c then { m with joined := c == .zwj }
  else
    let e := effective c
    { last := e
      previous := some m.last
      beforeSpaces := if e == .sp then m.beforeSpaces else e
      quoting := if e == .sp then m.quoting else e == .quOpen && m.last.beginsQuotation
      joined := c == .zwj
      oddIndicators := e == .ri && !(m.last == .ri && m.oddIndicators) }

end BreakMemory

/-- For each class of a text, whether a line may be broken before it, given what came before. -/
def breaksAfter (m : BreakMemory) : List BreakClass → List Bool
  | [] => []
  | c :: rest => m.mayBreak c rest :: breaksAfter (m.push c) rest

/-- For each character of a text, whether a line may be broken before it. -/
def breaksBefore (s : List Char) : List Bool :=
  match s.map BreakClass.of with
  | [] => []
  | c :: rest => false :: breaksAfter (.start c) rest

end SubscriberContract.Text
