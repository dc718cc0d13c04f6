import SubscriberContract.Json.Tree

/-!
# The texts of a tree

`Written k j t` says that `t` is a text of the tree `j`: white space may stand between tokens, and a
character of a string may be written in several ways. An exact text determines its tree. A loose one
is any text that fits the grammar; where it holds a number, or a string that is no text because of a
surrogate on its own, the tree may hold any. The compact text of a tree is an exact one
(`written_array`, `written_object`).
-/

namespace SubscriberContract.Json

/-- White space only. -/
def Blank (w : Input) : Prop := ∀ c ∈ w, isSpace c = true

instance (w : Input) : Decidable (Blank w) := decidable_of_iff (w.all isSpace) List.all_eq_true

@[simp] theorem blank_nil : Blank [] := List.forall_mem_nil _

/-- How closely a text determines its tree. -/
inductive Precision
  | exact | loose
deriving DecidableEq, Repr

/-! ## Strings -/

/-- The ways to write one character inside a string. -/
inductive WrittenChar : Char → Input → Prop
  | plain {c : Char} (hq : c ≠ '"') (hb : c ≠ '\\') (hc : ¬ c < ' ') : WrittenChar c [c]
  | short {c e : Char} (h : unescape? e = some c) : WrittenChar c ['\\', e]
  | code {a b c d : Char} {n : Nat} (h : hexQuad? a b c d = some n) (hl : isLeading n = false)
      (ht : isTrailing n = false) : WrittenChar (Char.ofNat n) ['\\', 'u', a, b, c, d]
  | pair {a b c d a' b' c' d' : Char} {n m : Nat} (hn : hexQuad? a b c d = some n)
      (hl : isLeading n = true) (hm : hexQuad? a' b' c' d' = some m) (ht : isTrailing m = true) :
      WrittenChar (joinSurrogates n m) ['\\', 'u', a, b, c, d, '\\', 'u', a', b', c', d']

inductive WrittenChars : List Char → Input → Prop
  | nil : WrittenChars [] []
  | cons {c : Char} {cs : List Char} {u t : Input} (hc : WrittenChar c u)
      (hcs : WrittenChars cs t) : WrittenChars (c :: cs) (u ++ t)

/-- What the grammar lets stand inside a string. -/
inductive Piece : Input → Prop
  | plain {c : Char} (hq : c ≠ '"') (hb : c ≠ '\\') (hc : ¬ c < ' ') : Piece [c]
  | short {c e : Char} (h : unescape? e = some c) : Piece ['\\', e]
  | code {a b c d : Char} {n : Nat} (h : hexQuad? a b c d = some n) :
      Piece ['\\', 'u', a, b, c, d]

inductive Pieces : Input → Prop
  | nil : Pieces []
  | cons {u t : Input} (hu : Piece u) (ht : Pieces t) : Pieces (u ++ t)

/-- A string and what stands between its quotes. -/
inductive WrittenText : Precision → String → Input → Prop
  | text {k : Precision} {s : String} {t : Input} (h : WrittenChars s.toList t) : WrittenText k s t
  | odd {s : String} {t : Input} (h : Pieces t) (hs : ∀ cs, ¬ WrittenChars cs t) :
      WrittenText .loose s t

theorem Pieces.append {t u : Input} (ht : Pieces t) (hu : Pieces u) : Pieces (t ++ u) := by
  induction ht with
  | nil => exact hu
  | cons hp _ ih =>
    rw [List.append_assoc]
    exact .cons hp ih

theorem Piece.pieces {u : Input} (h : Piece u) : Pieces u := List.append_nil u ▸ .cons h .nil

theorem WrittenChar.pieces {c : Char} {u : Input} (h : WrittenChar c u) : Pieces u := by
  cases h with
  | plain hq hb hc => exact (Piece.plain hq hb hc).pieces
  | short he => exact (Piece.short he).pieces
  | code hn _ _ => exact (Piece.code hn).pieces
  | pair hn _ hm _ => exact (Piece.code hn).pieces.append (Piece.code hm).pieces

theorem WrittenChars.pieces {cs : List Char} {t : Input} (h : WrittenChars cs t) : Pieces t := by
  induction h with
  | nil => exact .nil
  | cons hc _ ih => exact hc.pieces.append ih

theorem WrittenText.pieces {k : Precision} {s : String} {t : Input} (h : WrittenText k s t) :
    Pieces t := by
  cases h with
  | text h => exact h.pieces
  | odd h _ => exact h

/-! ## Numbers -/

/-- The number that `n` after a minus sign stands for; it is an integer where that fits 64 bits. -/
def Number.minus (n : Nat) : Number :=
  if 0 < n ∧ n ≤ Nat.pow 2 63 then .negative n else Json.floating true n.toUInt64.toFloat

def Digits (t : Input) : Prop := t ≠ [] ∧ ∀ c ∈ t, isDigit c = true

/-- What the grammar lets stand after the integer part of a number: a fraction. -/
inductive Fraction : Input → Prop
  | absent : Fraction []
  | digits {ds : Input} (h : Digits ds) : Fraction ('.' :: ds)

/-- What the grammar lets stand after the fraction of a number: an exponent. -/
inductive Exponent : Input → Prop
  | absent : Exponent []
  | digits {e : Char} {sign ds : Input} (he : e = 'e' ∨ e = 'E')
      (hs : sign = [] ∨ sign = ['+'] ∨ sign = ['-']) (h : Digits ds) : Exponent (e :: (sign ++ ds))

/-- A number of the grammar without its sign. -/
inductive Unsigned : Input → Prop
  | mk {ds f e : Input} (hd : Digits ds) (hz : ds.head? = some '0' → ds = ['0']) (hf : Fraction f)
      (he : Exponent e) : Unsigned (ds ++ (f ++ e))

/-- A number and a text of it. -/
inductive Numeral : Precision → Number → Input → Prop
  | natural {k : Precision} {n : Nat} (h : n < UInt64.size) :
      Numeral k (.natural n) (Nat.toDigits 10 n)
  | minus {k : Precision} {n : Nat} (h : n < UInt64.size) :
      Numeral k (.minus n) ('-' :: Nat.toDigits 10 n)
  | positive {n : Number} {t : Input} (h : Unsigned t) : Numeral .loose n t
  | negative {n : Number} {t : Input} (h : Unsigned t) : Numeral .loose n ('-' :: t)

/-! ## Values -/

mutual

inductive Written (k : Precision) : Json → Input → Prop
  | null : Written k .null ['n', 'u', 'l', 'l']
  | yes : Written k (.boolean true) ['t', 'r', 'u', 'e']
  | no : Written k (.boolean false) ['f', 'a', 'l', 's', 'e']
  | number {n : Number} {t : Input} (h : Numeral k n t) : Written k (.number n) t
  | text {s : String} {t : Input} (h : WrittenText k s t) :
      Written k (.text s) ('"' :: (t ++ ['"']))
  | emptyArray {w : Input} (hw : Blank w) : Written k (.array []) ('[' :: (w ++ [']']))
  | array {w t u : Input} {j : Json} {items : List Json} (hw : Blank w) (hj : Written k j t)
      (hu : WrittenItems k items u) : Written k (.array (j :: items)) ('[' :: (w ++ (t ++ u)))
  | emptyObject {w : Input} (hw : Blank w) : Written k (.object []) ('\x7b' :: (w ++ ['\x7d']))
  | object {w t u : Input} {name : String} {j : Json} {members : List (String × Json)}
      (hw : Blank w) (hj : WrittenMember k name j t) (hu : WrittenMembers k members u) :
      Written k (.object ((name, j) :: members)) ('\x7b' :: (w ++ (t ++ u)))

/-- What follows an item of an array, up to the closing bracket. -/
inductive WrittenItems (k : Precision) : List Json → Input → Prop
  | close {w : Input} (hw : Blank w) : WrittenItems k [] (w ++ [']'])
  | next {w w' t u : Input} {j : Json} {items : List Json} (hw : Blank w) (hw' : Blank w')
      (hj : Written k j t) (hu : WrittenItems k items u) :
      WrittenItems k (j :: items) (w ++ ',' :: (w' ++ (t ++ u)))

/-- A name, a colon and a value. -/
inductive WrittenMember (k : Precision) : String → Json → Input → Prop
  | mk {w w' t u : Input} {name : String} {j : Json} (hn : WrittenText k name u) (hw : Blank w)
      (hw' : Blank w') (hj : Written k j t) :
      WrittenMember k name j ('"' :: (u ++ '"' :: (w ++ ':' :: (w' ++ t))))

/-- What follows a member of an object, up to the closing brace. -/
inductive WrittenMembers (k : Precision) : List (String × Json) → Input → Prop
  | close {w : Input} (hw : Blank w) : WrittenMembers k [] (w ++ ['\x7d'])
  | next {w w' t u : Input} {name : String} {j : Json} {members : List (String × Json)}
      (hw : Blank w) (hw' : Blank w') (hj : WrittenMember k name j t)
      (hu : WrittenMembers k members u) :
      WrittenMembers k ((name, j) :: members) (w ++ ',' :: (w' ++ (t ++ u)))

end

/-! ## The compact text -/

/-- What an escape of a control character stands for. -/
theorem hexQuad?_control {n : Nat} (hn : n < 32) :
    hexQuad? '0' '0' (hexDigit (n / 16)) (hexDigit (n % 16)) = some n := by
  have h : ∀ n < 32, hexQuad? '0' '0' (hexDigit (n / 16)) (hexDigit (n % 16)) = some n := by
    decide
  exact h n hn

theorem writtenChar_control {c : Char} (hc : c < ' ') : WrittenChar c
    ['\\', 'u', '0', '0', hexDigit (c.toNat / 16), hexDigit (c.toNat % 16)] := by
  have hn : c.toNat < 32 := hc
  have hl : isLeading c.toNat = false := by
    rw [isLeading, Bool.and_eq_false_iff, decide_eq_false_iff_not]
    exact .inl (by omega)
  have ht : isTrailing c.toNat = false := by
    rw [isTrailing, Bool.and_eq_false_iff, decide_eq_false_iff_not]
    exact .inl (by omega)
  have h := WrittenChar.code (hexQuad?_control hn) hl ht
  rwa [Char.ofNat_toNat] at h

theorem writtenChar_escaped (c : Char) : WrittenChar c (escaped c) := by
  unfold escaped
  split
  · exact .short rfl
  · exact .short rfl
  · exact .short rfl
  · exact .short rfl
  · exact .short rfl
  · exact .short rfl
  · exact .short rfl
  · next hq hb _ _ _ _ _ =>
    split
    · next hc => exact writtenChar_control hc
    · next hc => exact .plain hq hb hc

theorem writtenChars_escaped (cs : List Char) : WrittenChars cs (cs.flatMap escaped) := by
  induction cs with
  | nil => exact .nil
  | cons c cs ih => exact .cons (writtenChar_escaped c) ih

variable {k : Precision}

theorem writtenText_escaped (s : String) : WrittenText k s (s.toList.flatMap escaped) :=
  .text (writtenChars_escaped s.toList)

theorem stringChars_append (name : String) (s : Input) :
    stringChars name ++ s = '"' :: (name.toList.flatMap escaped ++ '"' :: s) := by
  simp [stringChars]

theorem written_text (s : String) : Written k (.text s) (stringChars s) :=
  .text (writtenText_escaped s)

theorem written_natural {n : Nat} (h : n < UInt64.size) :
    Written k (.natural n) (Nat.toDigits 10 n) := .number (.natural h)

theorem written_array {items : List Json} (h : ∀ j ∈ items, Written k j j.chars) :
    Written k (.array items) (Json.array items).chars := by
  have rest : ∀ (js : List Json) (j : Json), (∀ i ∈ js, Written k i i.chars) →
      ∃ u, WrittenItems k js u ∧ itemChars (j :: js) = j.chars ++ u := by
    intro js
    induction js with
    | nil => exact fun j _ => ⟨[']'], .close blank_nil, rfl⟩
    | cons i js ih =>
      intro j hjs
      obtain ⟨u, hu, hc⟩ := ih i fun i' hi' => hjs i' (List.mem_cons_of_mem i hi')
      refine ⟨_, .next blank_nil blank_nil (hjs i List.mem_cons_self) hu, ?_⟩
      rw [itemChars, hc]
      rfl
  match items with
  | [] => exact .emptyArray blank_nil
  | j :: js =>
    obtain ⟨u, hu, hc⟩ := rest js j fun i hi => h i (List.mem_cons_of_mem j hi)
    rw [chars, hc]
    exact .array blank_nil (h j List.mem_cons_self) hu

theorem written_object {members : List (String × Json)}
    (h : ∀ p ∈ members, Written k p.2 p.2.chars) :
    Written k (.object members) (Json.object members).chars := by
  have member : ∀ (name : String) {j : Json}, Written k j j.chars →
      WrittenMember k name j (stringChars name ++ ':' :: j.chars) := by
    intro name j hj
    rw [stringChars_append]
    exact .mk (writtenText_escaped name) blank_nil blank_nil hj
  have rest : ∀ (ms : List (String × Json)) (name : String) (j : Json),
      (∀ p ∈ ms, Written k p.2 p.2.chars) →
      ∃ u, WrittenMembers k ms u ∧
        memberChars ((name, j) :: ms) = (stringChars name ++ ':' :: j.chars) ++ u := by
    intro ms
    induction ms with
    | nil => exact fun name j _ => ⟨['\x7d'], .close blank_nil, by simp [memberChars]⟩
    | cons m ms ih =>
      intro name j hms
      obtain ⟨u, hu, hc⟩ := ih m.1 m.2 fun p hp => hms p (List.mem_cons_of_mem m hp)
      refine ⟨_, .next blank_nil blank_nil (member m.1 (hms m List.mem_cons_self)) hu, ?_⟩
      rw [memberChars, hc]
      simp
  match members with
  | [] => exact .emptyObject blank_nil
  | (name, j) :: ms =>
    obtain ⟨u, hu, hc⟩ := rest ms name j fun p hp => h p (List.mem_cons_of_mem _ hp)
    rw [chars, hc]
    exact .object blank_nil (member name (h (name, j) List.mem_cons_self)) hu

/-! ## Depth -/

theorem depthOfItems_le {items : List Json} {n : Nat} :
    depthOfItems items ≤ n ↔ ∀ j ∈ items, j.depth ≤ n := by
  induction items with
  | nil => simp [depthOfItems]
  | cons j items ih => rw [depthOfItems, Nat.max_le, ih, List.forall_mem_cons]

theorem depthOfMembers_le {members : List (String × Json)} {n : Nat} :
    depthOfMembers members ≤ n ↔ ∀ p ∈ members, p.2.depth ≤ n := by
  induction members with
  | nil => simp [depthOfMembers]
  | cons p members ih => rw [depthOfMembers, Nat.max_le, ih, List.forall_mem_cons]

theorem depth_array_le {items : List Json} {n : Nat} :
    (Json.array items).depth ≤ n + 1 ↔ ∀ j ∈ items, j.depth ≤ n := by
  rw [depth, Nat.add_le_add_iff_right, depthOfItems_le]

theorem depth_object_le {members : List (String × Json)} {n : Nat} :
    (Json.object members).depth ≤ n + 1 ↔ ∀ p ∈ members, p.2.depth ≤ n := by
  rw [depth, Nat.add_le_add_iff_right, depthOfMembers_le]

/-- Room for an array is room for its brackets and, inside, for each item. -/
theorem room_of_depth_array {items : List Json} {room : Nat}
    (h : (Json.array items).depth ≤ room) : ∃ r, room = r + 1 ∧ ∀ j ∈ items, j.depth ≤ r := by
  cases room with
  | zero =>
    rw [depth] at h
    omega
  | succ r => exact ⟨r, rfl, depth_array_le.mp h⟩

theorem room_of_depth_object {members : List (String × Json)} {room : Nat}
    (h : (Json.object members).depth ≤ room) :
    ∃ r, room = r + 1 ∧ ∀ p ∈ members, p.2.depth ≤ r := by
  cases room with
  | zero =>
    rw [depth] at h
    omega
  | succ r => exact ⟨r, rfl, depth_object_le.mp h⟩

/-! ## What may follow a text -/

/-- The text does not go on with a number. -/
def Ends (s : Input) : Prop :=
  ∀ c ∈ s.head?, isSpace c = true ∨ c = ',' ∨ c = ']' ∨ c = '\x7d'

/-- After a number something else has to follow; everything else shows its end. -/
def Follows : Json → Input → Prop
  | .number _, s => Ends s
  | _, _ => True

end SubscriberContract.Json
