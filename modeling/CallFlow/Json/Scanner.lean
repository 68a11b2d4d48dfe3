import CallFlow.Json.Error

/-! The small steps of reading a JSON text: blanks, words, strings, numbers, and what stands between
items and fields. A step that succeeds says what is left and that it is shorter than before. -/

namespace CallFlow.Json
set_option autoImplicit false

/-- A result and what is left of the text, which is shorter than the bound. -/
structure Taken (α : Type) (bound : Nat) where
  value : α
  rest : List Char
  within : rest.length < bound

namespace Taken
variable {α β : Type} {m n : Nat}

def map (f : α → β) (x : Taken α m) : Taken β m := ⟨f x.value, x.rest, x.within⟩

def widen (x : Taken α m) (h : m ≤ n) : Taken α n :=
  ⟨x.value, x.rest, Nat.lt_of_lt_of_le x.within h⟩

def behind (x : Taken α m) (h : m < n) : Taken α n := x.widen (Nat.le_of_lt h)

end Taken

abbrev Reader (α : Type) := (s : List Char) → Except Error (Taken α s.length)

def fail {α : Type} (f : Fault) : Except Error α := .error (.malformed f)

def isSpace (c : Char) : Bool := c == ' ' || c == '\t' || c == '\n' || c == '\r'

def skipSpace (s : List Char) : List Char := s.dropWhile isSpace

theorem length_skipSpace_le (s : List Char) : (skipSpace s).length ≤ s.length :=
  (List.dropWhile_sublist isSpace).length_le

theorem length_lt_of_skipSpace {s rest : List Char} {c : Char} (h : skipSpace s = c :: rest) :
    rest.length < s.length :=
  Nat.lt_of_lt_of_le (h ▸ Nat.lt_succ_self _) (length_skipSpace_le s)

theorem length_le_of_skipSpace {s rest : List Char} {c : Char} (h : skipSpace s = c :: rest) :
    rest.length ≤ s.length := Nat.le_of_lt (length_lt_of_skipSpace h)

def takeWord {α : Type} (value : α) :
    (word s : List Char) → Except Error (Taken α (s.length + 1))
  | [], s => .ok ⟨value, s, Nat.lt_succ_self _⟩
  | _ :: _, [] => fail .endInValue
  | w :: word, c :: s =>
    if c = w then (takeWord value word s).map (·.widen (Nat.le_succ _)) else fail .expectedWord

/-! Strings -/

theorem length_lt_cons_cons {α : Type} (a b : α) (s : List α) : s.length < (a :: b :: s).length :=
  Nat.lt_succ_of_lt (Nat.lt_succ_self _)

theorem length_le_cons_cons {α : Type} (a b : α) (s : List α) : s.length ≤ (a :: b :: s).length :=
  Nat.le_of_lt (length_lt_cons_cons a b s)

def hexValue? (c : Char) : Option Nat :=
  if c.isDigit then some (c.toNat - '0'.toNat)
  else if 'a' ≤ c ∧ c ≤ 'f' then some (c.toNat - 'a'.toNat + 10)
  else if 'A' ≤ c ∧ c ≤ 'F' then some (c.toNat - 'A'.toNat + 10)
  else none

def leadingBytes (s : List Char) : Nat := (String.ofList (s.take 4)).utf8ByteSize

def takeUnit (s : List Char) : Except Error (Taken Nat s.length) :=
  if leadingBytes s < 4 then fail .endInString
  else match s with
    | a :: b :: c :: d :: rest =>
      match hexValue? a, hexValue? b, hexValue? c, hexValue? d with
      | some a, some b, some c, some d =>
        .ok ⟨((a * 16 + b) * 16 + c) * 16 + d, rest,
          by simp only [List.length_cons]; omega⟩
      | _, _, _, _ => fail .invalidEscape
    | _ => fail .invalidEscape

def isHighSurrogate (n : Nat) : Bool := 0xD800 ≤ n && n < 0xDC00
def isLowSurrogate (n : Nat) : Bool := 0xDC00 ≤ n && n < 0xE000

def takeLowSurrogate (s : List Char) : Except Error (Taken Nat s.length) :=
  match s with
  | [] => fail .endInString
  | '\\' :: [] => fail .endInString
  | '\\' :: 'u' :: rest => do
    let low ← takeUnit rest
    if isLowSurrogate low.value then .ok (low.widen (length_le_cons_cons ..))
    else fail .loneSurrogate
  | _ => fail .unfinishedSurrogate

/-- The character written by a four-digit escape, or by two for one beyond U+FFFF. -/
def takeCodePoint (s : List Char) : Except Error (Taken Char s.length) := do
  let first ← takeUnit s
  if isLowSurrogate first.value then fail .loneSurrogate
  else if isHighSurrogate first.value then do
    let second ← takeLowSurrogate first.rest
    .ok ⟨Char.ofNat (0x10000 + (first.value - 0xD800) * 0x400 + (second.value - 0xDC00)),
      second.rest, Nat.lt_trans second.within first.within⟩
  else .ok (first.map Char.ofNat)

def unescape? : Char → Option Char
  | '"' => some '"'
  | '\\' => some '\\'
  | '/' => some '/'
  | 'b' => some '\x08'
  | 'f' => some '\x0c'
  | 'n' => some '\n'
  | 'r' => some '\r'
  | 't' => some '\t'
  | _ => none

/-- The next character of a string, or none at its closing quote. -/
def takeChar (s : List Char) : Except Error (Taken (Option Char) s.length) :=
  match s with
  | [] => fail .endInString
  | '"' :: rest => .ok ⟨none, rest, by simp⟩
  | '\\' :: [] => fail .endInString
  | '\\' :: 'u' :: rest =>
    (takeCodePoint rest).map fun x => (x.map some).widen (length_le_cons_cons ..)
  | '\\' :: c :: rest =>
    match unescape? c with
    | some e => .ok ⟨some e, rest, length_lt_cons_cons ..⟩
    | none => fail .invalidEscape
  | c :: rest => if c.toNat < 0x20 then fail .controlCharacter else .ok ⟨some c, rest, by simp⟩

def takeChars (s : List Char) : Except Error (Taken (List Char) s.length) :=
  match takeChar s with
  | .error e => .error e
  | .ok ⟨none, rest, h⟩ => .ok ⟨[], rest, h⟩
  | .ok ⟨some c, rest, h⟩ =>
    (takeChars rest).map fun x => (x.map (c :: ·)).behind h
termination_by s.length

def takeString : Reader String := fun s => (takeChars s).map (·.map String.ofList)

/-- Passes one character of a string that nobody wants; true at the closing quote. Which code
points its escapes name does not matter. -/
def passChar (s : List Char) : Except Error (Taken Bool s.length) :=
  match s with
  | [] => fail .endInString
  | '"' :: rest => .ok ⟨true, rest, by simp⟩
  | '\\' :: [] => fail .endInString
  | '\\' :: 'u' :: rest =>
    (takeUnit rest).map fun x => (x.map fun _ => false).widen (length_le_cons_cons ..)
  | '\\' :: c :: rest =>
    if (unescape? c).isSome then .ok ⟨false, rest, length_lt_cons_cons ..⟩
    else fail .invalidEscape
  | c :: rest => if c.toNat < 0x20 then fail .controlCharacter else .ok ⟨false, rest, by simp⟩

def passString (s : List Char) : Except Error (Taken Unit s.length) :=
  match passChar s with
  | .error e => .error e
  | .ok ⟨true, rest, h⟩ => .ok ⟨(), rest, h⟩
  | .ok ⟨false, rest, h⟩ => (passString rest).map (·.behind h)
termination_by s.length

/-! Numbers -/

/-- Joins digits to a significand as long as it fits 64 bits; also the digits that do not. -/
def absorb : Nat → List Char → Nat × List Char
  | n, [] => (n, [])
  | n, d :: ds =>
    let m := 10 * n + (d.toNat - '0'.toNat)
    if m < UInt64.size then absorb m ds else (n, d :: ds)

/-- Multiplies by a power of ten, itself rounded to binary64. -/
def scaleUp (x : Binary64) (k : Nat) : Option Binary64 :=
  if k ≤ 308 then (Binary64.ofInt (Nat.pow 10 k)).bind x.mul
  else if x.steps = 0 then some x
  else none

/-- Divides by a power of ten, in steps of at most 308 places. -/
def scaleDown (x : Binary64) (k : Nat) : Option Binary64 :=
  if k ≤ 308 then (Binary64.ofInt (Nat.pow 10 k)).bind x.div
  else if x.steps = 0 then some x
  else ((Binary64.ofInt (Nat.pow 10 308)).bind x.div).bind fun y => scaleDown y (k - 308)
termination_by k

def realOf (negative : Bool) (significand : Nat) (exponent : Int) : Except Error Number :=
  let scaled := (Binary64.ofInt significand).bind fun x =>
    if 0 ≤ exponent then scaleUp x exponent.toNat else scaleDown x exponent.natAbs
  match scaled with
  | some x => .ok (.real (if negative then x.neg else x))
  | none => fail .numberOutOfRange

/-- A whole number of a document: 64 bits, signed if negative. What does not fit is rounded. -/
def wholeOf (negative : Bool) (significand : Nat) : Except Error Number :=
  if !negative then .ok (.int significand)
  else if significand = 0 ∨ UInt64.size < 2 * significand then realOf true significand 0
  else .ok (.int (-significand))

/-- The parts of a number behind its sign. A fraction has at least one digit, and so has an
exponent, which tells first whether it is negative. -/
structure Numeral where
  whole : List Char
  fraction : List Char
  exponent : Option (Bool × List Char)

/-- The number that its parts make. Of a whole part too long for 64 bits the last digits count as
zeros, and the fraction's digits that do not fit are lost. -/
def Numeral.value (negative : Bool) (n : Numeral) : Except Error Number :=
  let (significand, large) := absorb 0 n.whole
  let (significand, small) := absorb significand n.fraction
  let scale : Int := large.length - (n.fraction.length - small.length : Nat)
  match n.exponent with
  | some (down, digits) =>
    let e := Decimal.ofDigits digits
    if 2 * e < UInt32.size then realOf negative significand (if down then scale - e else scale + e)
    else if significand = 0 ∨ down then .ok (.real (Binary64.zero negative))
    else fail .numberOutOfRange
  | none =>
    if n.fraction.isEmpty && large.isEmpty then wholeOf negative significand
    else realOf negative significand scale

def takeDigits (s : List Char) : Taken (List Char) (s.length + 1) :=
  ⟨s.takeWhile Char.isDigit, s.dropWhile Char.isDigit,
    Nat.lt_succ_of_le (List.dropWhile_sublist Char.isDigit).length_le⟩

def takeSign (s : List Char) : Taken Bool (s.length + 1) :=
  ⟨(Decimal.takeSign s).1, (Decimal.takeSign s).2,
    Nat.lt_succ_of_le (Decimal.length_takeSign_le s)⟩

/-- At least one digit. Where the text ends before it, the caller's fault is reported. -/
def takeSomeDigits (atEnd : Fault) (s : List Char) :
    Except Error (Taken (List Char) (s.length + 1)) :=
  let digits := takeDigits s
  if !digits.value.isEmpty then .ok digits
  else fail (if s.isEmpty then atEnd else .invalidNumber)

def takeFraction (atEnd : Fault) (s : List Char) :
    Except Error (Taken (List Char) (s.length + 1)) :=
  match s with
  | '.' :: rest => (takeSomeDigits atEnd rest).map (·.widen (Nat.le_succ _))
  | rest => .ok ⟨[], rest, Nat.lt_succ_self _⟩

def takeExponent (atEnd : Fault) (s : List Char) :
    Except Error (Taken (Option (Bool × List Char)) (s.length + 1)) :=
  match s with
  | [] => .ok ⟨none, [], Nat.lt_succ_self _⟩
  | c :: rest =>
    if c = 'e' ∨ c = 'E' then
      let sign := takeSign rest
      (takeSomeDigits atEnd sign.rest).map fun digits =>
        (digits.map fun ds => some (sign.value, ds)).behind (Nat.succ_lt_succ sign.within)
    else .ok ⟨none, c :: rest, Nat.lt_succ_self _⟩

theorem length_takeDigits (s : List Char) :
    (takeDigits s).value.length + (takeDigits s).rest.length = s.length := by
  simp only [takeDigits, ← List.length_append, List.takeWhile_append_dropWhile]

/-- A number behind its sign: zero has no digit after it, and a fraction and an exponent may
follow. -/
def takeNumeral (atEnd : Fault) (s : List Char) : Except Error (Taken Numeral s.length) :=
  let whole := takeDigits s
  if h : whole.value.length = 0 then fail (if s.isEmpty then atEnd else .invalidNumber)
  else if whole.value.head? = some '0' ∧ 1 < whole.value.length then fail .invalidNumber
  else do
    let fraction ← takeFraction atEnd whole.rest
    let exponent ← takeExponent atEnd fraction.rest
    .ok ⟨⟨whole.value, fraction.value, exponent.value⟩, exponent.rest, by
      have := length_takeDigits s
      have := fraction.within
      have := exponent.within
      simp only [whole] at *
      omega⟩

end CallFlow.Json
