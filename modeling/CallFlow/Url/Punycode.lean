/-! Punycode. A text is written as its ASCII characters and, behind them, where which other ones are
put in, in ascending order of the characters and from left to right. Each is written as the number
of places that are passed over to get there, counting all places of one character before those of
the next one; the digits of such a number tell where it ends. -/

namespace CallFlow.Url.Punycode
set_option autoImplicit false

def digitChar (d : Nat) : Char :=
  if d < 26 then Char.ofNat (0x61 + d) else Char.ofNat (0x30 + (d - 26))

def digitValue? (c : Char) : Option Nat :=
  if 'a' ≤ c ∧ c ≤ 'z' then some (c.toNat - 'a'.toNat)
  else if 'A' ≤ c ∧ c ≤ 'Z' then some (c.toNat - 'A'.toNat)
  else if c.isDigit then some (c.toNat - '0'.toNat + 26)
  else none

/-- The first value that a digit does not end a number with; `k` is 36 times the digit's place. -/
def threshold (bias k : Nat) : Nat := if k ≤ bias then 1 else min 26 (k - bias)

theorem threshold_pos (bias k : Nat) : 0 < threshold bias k := by
  unfold threshold
  split <;> omega

theorem threshold_le (bias k : Nat) : threshold bias k ≤ 26 := by
  unfold threshold
  split <;> omega

def scaleDown (k delta : Nat) : Nat :=
  if 455 < delta then scaleDown (k + 36) (delta / 35) else k + 36 * delta / (delta + 38)
termination_by delta

/-- The bias behind a number, which is the first one or not, once there are `count` characters. -/
def adapt (first : Bool) (count delta : Nat) : Nat :=
  let scaled := if first then delta / 700 else delta / 2
  scaleDown 0 (scaled + scaled / count)

/-! Writing -/

def writeNumber (bias k n : Nat) : List Char :=
  if n < threshold bias k then [digitChar n]
  else
    digitChar (threshold bias k + (n - threshold bias k) % (36 - threshold bias k)) ::
      writeNumber bias (k + 36) ((n - threshold bias k) / (36 - threshold bias k))
termination_by n
decreasing_by
  have hpos := threshold_pos bias k
  have hdiv := Nat.div_le_self (n - threshold bias k) (36 - threshold bias k)
  omega

def writeNumbers (first : Bool) (bias count : Nat) : List Nat → List Char
  | [] => []
  | n :: rest =>
    writeNumber bias 36 n ++ writeNumbers false (adapt first (count + 1) n) (count + 1) rest

/-- The places passed over to put in every `m`, and those passed over behind the last one. -/
def stepsFor (m passed : Nat) : List Char → List Nat × Nat
  | [] => ([], passed)
  | c :: rest =>
    if c.toNat < m then stepsFor m (passed + 1) rest
    else if c.toNat = m then
      let (steps, behind) := stepsFor m 0 rest
      (passed :: steps, behind)
    else stepsFor m passed rest

/-- The steps for the code points of a list, in ascending order, from the places of `n` on. -/
def stepsFrom (text : List Char) (n count passed : Nat) : List Nat → List Nat
  | [] => []
  | m :: rest =>
    let (steps, behind) := stepsFor m (passed + (m - n) * (count + 1)) text
    steps ++ stepsFrom text (m + 1) (count + steps.length) (behind + 1) rest

def isAscii (c : Char) : Bool := c.toNat < 0x80

def insertOnce (m : Nat) : List Nat → List Nat
  | [] => [m]
  | n :: rest =>
    if m < n then m :: n :: rest else if m = n then n :: rest else n :: insertOnce m rest

/-- The code points outside ASCII, each once and in ascending order. -/
def codePoints (text : List Char) : List Nat :=
  (text.filter (!isAscii ·)).foldr (fun c => insertOnce c.toNat) []

def encode (text : List Char) : List Char :=
  let basic := text.filter isAscii
  let steps := stepsFrom text 0x80 basic.length 0 (codePoints text)
  let digits := writeNumbers true 72 basic.length steps
  if basic.isEmpty then digits else basic ++ '-' :: digits

/-! Reading -/

def readNumber? (bias k weight n : Nat) : List Char → Option (Nat × List Char)
  | [] => none
  | c :: rest =>
    match digitValue? c with
    | none => none
    | some d =>
      if d < threshold bias k then some (n + d * weight, rest)
      else readNumber? bias (k + 36) (weight * (36 - threshold bias k)) (n + d * weight) rest

theorem length_lt_of_readNumber? {bias : Nat} {text rest : List Char} {k weight n m : Nat}
    (h : readNumber? bias k weight n text = some (m, rest)) : rest.length < text.length := by
  induction text generalizing k weight n with
  | nil => cases h
  | cons c text ih =>
    rw [readNumber?] at h
    split at h
    · cases h
    · split at h
      · cases h
        exact Nat.lt_succ_self _
      · exact Nat.lt_succ_of_lt (ih h)

def readNumbers? (first : Bool) (bias count : Nat) (text : List Char) : Option (List Nat) :=
  if text.isEmpty then some []
  else match _h : readNumber? bias 36 1 0 text with
    | none => none
    | some (n, rest) =>
      (readNumbers? false (adapt first (count + 1) n) (count + 1) rest).map (n :: ·)
termination_by text.length
decreasing_by exact length_lt_of_readNumber? _h

/-- Puts characters in, from place `i` of the code point `n` on. -/
def putIn? (n i : Nat) (text : List Char) : List Nat → Option (List Char)
  | [] => some text
  | step :: rest =>
    let places := text.length + 1
    let m := n + (i + step) / places
    let place := (i + step) % places
    if m.isValidChar then putIn? m (place + 1) (text.insertIdx place (Char.ofNat m)) rest else none

/-- The ASCII characters before the last hyphen, if there are any, and the digits. -/
def splitDigits (text : List Char) : List Char × List Char :=
  match text.reverse.dropWhile (· != '-') with
  | _ :: c :: basic => ((c :: basic).reverse, (text.reverse.takeWhile (· != '-')).reverse)
  | _ => ([], text)

def decode? (text : List Char) : Option (List Char) :=
  let (basic, digits) := splitDigits text
  if basic.all isAscii then
    (readNumbers? true 72 basic.length digits).bind (putIn? 0x80 0 basic)
  else none

end CallFlow.Url.Punycode
