import CallFlow.Decimal

/-! The text of a binary64 number: the fewest decimal digits that read back as the number, and of
several such the nearest. -/

namespace CallFlow
set_option autoImplicit false

namespace Decimal

def stripZeros (negative : Bool) (coefficient : Nat) (exponent : Int) : Decimal :=
  if h : coefficient ≠ 0 ∧ coefficient % 10 = 0 then
    stripZeros negative (coefficient / 10) (exponent + 1)
  else ⟨negative, coefficient, exponent⟩
termination_by coefficient
decreasing_by omega

/-- Which numbers are written without an exponent, by the power of ten of their first digit. -/
structure Layout where
  plainFrom : Int
  plainBelow : Int

/-- JSON documents write an exponent from 1e16 on and below 0.00001. -/
def Layout.json : Layout := ⟨-5, 16⟩

def zeros (n : Nat) : List Char := List.replicate n '0'

def plainText (digits : List Char) (exponent : Int) : List Char :=
  let point : Int := digits.length + exponent
  if 0 ≤ exponent then digits ++ zeros exponent.toNat ++ ['.', '0']
  else if 0 < point then digits.take point.toNat ++ '.' :: digits.drop point.toNat
  else '0' :: '.' :: zeros (-point).toNat ++ digits

def scientificText (digits : List Char) (power : Int) : List Char :=
  let mantissa := match digits with
    | [d] => [d]
    | d :: ds => d :: '.' :: ds
    | [] => []
  mantissa ++ 'e' :: (if power < 0 then '-' else '+') :: Nat.toDigits 10 power.natAbs

def text (layout : Layout) (d : Decimal) : List Char :=
  let digits := Nat.toDigits 10 d.coefficient
  let power : Int := digits.length - 1 + d.exponent
  let body :=
    if layout.plainFrom ≤ power ∧ power < layout.plainBelow then plainText digits d.exponent
    else scientificText digits power
  if d.negative then '-' :: body else body

end Decimal

namespace Binary64

def leadingPower (x : Binary64) : Int :=
  ((Nat.toDigits 10 (x.steps * Nat.pow 10 400 / unit)).length : Int) - 401

/-- The magnitude of `x` divided by `10 ^ e`, as a fraction. -/
def scaledBy (x : Binary64) (e : Int) : Nat × Nat :=
  (x.steps * Nat.pow 10 (-e).toNat, unit * Nat.pow 10 e.toNat)

/-- A decimal with `n` digits that reads back as `x`: the nearer one of the two neighbours of `x`
if it does, else the other. -/
def withDigits? (x : Binary64) (n : Nat) : Option Decimal :=
  let e := x.leadingPower + 1 - n
  let (p, q) := x.scaledBy e
  let near := roundQuotient p q
  let far := if near = p / q then near + 1 else p / q
  ([near, far].find? fun c => ofDecimal x.negative c e = some x).map fun c =>
    Decimal.stripZeros x.negative c e

/-- The shortest decimal that reads back; seventeen digits always do. -/
def shortest (x : Binary64) : Decimal :=
  if x.steps = 0 then ⟨x.negative, 0, 0⟩
  else ((List.range 17).findSome? fun n => x.withDigits? (n + 1)).getD ⟨x.negative, x.steps, 0⟩

def text (x : Binary64) : List Char := x.shortest.text .json

end Binary64
end CallFlow
