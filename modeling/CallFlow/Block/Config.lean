import CallFlow.Json.Value
import CallFlow.Text.Blank

/-! The free-form settings of a block. A setting that is not of a usable shape counts as missing. -/

namespace CallFlow.Config
set_option autoImplicit false

open Json (Value Number Fields)

/-- Text with something to speak in it. Numbers count as text, since phone numbers are often stored
as such. -/
def usableText? : Value → Option String
  | .string s => if Text.blank s then none else some s
  | .number n => some (String.ofList n.text)
  | _ => none

def usableNumber? : Value → Option Binary64
  | .number n => n.toBinary64?
  | .string s => Binary64.ofText? (Text.trim s).toList
  | _ => none

def maxCount : Nat := UInt32.size - 1

/-- The whole number nearest to a number between zero and the largest count; a half goes up. -/
def count? (x : Binary64) : Option UInt32 :=
  if 0 ≤ x.signedSteps ∧ x.signedSteps ≤ maxCount * Binary64.unit then
    some (UInt32.ofNat x.round.toNat)
  else none

def text? (config : Fields) (key : String) : Option String := (config.get? key).bind usableText?

def number? (config : Fields) (key : String) : Option Binary64 :=
  (config.get? key).bind usableNumber?

def whole? (config : Fields) (key : String) : Option UInt32 := (number? config key).bind count?

def routes (config : Fields) (key : String) : List (String × String) :=
  match config.get? key with
  | some (.object fields) =>
    fields.filterMap fun (digits, target) =>
      match target with
      | .string id => some (digits, id)
      | _ => none
  | _ => []

end CallFlow.Config
