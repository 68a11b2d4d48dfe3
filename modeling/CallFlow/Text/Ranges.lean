/-! Classes of characters as ranges of code points with both ends included. -/

namespace CallFlow.Text
set_option autoImplicit false

def inRanges (ranges : List (Nat × Nat)) (c : Char) : Bool :=
  ranges.any fun (low, high) => low ≤ c.toNat && c.toNat ≤ high

def valueInRanges? {α : Type} (ranges : List (Nat × Nat × α)) (c : Char) : Option α :=
  (ranges.find? fun (low, high, _) => low ≤ c.toNat && c.toNat ≤ high).map fun (_, _, a) => a

end CallFlow.Text
