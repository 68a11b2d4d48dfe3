import CallFlow.Binary64.Shortest

/-! JSON values. Objects are lists of named values; a document's objects have their names in
ascending order, each once. -/

namespace CallFlow.Json
set_option autoImplicit false

/-- Whole numbers are kept as written; every other number is rounded to binary64. -/
inductive Number
  | int (n : Int)
  | real (x : Binary64)
deriving DecidableEq

inductive Value
  | null
  | bool (b : Bool)
  | number (n : Number)
  | string (s : String)
  | array (items : List Value)
  | object (fields : List (String × Value))

abbrev Fields := List (String × Value)

instance : Inhabited Value := ⟨.null⟩

def Number.toBinary64? : Number → Option Binary64
  | .int n => Binary64.ofInt n
  | .real x => some x

def Number.text : Number → List Char
  | .int n => if n < 0 then '-' :: Nat.toDigits 10 n.natAbs else Nat.toDigits 10 n.natAbs
  | .real x => x.text

namespace Fields

def get? (fields : Fields) (name : String) : Option Value := List.lookup name fields

/-- Puts a field in its place; an earlier value of the same name is lost. -/
def insert (name : String) (value : Value) : Fields → Fields
  | [] => [(name, value)]
  | (n, v) :: rest =>
    if name < n then (name, value) :: (n, v) :: rest
    else if name = n then (name, value) :: rest
    else (n, v) :: insert name value rest

/-- The fields in order of their names; of several values of one name the last counts. -/
def ofList (fields : List (String × Value)) : Fields :=
  fields.foldl (fun acc (name, value) => insert name value acc) []

end Fields

/-- What a message calls a value. -/
def Value.kind : Value → String
  | .null => "null"
  | .bool _ => "a boolean"
  | .number _ => "a number"
  | .string _ => "a string"
  | .array _ => "an array"
  | .object _ => "an object"

end CallFlow.Json
