/-! A compact binary form. Whole numbers take one byte where they can; texts and lists start with
their length, and choices with their place in the list of alternatives. A decoder gives what is left
of the bytes, so that decoders can follow one another. -/

namespace CallFlow.Binary
set_option autoImplicit false

inductive Error
  | unexpectedEnd
  | invalidIntegerType
  | invalidText
  | invalidBoolean
  | unexpectedOption
  | unknownChoice
deriving DecidableEq, Repr

def Error.message : Error → String
  | .unexpectedEnd => "UnexpectedEnd"
  | .invalidIntegerType => "InvalidIntegerType"
  | .invalidText => "Utf8"
  | .invalidBoolean => "InvalidBooleanValue"
  | .unexpectedOption => "UnexpectedVariant"
  | .unknownChoice => "OtherString"

abbrev Bytes := List UInt8

abbrev Decoder (α : Type) := Bytes → Except Error (α × Bytes)

structure Codec (α : Type) where
  encode : α → Bytes
  decode : Decoder α

/-! Numbers -/

def littleEndian : (width n : Nat) → Bytes
  | 0, _ => []
  | width + 1, n => UInt8.ofNat n :: littleEndian width (n / 256)

def ofLittleEndian : Bytes → Nat
  | [] => 0
  | b :: rest => b.toNat + 256 * ofLittleEndian rest

/-- A byte below 251 is a number; the next three announce numbers of two, four and eight bytes. -/
def encodeNat (n : Nat) : Bytes :=
  if n < 251 then [UInt8.ofNat n]
  else if n < UInt16.size then 251 :: littleEndian 2 n
  else if n < UInt32.size then 252 :: littleEndian 4 n
  else 253 :: littleEndian 8 n

def takeBytes (count : Nat) (bytes : Bytes) : Except Error (Bytes × Bytes) :=
  if count ≤ bytes.length then .ok (bytes.take count, bytes.drop count) else .error .unexpectedEnd

def decodeWidth (width : Nat) (bytes : Bytes) : Except Error (Nat × Bytes) :=
  (takeBytes width bytes).map fun (taken, rest) => (ofLittleEndian taken, rest)

/-- A number of at most so many bytes; it may be written longer than it needs. -/
def decodeNat (maxWidth : Nat) : Decoder Nat
  | [] => .error .unexpectedEnd
  | b :: rest =>
    if b < 251 then .ok (b.toNat, rest)
    else if b = 251 then decodeWidth 2 rest
    else if b = 252 then decodeWidth 4 rest
    else if b = 253 ∧ 8 ≤ maxWidth then decodeWidth 8 rest
    else .error .invalidIntegerType

namespace Codec
variable {α β : Type}

def word32 : Codec UInt32 where
  encode n := encodeNat n.toNat
  decode bytes := (decodeNat 4 bytes).map fun (n, rest) => (UInt32.ofNat n, rest)

def word64 : Codec UInt64 where
  encode n := encodeNat n.toNat
  decode bytes := (decodeNat 8 bytes).map fun (n, rest) => (UInt64.ofNat n, rest)

def bool : Codec Bool where
  encode b := [if b then 1 else 0]
  decode
    | [] => .error .unexpectedEnd
    | b :: rest =>
      if b = 0 then .ok (false, rest) else if b = 1 then .ok (true, rest)
      else .error .invalidBoolean

/-- The UTF-8 bytes of a text behind their number. -/
def text : Codec String where
  encode s := encodeNat s.toUTF8.size ++ s.toUTF8.toList
  decode bytes := do
    let (length, rest) ← decodeNat 8 bytes
    let (taken, rest) ← takeBytes length rest
    match String.fromUTF8? ⟨taken.toArray⟩ with
    | some s => .ok (s, rest)
    | none => .error .invalidText

/-- A zero, or a one and the value. -/
def option (c : Codec α) : Codec (Option α) where
  encode
    | none => [0]
    | some a => 1 :: c.encode a
  decode
    | [] => .error .unexpectedEnd
    | b :: rest =>
      if b = 0 then .ok (none, rest)
      else if b = 1 then (c.decode rest).map fun (a, rest) => (some a, rest)
      else .error .unexpectedOption

def decodeMany (item : Decoder α) : Nat → Decoder (List α)
  | 0, bytes => .ok ([], bytes)
  | n + 1, bytes => do
    let (a, rest) ← item bytes
    let (as, rest) ← decodeMany item n rest
    .ok (a :: as, rest)

def list (c : Codec α) : Codec (List α) where
  encode as := encodeNat as.length ++ as.flatMap c.encode
  decode bytes := do
    let (length, rest) ← decodeNat 8 bytes
    decodeMany c.decode length rest

def pair (c : Codec α) (d : Codec β) : Codec (α × β) where
  encode x := c.encode x.1 ++ d.encode x.2
  decode bytes := do
    let (a, rest) ← c.decode bytes
    let (b, rest) ← d.decode rest
    .ok ((a, b), rest)

/-- The form of a type whose values stand for those of another one. -/
def convert (c : Codec α) (into : α → β) (back : β → α) : Codec β where
  encode b := c.encode (back b)
  decode bytes := (c.decode bytes).map fun (a, rest) => (into a, rest)

def constant (a : α) : Decoder α := fun bytes => .ok (a, bytes)

def alternative (c : Codec α) (make : α → β) : Decoder β := fun bytes =>
  (c.decode bytes).map fun (a, rest) => (make a, rest)

/-- One of several alternatives: its place, and the bytes of what belongs to it. -/
def choice (place : α → Nat) (content : α → Bytes) (alternatives : List (Decoder α)) :
    Codec α where
  encode a := encodeNat (place a) ++ content a
  decode bytes := do
    let (i, rest) ← decodeNat 4 bytes
    match alternatives[i]? with
    | some decode => decode rest
    | none => .error .unknownChoice

end Codec
end CallFlow.Binary
