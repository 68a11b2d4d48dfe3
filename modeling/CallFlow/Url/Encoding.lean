/-! Percent-encoding. What a part of a URL may not hold is written as the hexadecimal values of its
UTF-8 bytes, each behind a percent sign. -/

namespace CallFlow.Url
set_option autoImplicit false

def upperHexDigit (n : Nat) : Char := (Nat.digitChar n).toUpper

def percentByte (b : UInt8) : List Char :=
  ['%', upperHexDigit (b.toNat / 16), upperHexDigit (b.toNat % 16)]

def percentChar (c : Char) : List Char := (String.utf8EncodeChar c).flatMap percentByte

def encode (encoded : Char → Bool) (cs : List Char) : List Char :=
  cs.flatMap fun c => if encoded c then percentChar c else [c]

/-- Controls and everything outside ASCII, which no part of a URL keeps. -/
def controls (c : Char) : Bool := c.toNat < 0x20 || 0x7F ≤ c.toNat

def inFragment (c : Char) : Bool := controls c || [' ', '"', '<', '>', '\x60'].contains c

def inPath (c : Char) : Bool := inFragment c || ['#', '?', '\x7b', '\x7d'].contains c

def inUserinfo (c : Char) : Bool :=
  inPath c || ['/', ':', ';', '=', '@', '[', '\\', ']', '^', '|'].contains c

/-- A segment that is added to a path stays one segment. In a special scheme a backslash would end
it too. -/
def inSegment (special : Bool) (c : Char) : Bool :=
  inPath c || ['/', '%'].contains c || (special && c == '\\')

def inQuery (special : Bool) (c : Char) : Bool :=
  controls c || [' ', '"', '#', '<', '>'].contains c || (special && c == '\x27')

def hexValue? (c : Char) : Option Nat :=
  if c.isDigit then some (c.toNat - '0'.toNat)
  else if 'a' ≤ c ∧ c ≤ 'f' then some (c.toNat - 'a'.toNat + 10)
  else if 'A' ≤ c ∧ c ≤ 'F' then some (c.toNat - 'A'.toNat + 10)
  else none

/-- The bytes of a text in which percent signs are followed by byte values. A percent sign that two
hexadecimal digits do not follow stands for itself. -/
def decodeBytes : List Char → List UInt8
  | [] => []
  | '%' :: a :: b :: rest =>
    match hexValue? a, hexValue? b with
    | some x, some y => UInt8.ofNat (x * 16 + y) :: decodeBytes rest
    | _, _ => 0x25 :: decodeBytes (a :: b :: rest)
  | c :: rest => String.utf8EncodeChar c ++ decodeBytes rest

/-- Characters of a form value that are written as they are. -/
def formKeeps (c : Char) : Bool := c.isAlphanum || ['*', '-', '.', '_'].contains c

/-- A name or value as a form writes it: a blank becomes a plus sign. -/
def formEncode (cs : List Char) : List Char :=
  cs.flatMap fun c => if c = ' ' then ['+'] else if formKeeps c then [c] else percentChar c

def formDecode (cs : List Char) : List UInt8 :=
  decodeBytes (cs.map fun c => if c = '+' then ' ' else c)

end CallFlow.Url
