import CallFlow.Url.Domain
import CallFlow.Url.Encoding

/-! Hosts of URLs: names, IPv4 and IPv6 addresses. -/

namespace CallFlow.Url
set_option autoImplicit false

inductive Error
  | relative
  | rootless
  | emptyHost
  | invalidPort
  | invalidIpv4
  | invalidIpv6
  | invalidName
  | invalidCharacter
deriving DecidableEq, Repr

def Error.message : Error → String
  | .relative => "relative URL without a base"
  | .rootless => "URL cannot carry a path"
  | .emptyHost => "empty host"
  | .invalidPort => "invalid port number"
  | .invalidIpv4 => "invalid IPv4 address"
  | .invalidIpv6 => "invalid IPv6 address"
  | .invalidName => "invalid international domain name"
  | .invalidCharacter => "invalid domain character"

inductive Host
  | empty
  | name (text : List Char)
  | ipv4 (address : Nat)
  | ipv6 (pieces : List Nat)
deriving DecidableEq

namespace Host

/-! IPv4 -/

def octalDigit (c : Char) : Bool := '0' ≤ c && c ≤ '7'

def ofDigits (base : Nat) (digits : List Char) : Nat :=
  digits.foldl (fun n c => n * base + (hexValue? c).getD 0) 0

/-- A number of an address: decimal, octal behind a zero, hexadecimal behind `0x`. -/
def ipv4Number? : List Char → Option Nat
  | [] => none
  | '0' :: 'x' :: digits => hexadecimal digits
  | '0' :: 'X' :: digits => hexadecimal digits
  | '0' :: d :: digits =>
    if (d :: digits).all octalDigit then some (ofDigits 8 (d :: digits)) else none
  | digits => if digits.all Char.isDigit then some (ofDigits 10 digits) else none
where
  hexadecimal (digits : List Char) : Option Nat :=
    if digits.all fun c => (hexValue? c).isSome then some (ofDigits 16 digits) else none

/-- The labels of a name; a dot at its end does not count. -/
def labels (name : List Char) : List (List Char) :=
  let parts := name.splitOn '.'
  if parts.getLast? = some [] then parts.dropLast else parts

/-- Names whose last label is a number are addresses. -/
def endsInNumber (name : List Char) : Bool :=
  match (labels name).getLast? with
  | none => false
  | some label => (!label.isEmpty && label.all Char.isDigit) || (ipv4Number? label).isSome

/-- The address of up to four numbers. The last one fills the bytes that the others leave. -/
def ipv4OfNumbers (numbers : List Nat) : Option Nat :=
  match numbers.reverse with
  | [] => none
  | last :: rest =>
    let bytes := rest.reverse
    if 3 < bytes.length ∨ bytes.any (255 < ·) ∨ 1 <<< (8 * (4 - bytes.length)) ≤ last then none
    else some (bytes.zipIdx.foldl (fun n (b, i) => n + b <<< (8 * (3 - i))) last)

def readIpv4 (name : List Char) : Except Error Host :=
  match (labels name).mapM ipv4Number? >>= ipv4OfNumbers with
  | some address => .ok (.ipv4 address)
  | none => .error .invalidIpv4

/-! IPv6 -/

def ipv4Pieces? (text : List Char) : Option (List Nat) :=
  let byte? (part : List Char) : Option Nat :=
    if part.isEmpty || !part.all Char.isDigit || (part.head? == some '0' && 1 < part.length) then
      none
    else if ofDigits 10 part ≤ 255 then some (ofDigits 10 part)
    else none
  match (text.splitOn '.').mapM byte? with
  | some [a, b, c, d] => some [a * 256 + b, c * 256 + d]
  | _ => none

def hexPiece (text : List Char) : List Char := (text.take 4).takeWhile fun c => (hexValue? c).isSome

/-- Reads pieces of an address: those read so far, and how many of them stand before the gap. -/
def ipv6Pieces? (pieces : List Nat) (gap : Option Nat) (text : List Char) :
    Option (List Nat × Option Nat) :=
  let places := pieces.length + (if gap.isSome then 1 else 0)
  match text with
  | [] => some (pieces, gap)
  | ':' :: rest =>
    if 8 ≤ places ∨ gap.isSome then none else ipv6Pieces? pieces (some pieces.length) rest
  | c :: tail =>
    let digits := hexPiece (c :: tail)
    if 8 ≤ places then none
    else match _h : (c :: tail).drop digits.length with
      | [] => some (pieces ++ [ofDigits 16 digits], gap)
      | '.' :: _ =>
        if digits.isEmpty ∨ 6 < places then none
        else (ipv4Pieces? (c :: tail)).map fun last => (pieces ++ last, gap)
      | ':' :: rest =>
        if rest.isEmpty then none
        else ipv6Pieces? (pieces ++ [ofDigits 16 digits]) gap rest
      | _ => none
termination_by text.length
decreasing_by
  · simp
  · have := congrArg List.length ‹_›
    simp only [List.length_drop, List.length_cons] at this ⊢
    omega

def readIpv6 (text : List Char) : Except Error Host :=
  let read := match text with
    | ':' :: ':' :: rest => ipv6Pieces? [] (some 0) rest
    | ':' :: _ => none
    | _ :: _ :: _ => ipv6Pieces? [] none text
    | _ => none
  match read with
  | some (pieces, some gap) =>
    if pieces.length ≤ 7 then
      .ok (.ipv6 (pieces.take gap ++ List.replicate (8 - pieces.length) 0 ++ pieces.drop gap))
    else .error .invalidIpv6
  | some (pieces, none) =>
    if pieces.length = 8 then .ok (.ipv6 pieces) else .error .invalidIpv6
  | none => .error .invalidIpv6

/-! Names -/

def forbiddenInName (c : Char) : Bool :=
  controls c || [' ', '#', '%', '/', ':', '<', '>', '?', '@', '[', '\\', ']', '^', '|'].contains c

def forbidden (c : Char) : Bool :=
  ['\x00', '\t', '\n', '\r', ' ', '#', '/', ':', '<', '>', '?', '@', '[', '\\', ']', '^',
    '|'].contains c

def bracketed? : List Char → Option (Except Error (List Char))
  | '[' :: rest =>
    if rest.getLast? = some ']' then some (.ok rest.dropLast) else some (.error .invalidIpv6)
  | _ => none

/-- The host of a special scheme: a domain name in ASCII, or an address if it looks like one. -/
def ofSpecial (text : List Char) : Except Error Host := do
  match bracketed? text with
  | some inner => readIpv6 (← inner)
  | none =>
    match Domain.toAscii? (decodeBytes text) with
    | none => throw .invalidName
    | some domain =>
      if domain.any forbiddenInName then throw .invalidName
      else if domain.isEmpty then throw .emptyHost
      else if endsInNumber domain then readIpv4 domain
      else pure (.name domain)

/-- The host of any other scheme, kept as it is. -/
def ofOther (text : List Char) : Except Error Host := do
  match bracketed? text with
  | some inner => readIpv6 (← inner)
  | none =>
    if text.any forbidden then throw .invalidCharacter
    else if text.isEmpty then pure .empty
    else pure (.name (encode controls text))

/-! Writing -/

def hex (n : Nat) : List Char := Nat.toDigits 16 n

/-- Start and length of the first longest run of zeros. -/
def longestZeros (pieces : List Nat) : Nat × Nat :=
  let runs := (List.range pieces.length).map fun i =>
    (i, ((pieces.drop i).takeWhile (· == 0)).length)
  runs.foldl (fun best run => if best.2 < run.2 then run else best) (0, 0)

def join (separator : Char) (parts : List (List Char)) : List Char :=
  [separator].intercalate parts

/-- The text of a host. In an IPv6 address two colons stand for the longest run of zeros, if it has
at least two. -/
def text : Host → List Char
  | .empty => []
  | .name t => t
  | .ipv4 address =>
    join '.' ([3, 2, 1, 0].map fun i => Nat.toDigits 10 ((address >>> (8 * i)) % 256))
  | .ipv6 pieces =>
    let (start, length) := longestZeros pieces
    let body :=
      if length < 2 then join ':' (pieces.map hex)
      else join ':' ((pieces.take start).map hex) ++ [':', ':'] ++
        join ':' ((pieces.drop (start + length)).map hex)
    '[' :: body ++ [']']

end Host
end CallFlow.Url
