import CallFlow.Unicode.Composition
import CallFlow.Unicode.Mapping
import CallFlow.Unicode.Properties
import CallFlow.Url.Punycode

/-! Domain names in ASCII, by the processing of UTS #46. It maps characters, puts what comes of them
into normalization form C, checks the labels and encodes those that go beyond ASCII. Hyphens may
stand anywhere, and names may have any length. -/

namespace CallFlow.Url.Domain
set_option autoImplicit false

open Punycode (isAscii)
open Unicode

/-! Joiners -/

def nonJoiner : Char := '\u200c'

def joiner : Char := '\u200d'

def isVirama (c : Char) : Bool := combiningClass c == 9

/-- The next character that takes part in cursive joining is of one of the types. -/
def meets (types : List JoiningType) (text : List Char) : Bool :=
  ((text.map joiningType).dropWhile (· == .transparent)).head?.any types.contains

/-- Joiners stand behind a virama, or without effect of their own between characters that join.
The text before is reversed. -/
def joinersFit (before : List Char) : List Char → Bool
  | [] => true
  | c :: rest =>
    let fits :=
      if c == nonJoiner || c == joiner then
        before.head?.any isVirama ||
          (c == nonJoiner && meets [.left, .dual] before && meets [.right, .dual] rest)
      else true
    fits && joinersFit (c :: before) rest

/-! Direction -/

def isRightToLeft (c : BidiClass) : Bool := [.right, .arabic, .arabicNumber].contains c

/-- The Bidi rule of RFC 5893. -/
def bidiRule (label : List Char) : Bool :=
  let classes := label.map bidiClass
  let last? := (classes.reverse.dropWhile (· == .nonspacing)).head?
  let within : List BidiClass :=
    [.european, .sign, .separator, .terminator, .neutral, .boundary, .nonspacing]
  match classes.head? with
  | none => true
  | some .left =>
    classes.all (fun c => c == .left || within.contains c) && last?.any [.left, .european].contains
  | some .right | some .arabic =>
    classes.all (fun c => isRightToLeft c || within.contains c) &&
      last?.any (fun c => isRightToLeft c || c == .european) &&
      !(classes.contains .european && classes.contains .arabicNumber)
  | some _ => false

/-! Labels -/

/-- What an encoded label begins with. -/
def mark : List Char := ['x', 'n', '-', '-']

structure Label where
  unicode : List Char
  ascii : List Char

/-- The label that an encoded one stands for. There is something in it beyond ASCII, so the encoded
one does not end in a hyphen. -/
def decodeLabel? (label : List Char) : Option Label :=
  let encoded := label.drop 4
  if label.getLast? = some '-' ∨ 2000 < encoded.length then none
  else match Punycode.decode? encoded with
    | none => none
    | some unicode =>
      if unicode.all isKept && nfc unicode == unicode then some ⟨unicode, label⟩ else none

def readLabel? (label : List Char) : Option Label :=
  if mark.isPrefixOf label then decodeLabel? label
  else if label.all isAscii then some ⟨label, label⟩
  else some ⟨label, mark ++ Punycode.encode label⟩

def Label.isValid (label : Label) : Bool :=
  !label.unicode.head?.any isMark && joinersFit [] label.unicode &&
    (label.unicode.all isAscii || label.unicode.length ≤ 1000)

/-! Names -/

def processed? (text : List Char) : Option (List Char) := do
  let mapped ← text.mapM mapChar?
  let labels ← ((nfc mapped.flatten).splitOn '.').mapM readLabel?
  let isBidi := labels.any fun label => label.unicode.any fun c => isRightToLeft (bidiClass c)
  if labels.all Label.isValid && (!isBidi || labels.all fun label => bidiRule label.unicode) then
    some (['.'].intercalate (labels.map Label.ascii))
  else none

/-- ASCII in small letters, without encoded labels, is a name as it stands. -/
def isPlain (name : List Char) : Bool :=
  name.all isAscii && !(name.splitOn '.').any mark.isPrefixOf

/-- The name in ASCII that some bytes stand for. -/
def toAscii? (bytes : List UInt8) : Option (List Char) :=
  let name := bytes.map fun b => (Char.ofNat b.toNat).toLower
  if isPlain name then some name
  else (String.fromUTF8? ⟨bytes.toArray⟩).bind fun text => processed? text.toList

end CallFlow.Url.Domain
