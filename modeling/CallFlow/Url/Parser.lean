import CallFlow.Decimal
import CallFlow.Url.Path

/-! Reading URLs, by themselves or against the URL of the document that they stand in. -/

namespace CallFlow.Url
set_option autoImplicit false

/-- The text without controls and spaces at its ends, and without tabs and line ends anywhere. -/
def clean (text : List Char) : List Char :=
  let atEnds (c : Char) : Bool := c.toNat ≤ 0x20
  let inner := ((text.dropWhile atEnds).reverse.dropWhile atEnds).reverse
  inner.filter fun c => !(c == '\t' || c == '\n' || c == '\r')

def isSlash (c : Char) : Bool := c == '/' || c == '\\'

def inScheme (c : Char) : Bool := c.isAlphanum || c == '+' || c == '-' || c == '.'

def splitScheme? (text : List Char) : Option (List Char × List Char) :=
  match text with
  | [] => none
  | c :: _ =>
    if c.isAlpha then
      match text.dropWhile inScheme with
      | ':' :: rest => some ((text.takeWhile inScheme).map Char.toLower, rest)
      | _ => none
    else none

def readTail (special : Bool) (text : List Char) : Tail :=
  let query (t : List Char) : Option (List Char) :=
    some (encode (inQuery special) (t.takeWhile (· != '#')))
  let fragment (t : List Char) : Option (List Char) :=
    match t.dropWhile (· != '#') with
    | _ :: f => some (encode inFragment f)
    | [] => none
  match text with
  | '?' :: t => ⟨query t, fragment t⟩
  | t => ⟨none, fragment t⟩

def splitTail (special : Bool) (text : List Char) : List Char × Tail :=
  let inPart (c : Char) : Bool := c != '?' && c != '#'
  (text.takeWhile inPart, readTail special (text.dropWhile inPart))

def splitUserinfo (text : List Char) : Option (List Char) × List Char :=
  if text.contains '@' then
    -- the last at sign counts
    let behind := (text.reverse.takeWhile (· != '@')).reverse
    (some (text.take (text.length - behind.length - 1)), behind)
  else (none, text)

def splitPassword (userinfo : List Char) : List Char × List Char :=
  (encode inUserinfo (userinfo.takeWhile (· != ':')),
    encode inUserinfo ((userinfo.dropWhile (· != ':')).drop 1))

/-- The host at the start of a text: up to a colon that is not between brackets. -/
def splitHost : (inBrackets : Bool) → List Char → List Char × List Char
  | _, [] => ([], [])
  | inBrackets, c :: rest =>
    if c == ':' && !inBrackets then ([], c :: rest)
    else
      let (host, behind) := splitHost (if c == '[' then true else inBrackets && c != ']') rest
      (c :: host, behind)

/-- A port, and what is left behind it. The scheme's own port counts as none. -/
def readPort (scheme text : List Char) : Except Error (Option Nat × List Char) :=
  let digits := text.takeWhile Char.isDigit
  let rest := text.dropWhile Char.isDigit
  let n := Decimal.ofDigits digits
  if 65535 < n then .error .invalidPort
  else if rest.head?.all isSlash then
    .ok (if digits.isEmpty || some n == defaultPort scheme then none else some n, rest)
  else .error .invalidPort

def readAuthority (scheme text : List Char) : Except Error (Authority × List Char) := do
  let special := isSpecial scheme
  let inPart (c : Char) : Bool :=
    c != '/' && c != '?' && c != '#' && !(special && c == '\\')
  let part := text.takeWhile inPart
  let rest := text.dropWhile inPart
  let (userinfo, part) := splitUserinfo part
  if userinfo = some [] ∧ part = [] ∧ rest ≠ [] then throw .emptyHost
  let (user, password) := splitPassword (userinfo.getD [])
  let (hostText, behind) := splitHost false part
  if special && hostText.isEmpty then throw .emptyHost
  let host ← if special then Host.ofSpecial hostText else Host.ofOther hostText
  let hasUser := !user.isEmpty || !password.isEmpty
  if host = .empty ∧ (behind ≠ [] ∨ hasUser) then throw .emptyHost
  match behind with
  | ':' :: portText =>
    let (port, left) ← readPort scheme portText
    return (⟨user, password, host, port⟩, left ++ rest)
  | _ => return (⟨user, password, host, none⟩, rest)

def readPath (scheme text : List Char) : List (List Char) :=
  match text with
  | [] => if isSpecial scheme then [[]] else []
  | c :: rest =>
    if c == '/' || (c == '\\' && isSpecial scheme) then resolvePath scheme [] rest
    else resolvePath scheme [] text

def readFull (scheme text : List Char) : Except Error Url := do
  let (authority, rest) ← readAuthority scheme text
  let (path, tail) := splitTail (isSpecial scheme) rest
  return .rooted ⟨scheme, some authority, false, readPath scheme path, tail⟩

/-- A URL without authority: its path would look like one if it started with an empty segment. -/
def withoutAuthority (scheme : List Char) (segments : List (List Char)) (tail : Tail) : Url :=
  .rooted ⟨scheme, none, segments.head? == some [] && 1 < segments.length, segments, tail⟩

def withPath (base : RootedUrl) (segments : List (List Char)) (tail : Tail) : Url :=
  match base.authority with
  | some _ => .rooted { base with segments, tail }
  | none => withoutAuthority base.scheme segments tail

/-- The segments that a relative path goes on from. -/
def parent (base : RootedUrl) : List (List Char) :=
  match base.segments.getLast? with
  | some last =>
    if isFile base.scheme && isDrive last then base.segments else base.segments.dropLast
  | none => []

def readRelative (base : RootedUrl) (text : List Char) : Except Error Url :=
  let (path, tail) := splitTail base.special text
  match path with
  | [] =>
    .ok (.rooted { base with
      tail := if text.head? == some '?' then tail
        else { base.tail with fragment := tail.fragment } })
  | c :: rest =>
    if isSlash c then
      if 2 ≤ (path.takeWhile isSlash).length then
        readFull base.scheme
          (if text.take 2 == ['/', '/'] then text.drop 2 else text.dropWhile isSlash)
      else .ok (withPath base (resolvePath base.scheme [] rest) tail)
    else .ok (withPath base (resolvePath base.scheme (parent base) path) tail)

/-- The host of a file URL and the path behind it. A drive is not a host, and a drive in the path
needs none. -/
def readFileHost (text : List Char) : Except Error Url := do
  let part := text.takeWhile fun c => !(isSlash c || c == '?' || c == '#')
  let (path, tail) := splitTail true text
  let scheme := "file".toList
  if isDrive part || part.isEmpty then
    return .rooted ⟨scheme, some .blank, false, resolvePath scheme [] path, tail⟩
  else
    let host ← Host.ofSpecial part
    let segments := readPath scheme (path.drop part.length)
    let host :=
      if host = .name "localhost".toList ∨ segments.head?.any isDrive then .empty else host
    return .rooted ⟨scheme, some { Authority.blank with host }, false, segments, tail⟩

/-- The drive and the host of a base that a path behind one slash keeps. -/
def keptOf (base : Option RootedUrl) (path : List Char) : List (List Char) × Host :=
  match base with
  | none => ([], .empty)
  | some b =>
    if startsWithDriveSegment path then ([], .empty)
    else match (b.segments.take 1).filter isDrive with
      | [] => ([], (b.authority.map Authority.host).getD .empty)
      | drive => (drive, .empty)

def readFile (base : Option RootedUrl) (text : List Char) : Except Error Url :=
  let (path, tail) := splitTail true text
  let file (host : Host) (segments : List (List Char)) : Except Error Url :=
    .ok (.rooted ⟨"file".toList, some { Authority.blank with host }, false, segments, tail⟩)
  match path, base with
  | [], none => file .empty [[]]
  | [], some b => readRelative b text
  | c :: rest, _ =>
    if isSlash c then
      if rest.head?.any isSlash then readFileHost (text.drop 2)
      else
        let (drive, host) := keptOf base rest
        file host (resolvePath "file".toList drive rest)
    else match base with
      | some b =>
        if startsWithDriveSegment path then file .empty (resolvePath "file".toList [] path)
        else .ok (withPath b (resolvePath "file".toList (parent b) path) tail)
      | none => file .empty (resolvePath "file".toList [] path)

def readSchemed (base : Option RootedUrl) (scheme text : List Char) : Except Error Url :=
  if isFile scheme then readFile (base.filter fun b => isFile b.scheme) text
  else if isSpecial scheme then
    let slashes := (text.takeWhile isSlash).length
    match base with
    | some b =>
      if b.scheme = scheme ∧ slashes < 2 then readRelative b text
      else readFull scheme (text.drop slashes)
    | none => readFull scheme (text.drop slashes)
  else
    match text with
    | '/' :: '/' :: rest => readFull scheme rest
    | '/' :: rest =>
      let (path, tail) := splitTail false rest
      .ok (withoutAuthority scheme (resolvePath scheme [] path) tail)
    | _ =>
      let (path, tail) := splitTail false text
      .ok (.rootless scheme (encode controls path) tail)

def parse (text : List Char) : Except Error Url :=
  match splitScheme? (clean text) with
  | some (scheme, rest) => readSchemed none scheme rest
  | none => .error .relative

/-- The URL that a text denotes in a document. -/
def resolve (base : RootedUrl) (text : List Char) : Except Error Url :=
  let text := clean text
  match splitScheme? text with
  | some (scheme, rest) => readSchemed (some base) scheme rest
  | none => if isFile base.scheme then readFile (some base) text else readRelative base text

end CallFlow.Url
