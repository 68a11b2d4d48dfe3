import CallFlow.Url.Parser

/-! Addresses below a URL: more segments on its path, one more pair in its query, and references
that are resolved from its path. -/

namespace CallFlow.RootedUrl
set_option autoImplicit false

/-- A path that ends in a slash, without that slash; the root stays. -/
def dropEmptyEnd (u : RootedUrl) : RootedUrl :=
  if 2 ≤ u.segments.length ∧ u.segments.getLast? = some [] then
    { u with segments := u.segments.dropLast }
  else u

/-- Adds one segment. Tabs and line ends in it are lost, and what is left may be a dot segment. -/
def push (u : RootedUrl) (segment : List Char) : RootedUrl :=
  let file := Url.isFile u.scheme
  let done := if u.segments = [[]] then [] else u.segments
  let kept := segment.filter fun c => !(c == '\t' || c == '\n' || c == '\r')
  let path := Url.addSegment file true done (Url.encode (Url.inSegment u.special) kept)
  { u with segments := if file then Url.squeeze path else path }

/-- The segments that a configured path stands for: slashes add none that are empty, and dots are
passed over. -/
def segmentsOf (path : List Char) : List (List Char) :=
  (path.splitOn '/').filter fun s => !(s.isEmpty || s == ['.'] || s == ['.', '.'])

def endpoint (u : RootedUrl) (path : List Char) : RootedUrl :=
  (segmentsOf path).foldl push u.dropEmptyEnd

def pairText (name value : List Char) : List Char :=
  Url.formEncode name ++ '=' :: Url.formEncode value

def addPair (u : RootedUrl) (name value : List Char) : RootedUrl :=
  let pair := pairText name value
  let query := match u.tail.query with
    | some (c :: q) => c :: q ++ '&' :: pair
    | _ => pair
  { u with tail := { u.tail with query := some query } }

/-- The URL with a slash at the end of its path, and nothing behind that. -/
def directory (u : RootedUrl) : RootedUrl :=
  let segments := if u.segments.getLast? = some [] then u.segments else u.segments ++ [[]]
  { u with segments, tail := ⟨none, none⟩ }

/-- The URL of a reference that is resolved from the path. Slashes at its start do not lead to the
root. -/
def below (u : RootedUrl) (reference : List Char) : Except Url.Error Url :=
  Url.resolve u.directory (reference.dropWhile (· == '/'))

end CallFlow.RootedUrl
