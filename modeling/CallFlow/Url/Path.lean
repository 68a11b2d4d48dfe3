import CallFlow.Url.Basic

/-! Paths as lists of segments: dot segments, and the drive letters that they do not leave. -/

namespace CallFlow.Url
set_option autoImplicit false

def startsWithDrive : List Char → Bool
  | c :: d :: _ => c.isAlpha && (d == ':' || d == '|')
  | _ => false

def startsWithDriveSegment (text : List Char) : Bool :=
  startsWithDrive text &&
    match text.drop 2 with
    | [] => true
    | c :: _ => ['/', '\\', '?', '#'].contains c

def isDrive (segment : List Char) : Bool := segment.length == 2 && startsWithDrive segment

def isDot (segment : List Char) : Bool :=
  [".", "%2e"].contains (String.ofList (segment.map Char.toLower))

def isDoubleDot (segment : List Char) : Bool :=
  ["..", "%2e.", ".%2e", "%2e%2e"].contains (String.ofList (segment.map Char.toLower))

/-- The path above a path. It stays where the last segment looks like a drive. -/
def climb (done : List (List Char)) : List (List Char) :=
  match done.getLast? with
  | some last => if startsWithDriveSegment last then done else done.dropLast
  | none => []

/-- Adds a segment that is already encoded. A dot segment that ends the path leaves an empty one
behind. -/
def addSegment (file ends : Bool) (done : List (List Char)) (segment : List Char) :
    List (List Char) :=
  if isDoubleDot segment then if ends then climb done ++ [[]] else climb done
  else if isDot segment then if ends then done ++ [[]] else done
  else if file && isDrive segment && done.all List.isEmpty then
    done ++ [segment.take 1 ++ [':']]
  else done ++ [segment]

/-- Adds segments one after the other; the last one ends the path. -/
def addSegments (file : Bool) (done : List (List Char)) : List (List Char) → List (List Char)
  | [] => done
  | [segment] => addSegment file true done segment
  | segment :: rest => addSegments file (addSegment file false done segment) rest

def splitPath (special : Bool) (text : List Char) : List (List Char) :=
  (text.map fun c => if special && c == '\\' then '/' else c).splitOn '/'

/-- Paths of file URLs do not start with empty segments. -/
def squeeze (segments : List (List Char)) : List (List Char) :=
  match segments.dropWhile List.isEmpty with
  | [] => [[]]
  | rest => rest

def resolvePath (scheme : List Char) (done : List (List Char)) (text : List Char) :
    List (List Char) :=
  let file := isFile scheme
  let pieces := (splitPath (isSpecial scheme) text).map (encode inPath)
  let path := addSegments file done pieces
  if file then squeeze path else path

end CallFlow.Url
