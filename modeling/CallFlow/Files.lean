import CallFlow.Options
import CallFlow.Script.Binary

/-! Scripts and options in files. What files there are is left open: a program has those of its
machine, and a folder in memory serves as well. -/

namespace CallFlow
set_option autoImplicit false

/-- Reading and writing whole files. A failure is told in words. -/
structure FileAccess (m : Type → Type) where
  read : String → m (Except String Binary.Bytes)
  write : String → Binary.Bytes → m (Except String Unit)

def textOfBytes (bytes : Binary.Bytes) : Except String String :=
  match String.fromUTF8? ⟨bytes.toArray⟩ with
  | some text => .ok text
  | none => .error "stream did not contain valid UTF-8"

def FileAccess.readText {m : Type → Type} [Monad m] (files : FileAccess m) (path : String) :
    m (Except String String) := do
  return (← files.read path) >>= textOfBytes

namespace Options

def load {m : Type → Type} [Monad m] (files : FileAccess m) (path : String) :
    m (Except Error Options) := do
  match ← files.readText path with
  | .ok text => return ofText text
  | .error cause => return .error (.unreadable path cause)

end Options

namespace Script

inductive FileError
  | undecodable (cause : Binary.Error)
  | inaccessible (path cause : String)
deriving DecidableEq

def FileError.message : FileError → String
  | .undecodable cause => "Script deserialization failed: " ++ cause.message
  | .inaccessible path cause => "Script file '" ++ path ++ "' could not be accessed: " ++ cause

def ofFileBytes (bytes : Binary.Bytes) : Except FileError Script :=
  (ofBytes bytes).mapError .undecodable

def save {m : Type → Type} [Monad m] (files : FileAccess m) (path : String) (script : Script) :
    m (Except FileError Unit) := do
  return (← files.write path script.toBytes).mapError (.inaccessible path)

def load {m : Type → Type} [Monad m] (files : FileAccess m) (path : String) :
    m (Except FileError Script) := do
  match ← files.read path with
  | .ok bytes => return ofFileBytes bytes
  | .error cause => return .error (.inaccessible path cause)

end Script

abbrev Folder := List (String × Binary.Bytes)

namespace Folder

def noSuchFile : String := "No such file or directory (os error 2)"
def notFolder : String := "Not a directory (os error 20)"
def isFolder : String := "Is a directory (os error 21)"

/-- What a path means in a folder without others inside. Nothing is known of what is outside. -/
inductive Place
  | file (name : String)
  | folder
  | nowhere (reason : String)
deriving DecidableEq

/-- A path's names; a dot is the folder itself. -/
def namesOf (path : String) : List String :=
  ((path.toList.splitOn '/').map String.ofList).filter fun s => !(s.isEmpty || s == ".")

def place (folder : Folder) (path : String) : Place :=
  match namesOf path with
  | [] => if path.isEmpty then .nowhere noSuchFile else .folder
  | [".."] => .folder
  | [name] =>
    if path.toList.getLast? = some '/' then
      .nowhere (if (folder.lookup name).isSome then notFolder else noSuchFile)
    else if path.toList.head? = some '/' then .nowhere noSuchFile
    else .file name
  | name :: _ => .nowhere (if (folder.lookup name).isSome then notFolder else noSuchFile)

def read (folder : Folder) (path : String) : Except String Binary.Bytes :=
  match folder.place path with
  | .file name =>
    match folder.lookup name with
    | some bytes => .ok bytes
    | none => .error noSuchFile
  | .folder => .error isFolder
  | .nowhere reason => .error reason

def write (folder : Folder) (path : String) (bytes : Binary.Bytes) : Except String Folder :=
  match folder.place path with
  | .file name => .ok ((name, bytes) :: folder.filter (·.1 != name))
  | .folder => .error isFolder
  | .nowhere reason => .error reason

def access : FileAccess (StateM Folder) where
  read path := do return (← get).read path
  write path bytes := do
    match (← get).write path bytes with
    | .ok folder => set folder; return .ok ()
    | .error reason => return .error reason

end Folder
end CallFlow
