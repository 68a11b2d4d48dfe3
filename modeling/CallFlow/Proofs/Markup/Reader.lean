import CallFlow.Markup.Element
import CallFlow.Proofs.Markup.Entity

/-!
# Reading documents

A reader for XML 1.0 documents that have a declaration and are made of elements and text. It goes
character by character and keeps the elements that are open. It refuses whatever is not well formed:
a tag that is not closed by its own name, an attribute given twice, a character that no document may
hold, a bracket or a reference out of place, text around the root. It also refuses comments, processing
instructions, sections of raw text and document types, so that what it accepts reads the same to any
reader. The blanks of text and of attribute values stay as they are.
-/

namespace CallFlow.Markup
set_option autoImplicit false

open Text (inRanges)

inductive Node
  | text (content : String)
  | element (name : String) (attributes : List (String × String)) (children : List Node)

structure Document where
  declaration : List (String × String)
  root : Node

/-- The production `NameStartChar`. -/
def nameStartRanges : List (Nat × Nat) :=
  [(0x3A, 0x3A), (0x41, 0x5A), (0x5F, 0x5F), (0x61, 0x7A), (0xC0, 0xD6), (0xD8, 0xF6),
    (0xF8, 0x2FF), (0x370, 0x37D), (0x37F, 0x1FFF), (0x200C, 0x200D), (0x2070, 0x218F),
    (0x2C00, 0x2FEF), (0x3001, 0xD7FF), (0xF900, 0xFDCF), (0xFDF0, 0xFFFD), (0x10000, 0xEFFFF)]

def isNameStart (c : Char) : Bool := inRanges nameStartRanges c

def isNameChar (c : Char) : Bool :=
  isNameStart c ||
    inRanges [(0x2D, 0x2E), (0x30, 0x39), (0xB7, 0xB7), (0x300, 0x36F), (0x203F, 0x2040)] c

def holdsSectionEnd : List Char → Bool
  | ']' :: ']' :: '>' :: _ => true
  | _ :: cs => holdsSectionEnd cs
  | [] => false

theorem holdsSectionEnd_of_notMem {cs : List Char} (h : '>' ∉ cs) : holdsSectionEnd cs = false := by
  fun_induction holdsSectionEnd cs with
  | case1 cs => exact absurd h (by simp)
  | case2 c cs _ ih => exact ih fun hmem => h (List.mem_cons_of_mem c hmem)
  | case3 => rfl

/-- The production `CharData`, with references resolved. -/
def charData? (raw : List Char) : Option (List Char) :=
  if raw.all isXmlChar && !holdsSectionEnd raw then unescape raw else none

/-- The production `AttValue`, without its quotes and with references resolved. -/
def attValue? (raw : List Char) : Option (List Char) :=
  if raw.all isXmlChar && !raw.contains '<' then unescape raw else none

def textNodes (content : List Char) : List Node :=
  if content.isEmpty then [] else [.text (String.ofList content)]

structure Frame where
  tag : Tag
  children : List Node

def Frame.node (frame : Frame) : Node :=
  .element frame.tag.name frame.tag.attributes frame.children

structure Progress where
  declaration : Option (List (String × String))
  /-- The innermost element comes first. -/
  opened : List Frame
  root : Option Node

namespace Progress

def admits (p : Progress) : Bool :=
  p.declaration.isSome && (!p.opened.isEmpty || p.root.isNone)

def add (p : Progress) (node : Node) : Progress :=
  match p.opened with
  | frame :: outer =>
    { p with opened := { frame with children := frame.children ++ [node] } :: outer }
  | [] => { p with root := some node }

/-- Text before a tag. Outside the root there are only blanks, and none before the declaration. -/
def text? (p : Progress) (raw : List Char) : Option Progress :=
  match p.opened with
  | frame :: outer => (charData? raw).map fun content =>
    { p with opened := { frame with children := frame.children ++ textNodes content } :: outer }
  | [] => if raw.isEmpty || (p.declaration.isSome && raw.all isSpace) then some p else none

def open? (p : Progress) (tag : Tag) : Option Progress :=
  if p.admits then some { p with opened := ⟨tag, []⟩ :: p.opened } else none

def close? (p : Progress) (name : List Char) : Option Progress :=
  match p.opened with
  | frame :: outer =>
    if frame.tag.name = String.ofList name then some ({ p with opened := outer }.add frame.node)
    else none
  | [] => none

def empty? (p : Progress) (tag : Tag) : Option Progress :=
  (p.open? tag).bind fun q => q.close? tag.name.toList

/-- The declaration stands before everything else, and names a version that can be read. -/
def declare? (p : Progress) (tag : Tag) : Option Progress :=
  let shapes := [["version"], ["version", "encoding"], ["version", "standalone"],
    ["version", "encoding", "standalone"]]
  if p.declaration.isNone && tag.name == "xml" && shapes.contains (tag.attributes.map (·.1)) &&
      tag.attributes.lookup "version" == some "1.0" then
    some { p with declaration := some tag.attributes }
  else none

end Progress

inductive Mode
  | content (raw : List Char)
  | opening
  /-- In the name of a tag; the declaration begins like one, but for its question mark. -/
  | name (declares : Bool) (name : List Char)
  /-- Behind the name or an attribute, and possibly behind blanks. -/
  | gap (declares : Bool) (tag : Tag) (spaced : Bool)
  | attribute (declares : Bool) (tag : Tag) (name : List Char)
  | equals (declares : Bool) (tag : Tag) (name : List Char)
  | quote (declares : Bool) (tag : Tag) (name : List Char)
  | value (declares : Bool) (tag : Tag) (name : List Char) (quote : Char) (raw : List Char)
  /-- Before the last bracket of an element without content, or of the declaration. -/
  | ending (declares : Bool) (tag : Tag)
  | closing (name : List Char)
  | closed (name : List Char)

structure State where
  mode : Mode
  progress : Progress

namespace State

/-- The end of a tag, or what comes before it. -/
def leave (s : State) (declares : Bool) (tag : Tag) (c : Char) : Option State :=
  if c = '>' && !declares then (s.progress.open? tag).map (⟨.content [], ·⟩)
  else if c = (if declares then '?' else '/') then some { s with mode := .ending declares tag }
  else none

def close (s : State) (name : List Char) : Option State :=
  (s.progress.close? name).map (⟨.content [], ·⟩)

def step (s : State) (c : Char) : Option State :=
  match s.mode with
  | .content raw =>
    if c = '<' then (s.progress.text? raw).map (⟨.opening, ·⟩)
    else some { s with mode := .content (raw ++ [c]) }
  | .opening =>
    if c = '/' then some { s with mode := .closing [] }
    else if c = '?' then some { s with mode := .name true [] }
    else if isNameStart c then some { s with mode := .name false [c] }
    else none
  | .name declares name =>
    if isNameChar c then some { s with mode := .name declares (name ++ [c]) }
    else if isSpace c then some { s with mode := .gap declares ⟨String.ofList name, []⟩ true }
    else s.leave declares ⟨String.ofList name, []⟩ c
  | .gap declares tag spaced =>
    if isSpace c then some { s with mode := .gap declares tag true }
    else if isNameStart c then
      if spaced then some { s with mode := .attribute declares tag [c] } else none
    else s.leave declares tag c
  | .attribute declares tag name =>
    if isNameChar c then some { s with mode := .attribute declares tag (name ++ [c]) }
    else if isSpace c then some { s with mode := .equals declares tag name }
    else if c = '=' then some { s with mode := .quote declares tag name }
    else none
  | .equals declares tag name =>
    if isSpace c then some s
    else if c = '=' then some { s with mode := .quote declares tag name }
    else none
  | .quote declares tag name =>
    if isSpace c then some s
    else if c = '"' || c = '\x27' then some { s with mode := .value declares tag name c [] }
    else none
  | .value declares tag name quote raw =>
    if c ≠ quote then some { s with mode := .value declares tag name quote (raw ++ [c]) }
    else if (tag.attributes.map (·.1)).contains (String.ofList name) then none
    else (attValue? raw).map fun value =>
      ⟨.gap declares ⟨tag.name, tag.attributes ++ [(String.ofList name, String.ofList value)]⟩
        false, s.progress⟩
  | .ending declares tag =>
    if c ≠ '>' then none
    else if declares then (s.progress.declare? tag).map (⟨.content [], ·⟩)
    else (s.progress.empty? tag).map (⟨.content [], ·⟩)
  | .closing name =>
    if isNameChar c then some { s with mode := .closing (name ++ [c]) }
    else if isSpace c then some { s with mode := .closed name }
    else if c = '>' then s.close name
    else none
  | .closed name =>
    if isSpace c then some s
    else if c = '>' then s.close name
    else none

def start : State := ⟨.content [], ⟨none, [], none⟩⟩

def run (s : State) (cs : List Char) : Option State := cs.foldlM step s

/-- The document that has been read, if all of its elements are closed and only blanks follow. -/
def document? (s : State) : Option Document :=
  match s.mode, s.progress with
  | .content raw, ⟨some declaration, [], some root⟩ =>
    if raw.all isSpace then some ⟨declaration, root⟩ else none
  | _, _ => none

end State

def readDocument (cs : List Char) : Option Document := (State.start.run cs).bind State.document?

end CallFlow.Markup
