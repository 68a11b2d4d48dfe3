import CallFlow.Markup.Escape

/-! Elements of a document and their text, on one line or with a line for every tag that does not
enclose text. -/

namespace CallFlow.Markup
set_option autoImplicit false

structure Tag where
  name : String
  attributes : List (String × String)
deriving DecidableEq

inductive Element
  | empty (tag : Tag)
  | text (tag : Tag) (content : String)
  | nested (tag : Tag) (children : List Element)

def attributeText (name value : String) : List Char :=
  ' ' :: name.toList ++ '=' :: '"' :: escapeChars value.toList ++ ['"']

def Tag.text (tag : Tag) : List Char :=
  tag.name.toList ++ tag.attributes.flatMap fun (name, value) => attributeText name value

def Tag.openText (tag : Tag) : List Char := '<' :: tag.text ++ ['>']

def Tag.closeText (tag : Tag) : List Char := '<' :: '/' :: tag.name.toList ++ ['>']

/-- What stands before a tag on a line of its own. -/
def lineStart (pretty : Bool) (depth : Nat) : List Char :=
  if pretty then '\n' :: List.replicate (2 * depth) ' ' else []

mutual

/-- An element so many levels below the root. -/
def Element.write (pretty : Bool) (depth : Nat) : Element → List Char
  | .empty tag => '<' :: tag.text ++ ['/', '>']
  | .text tag content => tag.openText ++ escapeChars content.toList ++ tag.closeText
  | .nested tag children =>
    tag.openText ++ writeChildren pretty (depth + 1) children ++ lineStart pretty depth ++
      tag.closeText

def writeChildren (pretty : Bool) (depth : Nat) : List Element → List Char
  | [] => []
  | element :: rest =>
    lineStart pretty depth ++ element.write pretty depth ++ writeChildren pretty depth rest

end

def declaration : List Char := "<?xml version=\"1.0\" encoding=\"UTF-8\"?>".toList

def writeDocument (pretty : Bool) (root : Element) : List Char :=
  declaration ++ lineStart pretty 0 ++ root.write pretty 0

/-- Elements without a document around them. -/
def writeFragment (pretty : Bool) (elements : List Element) : List Char :=
  (lineStart pretty 0).intercalate (elements.map (·.write pretty 0))

end CallFlow.Markup
