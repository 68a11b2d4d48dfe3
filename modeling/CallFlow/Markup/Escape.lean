/-! Text inside a document: characters that documents may not hold are dropped, and those with a
meaning of their own are written as entities. -/

namespace CallFlow.Markup
set_option autoImplicit false

/-- The characters that an XML 1.0 document may hold. -/
def isAllowed (c : Char) : Bool :=
  c == '\t' || c == '\n' || c == '\r' ||
    (0x20 ≤ c.toNat && c.toNat ≤ 0xD7FF) || (0xE000 ≤ c.toNat && c.toNat ≤ 0xFFFD) ||
    0x10000 ≤ c.toNat

def escapeChar (c : Char) : List Char :=
  if c = '&' then ['&', 'a', 'm', 'p', ';']
  else if c = '<' then ['&', 'l', 't', ';']
  else if c = '>' then ['&', 'g', 't', ';']
  else if c = '"' then ['&', 'q', 'u', 'o', 't', ';']
  else if c = '\x27' then ['&', 'a', 'p', 'o', 's', ';']
  else [c]

/-- The text without the characters that documents may not hold, if it has any. -/
def stripped? (cs : List Char) : Option (List Char) :=
  if cs.all isAllowed then none else some (cs.filter isAllowed)

/-- A text with nothing to drop is escaped as it stands. -/
def escapeChars (cs : List Char) : List Char :=
  match stripped? cs with
  | none => cs.flatMap escapeChar
  | some kept => kept.flatMap escapeChar

def escape (s : String) : String := String.ofList (escapeChars s.toList)

theorem escapeChars_eq (cs : List Char) :
    escapeChars cs = (cs.filter isAllowed).flatMap escapeChar := by
  unfold escapeChars stripped?
  cases h : cs.all isAllowed with
  | true =>
    rw [List.filter_eq_self.mpr (List.all_eq_true.mp h)]
    rfl
  | false => rfl

theorem escapeChars_append (s t : List Char) :
    escapeChars (s ++ t) = escapeChars s ++ escapeChars t := by
  simp only [escapeChars_eq, List.filter_append, List.flatMap_append]

end CallFlow.Markup
