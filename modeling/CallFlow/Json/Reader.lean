import CallFlow.Json.Scanner

/-! Reading JSON texts. The first character that cannot continue a document decides the error. -/

namespace CallFlow.Json
set_option autoImplicit false

def maxNesting : Nat := 127

inductive NextItem (s : List Char)
  | item (rest : List Char) (h : rest.length ≤ s.length)
  | close (rest : List Char) (h : rest.length < s.length)

/-- The next item of a list, behind its comma unless it is the first. -/
def nextItem (first : Bool) (s : List Char) : Except Error (NextItem s) :=
  match h : skipSpace s with
  | [] => fail .endInList
  | c :: rest =>
    if c = ']' then .ok (.close rest (length_lt_of_skipSpace h))
    else if first then .ok (.item (skipSpace s) (length_skipSpace_le s))
    else if c = ',' then
      match skipSpace rest with
      | [] => fail .endInValue
      | d :: _ =>
        if d = ']' then fail .trailingComma
        else .ok (.item rest (length_le_of_skipSpace h))
    else fail .expectedListEnd

inductive NextName (s : List Char)
  | name (name : Taken String s.length)
  | close (rest : List Char) (h : rest.length < s.length)

def nextName (first : Bool) (s : List Char) : Except Error (NextName s) :=
  match h : skipSpace s with
  | [] => fail .endInObject
  | c :: rest =>
    have hr := length_lt_of_skipSpace h
    if c = '\x7d' then .ok (.close rest hr)
    else if first then
      if c = '"' then (takeString rest).map fun x => .name (x.behind hr)
      else fail .nameNotString
    else if c = ',' then
      match h' : skipSpace rest with
      | [] => fail .endInValue
      | d :: tail =>
        have ht := length_lt_of_skipSpace h'
        if d = '"' then (takeString tail).map fun x => .name ((x.behind ht).behind hr)
        else if d = '\x7d' then fail .trailingComma
        else fail .nameNotString
    else fail .expectedObjectEnd

def takeColon (s : List Char) : Except Error (Taken Unit s.length) :=
  match h : skipSpace s with
  | [] => fail .endInObject
  | c :: rest =>
    if c = ':' then .ok ⟨(), rest, length_lt_of_skipSpace h⟩
    else fail .expectedColon

def readItems {α : Type} (item : Reader α) (first : Bool) (s : List Char) :
    Except Error (Taken (List α) s.length) :=
  match nextItem first s with
  | .error e => .error e
  | .ok (.close rest h) => .ok ⟨[], rest, h⟩
  | .ok (.item rest h) =>
    match item rest with
    | .error e => .error e
    | .ok ⟨value, tail, ht⟩ =>
      (readItems item false tail).map fun x => ((x.map (value :: ·)).behind ht).widen h
termination_by s.length

def readFields {α : Type} (value : Reader α) (first : Bool) (s : List Char) :
    Except Error (Taken (List (String × α)) s.length) :=
  match nextName first s with
  | .error e => .error e
  | .ok (.close rest h) => .ok ⟨[], rest, h⟩
  | .ok (.name ⟨name, rest, h⟩) =>
    match takeColon rest with
    | .error e => .error e
    | .ok ⟨_, rest', h'⟩ =>
      match value rest' with
      | .error e => .error e
      | .ok ⟨v, tail, ht⟩ =>
        (readFields value false tail).map fun x =>
          (((x.map ((name, v) :: ·)).behind ht).behind h').behind h
termination_by s.length

/-- A scalar, or the bracket that opens a list or an object. -/
def readHead : Reader Head := fun s =>
  match h : skipSpace s with
  | [] => fail .endInValue
  | c :: rest =>
    have hr := length_lt_of_skipSpace h
    if c = 'n' then (takeWord .null ['u', 'l', 'l'] rest).map (·.widen hr)
    else if c = 't' then (takeWord (.bool true) ['r', 'u', 'e'] rest).map (·.widen hr)
    else if c = 'f' then (takeWord (.bool false) ['a', 'l', 's', 'e'] rest).map (·.widen hr)
    else if c = '"' then (takeString rest).map fun x => (x.map .string).behind hr
    else if c = '-' then do
      let numeral ← takeNumeral .endInValue rest
      let number ← numeral.value.value true
      .ok ((numeral.map fun _ => .number number).behind hr)
    else if c.isDigit then do
      let numeral ← takeNumeral .endInValue (skipSpace s)
      let number ← numeral.value.value false
      .ok ((numeral.map fun _ => .number number).widen (length_skipSpace_le s))
    else if c = '[' then .ok ⟨.array, rest, hr⟩
    else if c = '\x7b' then .ok ⟨.object, rest, hr⟩
    else fail .expectedValue

/-- A value whose lists and objects are nested at most so deep. -/
def readValue : Nat → Reader Value
  | depth, s =>
    match readHead s with
    | .error e => .error e
    | .ok ⟨.null, rest, h⟩ => .ok ⟨.null, rest, h⟩
    | .ok ⟨.bool b, rest, h⟩ => .ok ⟨.bool b, rest, h⟩
    | .ok ⟨.number n, rest, h⟩ => .ok ⟨.number n, rest, h⟩
    | .ok ⟨.string t, rest, h⟩ => .ok ⟨.string t, rest, h⟩
    | .ok ⟨.array, rest, h⟩ =>
      match depth with
      | 0 => fail .nestingTooDeep
      | depth + 1 =>
        (readItems (readValue depth) true rest).map fun x =>
          (x.map .array).behind h
    | .ok ⟨.object, rest, h⟩ =>
      match depth with
      | 0 => fail .nestingTooDeep
      | depth + 1 =>
        (readFields (readValue depth) true rest).map fun x =>
          (x.map fun fields => .object (Fields.ofList fields)).behind h

end CallFlow.Json
