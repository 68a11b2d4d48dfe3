import CallFlow.Json.Reader

/-! Passing over a value that nobody wants. Its text must be well formed, but neither the size of
its numbers nor its nesting nor the code points of its escapes matter. -/

namespace CallFlow.Json
set_option autoImplicit false

inductive Opening
  | scalar
  | list
  | object
deriving DecidableEq

def passHead : Reader Opening := fun s =>
  match h : skipSpace s with
  | [] => fail .endInValue
  | c :: rest =>
    have hr := length_lt_of_skipSpace h
    if c = 'n' then (takeWord .scalar ['u', 'l', 'l'] rest).map (·.widen hr)
    else if c = 't' then (takeWord .scalar ['r', 'u', 'e'] rest).map (·.widen hr)
    else if c = 'f' then (takeWord .scalar ['a', 'l', 's', 'e'] rest).map (·.widen hr)
    else if c = '"' then
      (passString rest).map fun x => (x.map fun _ => .scalar).behind hr
    else if c = '-' then
      (takeNumeral .invalidNumber rest).map fun x => (x.map fun _ => .scalar).behind hr
    else if c.isDigit then
      (takeNumeral .invalidNumber (skipSpace s)).map fun x =>
        (x.map fun _ => .scalar).widen (length_skipSpace_le s)
    else if c = '[' then .ok ⟨.list, rest, hr⟩
    else if c = '\x7b' then .ok ⟨.object, rest, hr⟩
    else fail .expectedValue

def passName : Reader Unit := fun s =>
  match h : skipSpace s with
  | [] => fail .endInObject
  | c :: rest =>
    if c = '"' then do
      let name ← passString rest
      let colon ← takeColon name.rest
      .ok ((colon.behind name.within).behind (length_lt_of_skipSpace h))
    else fail .nameNotString

structure Ending where
  close : Char
  atEnd : Fault
  unexpected : Fault

def Ending.list : Ending := ⟨']', .endInList, .expectedListEnd⟩

def Ending.object : Ending := ⟨'\x7d', .endInObject, .expectedObjectEnd⟩

def passParts (part : Reader Unit) (ending : Ending) (first : Bool) (s : List Char) :
    Except Error (Taken Unit s.length) :=
  match h : skipSpace s with
  | [] => fail ending.atEnd
  | c :: rest =>
    have hr := length_lt_of_skipSpace h
    if c = ending.close then .ok ⟨(), rest, hr⟩
    else if first then
      have hs := length_skipSpace_le s
      match part (skipSpace s) with
      | .error e => .error e
      | .ok ⟨_, tail, ht⟩ =>
        (passParts part ending false tail).map fun x => (x.behind ht).widen hs
    else if c = ',' then
      match part rest with
      | .error e => .error e
      | .ok ⟨_, tail, ht⟩ =>
        (passParts part ending false tail).map fun x => (x.behind ht).behind hr
    else fail ending.unexpected
termination_by s.length

def passNested : Nat → Reader Unit
  | depth, s =>
    match passHead s with
    | .error e => .error e
    | .ok ⟨.scalar, rest, h⟩ => .ok ⟨(), rest, h⟩
    | .ok ⟨.list, rest, h⟩ =>
      match depth with
      | 0 => fail .nestingTooDeep
      | depth + 1 =>
        (passParts (passNested depth) .list true rest).map (·.behind h)
    | .ok ⟨.object, rest, h⟩ =>
      match depth with
      | 0 => fail .nestingTooDeep
      | depth + 1 =>
        let field : Reader Unit := fun t => do
          let name ← passName t
          let value ← passNested depth name.rest
          .ok (value.behind name.within)
        (passParts field .object true rest).map (·.behind h)

/-- Passes any value: a text has no more brackets than characters. -/
def passValue : Reader Unit := fun s => passNested s.length s

end CallFlow.Json
