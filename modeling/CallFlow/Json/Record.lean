import CallFlow.Json.Form
import CallFlow.Json.Passing

/-! Records written as JSON: an object with the fields of the record in any order, or a list of them
in the order of the record. -/

namespace CallFlow.Json
set_option autoImplicit false

/-- Whether a field may be missing: never, in the object alone, or also at the end of a list. -/
inductive Presence
  | required
  | nullable
  | defaulted
deriving DecidableEq

/-- How a field's value gets into the record: from a look at the value, from all of it, or by a form
of its own. -/
inductive Take (σ : Type)
  | scalar (read : Head → σ → Except Mismatch σ)
  | whole (read : Value → σ → Except Mismatch σ)
  | nested (form : σ → Form σ)

structure Member (σ : Type) where
  name : String
  presence : Presence
  take : Take σ
  aliases : List String

structure Shape (σ : Type) where
  name : String
  start : σ
  fields : List (Member σ)

namespace Member
variable {σ α : Type}

def scalar (name : String) (presence : Presence) (read : Head → Except Mismatch α)
    (put : α → σ → σ) : Member σ :=
  ⟨name, presence, .scalar fun head r => (read head).map (put · r), []⟩

def whole (name : String) (presence : Presence) (read : Value → Except Mismatch α)
    (put : α → σ → σ) : Member σ :=
  ⟨name, presence, .whole fun v r => (read v).map (put · r), []⟩

/-- A field whose value is read by a form, from a text as it goes on. -/
def nested (name : String) (presence : Presence) (form : Form α) (put : α → σ → σ) : Member σ :=
  ⟨name, presence, .nested fun r => form.map (put · r), []⟩

def answersTo (f : Member σ) (name : String) : Bool := f.name == name || f.aliases.contains name

def ofValue (f : Member σ) (v : Value) (r : σ) : Except Mismatch σ :=
  match f.take with
  | .scalar read => read v.head r
  | .whole read => read v r
  | .nested form => (form r).ofValue v

def ofText (f : Member σ) (depth : Nat) (r : σ) : Reader σ := fun s =>
  match f.take with
  | .scalar read => checked (readHead s) (read · r)
  | .whole read => checked (readValue depth s) (read · r)
  | .nested form => (form r).ofText depth s

end Member

namespace Shape
variable {σ : Type}

def field? (shape : Shape σ) (name : String) : Option (Member σ) :=
  shape.fields.find? (·.answersTo name)

/-- The record, once no field is to come: the first required one that did not is an error. -/
def finish (shape : Shape σ) (seen : List String) (r : σ) : Except Mismatch σ :=
  match shape.fields.find? fun f => f.presence == .required && !seen.contains f.name with
  | some f => .error (.missingField f.name)
  | none => .ok r

/-- Fills a record from the fields of an object. Other fields do not matter. -/
def fill (shape : Shape σ) (seen : List String) (r : σ) : Fields → Except Mismatch σ
  | [] => shape.finish seen r
  | (name, value) :: rest =>
    match shape.field? name with
    | none => shape.fill seen r rest
    | some f =>
      if seen.contains f.name then .error (.duplicateField f.name)
      else do
        let r ← f.ofValue value r
        shape.fill (f.name :: seen) r rest

def ofFields (shape : Shape σ) (fields : Fields) : Except Mismatch σ :=
  shape.fill [] shape.start fields

def closeList (shape : Shape σ) (index : Nat) (r : σ) : List (Member σ) → Except Mismatch σ
  | [] => .ok r
  | f :: fields =>
    if f.presence = .defaulted then shape.closeList (index + 1) r fields
    else .error (.tooFewItems index shape.name shape.fields.length)

/-- Fills a record from the items of a list, the given number of which are taken. -/
def fillInOrder (shape : Shape σ) (index : Nat) (r : σ) :
    List (Member σ) → List Value → Except Mismatch σ
  | [], [] => .ok r
  | [], item :: items => .error (.tooManyItems (index + (item :: items).length))
  | fields, [] => shape.closeList index r fields
  | f :: fields, item :: items => do
    let r ← f.ofValue item r
    shape.fillInOrder (index + 1) r fields items

def ofItems (shape : Shape σ) (items : List Value) : Except Mismatch σ :=
  shape.fillInOrder 0 shape.start shape.fields items

def ofValue (shape : Shape σ) : Value → Except Mismatch σ
  | .object fields => shape.ofFields fields
  | .array items => shape.ofItems items
  | v => .error (.wrongKind v.head (.record shape.name))

def lift {α : Type} {n : Nat} (rest : List Char) (h : rest.length < n) :
    Except Mismatch α → Except Error (Taken α n)
  | .ok a => .ok ⟨a, rest, h⟩
  | .error m => .error (.mismatch m)

/-- Fills a record from the text of an object, behind its brace. A name that has come before is
refused before its value is looked at. -/
def readFields (shape : Shape σ) (depth : Nat) (first : Bool) (seen : List String) (r : σ)
    (s : List Char) : Except Error (Taken σ s.length) :=
  match nextName first s with
  | .error e => .error e
  | .ok (.close rest h) => lift rest h (shape.finish seen r)
  | .ok (.name ⟨name, rest, h⟩) =>
    match shape.field? name with
    | none =>
      match takeColon rest with
      | .error e => .error e
      | .ok ⟨_, rest', h'⟩ =>
        match passValue rest' with
        | .error e => .error e
        | .ok ⟨_, tail, ht⟩ =>
          (shape.readFields depth false seen r tail).map fun x =>
            ((x.behind ht).behind h').behind h
    | some f =>
      if seen.contains f.name then .error (.mismatch (.duplicateField f.name))
      else
        match takeColon rest with
        | .error e => .error e
        | .ok ⟨_, rest', h'⟩ =>
          match f.ofText depth r rest' with
          | .error e => .error e
          | .ok ⟨r, tail, ht⟩ =>
            (shape.readFields depth false (f.name :: seen) r tail).map fun x =>
              ((x.behind ht).behind h').behind h
termination_by s.length

def takeListEnd (s : List Char) : Except Error (Taken Unit s.length) :=
  match h : skipSpace s with
  | [] => fail .endInList
  | c :: rest =>
    if c = ']' then .ok ⟨(), rest, length_lt_of_skipSpace h⟩
    else if c = ',' ∧ (skipSpace rest).head? = some ']' then fail .trailingComma
    else fail .trailingCharacters

def readItems (shape : Shape σ) (depth : Nat) (index : Nat) (r : σ) :
    List (Member σ) → (s : List Char) → Except Error (Taken σ s.length)
  | [], s => (takeListEnd s).map (·.map fun _ => r)
  | f :: fields, s =>
    match nextItem (index == 0) s with
    | .error e => .error e
    | .ok (.close rest h) => lift rest h (shape.closeList index r (f :: fields))
    | .ok (.item rest h) => do
      let item ← f.ofText depth r rest
      let record ← shape.readItems depth (index + 1) item.value fields item.rest
      .ok ((record.behind item.within).widen h)

def read (shape : Shape σ) (depth : Nat) : Reader σ := fun s => do
  let head ← readHead s
  match head.value, depth with
  | .object, 0 => fail .nestingTooDeep
  | .array, 0 => fail .nestingTooDeep
  | .object, depth + 1 =>
    (shape.readFields depth true [] shape.start head.rest).map (·.behind head.within)
  | .array, depth + 1 =>
    (shape.readItems depth 0 shape.start shape.fields head.rest).map
      (·.behind head.within)
  | found, _ => .error (.mismatch (.wrongKind found (.record shape.name)))

def readOrNull (shape : Shape σ) (depth : Nat) : Reader (Option σ) := fun s =>
  if (skipSpace s).head? = some 'n' then (readHead s).map (·.map fun _ => none)
  else (shape.read depth s).map (·.map some)

end Shape

/-- Reads a whole text: nothing but blanks may follow. -/
def readText {α : Type} (reader : Reader α) (text : String) : Except Error α := do
  let x ← reader text.toList
  if (skipSpace x.rest).isEmpty then .ok x.value else fail .trailingCharacters

def Value.ofText (text : String) : Except Error Value := readText (readValue maxNesting) text

end CallFlow.Json
