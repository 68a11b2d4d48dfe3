import CallFlow.Json.Reader

/-! How the values of a type are written as JSON, and read again. A form reads them from a JSON value,
or from a text as it goes on, where the first thing that cannot be meant is refused. A choice is its
name, or an object whose one field has that name and holds what belongs to the choice. -/

namespace CallFlow.Json
set_option autoImplicit false

namespace Head

def asString : Head → Except Mismatch String
  | .string s => .ok s
  | found => .error (.wrongKind found .string)

def asBool : Head → Except Mismatch Bool
  | .bool b => .ok b
  | found => .error (.wrongKind found .boolean)

def asBounded (wanted : Kind) (bound : Nat) : Head → Except Mismatch Nat
  | .number (.int n) =>
    if 0 ≤ n ∧ n < bound then .ok n.toNat else .error (.outOfRange (.int n) wanted)
  | found => .error (.wrongKind found wanted)

def asWord32 (head : Head) : Except Mismatch UInt32 :=
  (head.asBounded .word32 UInt32.size).map UInt32.ofNat

def asWord64 (head : Head) : Except Mismatch UInt64 :=
  (head.asBounded .word64 UInt64.size).map UInt64.ofNat

def asReal : Head → Except Mismatch Binary64
  | .number n =>
    match n.toBinary64? with
    | some x => .ok x
    | none => .error (.outOfRange n .real)
  | found => .error (.wrongKind found .real)

def asUnit : Head → Except Mismatch Unit
  | .null => .ok ()
  | found => .error (.wrongKind found .unit)

def asChoiceName : Head → Except Mismatch String
  | .string s => .ok s
  | found => .error (.wrongKind found .choiceName)

end Head

namespace Value

def asString (v : Value) : Except Mismatch String := v.head.asString
def asBool (v : Value) : Except Mismatch Bool := v.head.asBool
def asWord32 (v : Value) : Except Mismatch UInt32 := v.head.asWord32
def asWord64 (v : Value) : Except Mismatch UInt64 := v.head.asWord64
def asReal (v : Value) : Except Mismatch Binary64 := v.head.asReal

def asFields : Value → Except Mismatch Fields
  | .object fields => .ok fields
  | v => .error (.wrongKind v.head .object)

def asList {α : Type} (item : Value → Except Mismatch α) : Value → Except Mismatch (List α)
  | .array items => items.mapM item
  | v => .error (.wrongKind v.head .list)

/-- A value, or nothing where null is written. -/
def orNull {α : Type} (read : Value → Except Mismatch α) : Value → Except Mismatch (Option α)
  | .null => .ok none
  | v => (read v).map some

def asChoice : Value → Except Mismatch (String × Option Value)
  | .string name => .ok (name, none)
  | .object [(name, value)] => .ok (name, some value)
  | .object _ => .error .notOneChoice
  | v => .error (.wrongKind v.head .choice)

def ofOption {α : Type} (write : α → Value) : Option α → Value
  | some a => write a
  | none => .null

end Value

structure Form (α : Type) where
  ofValue : Value → Except Mismatch α
  ofText : Nat → Reader α

/-- One of several choices: what its name means alone, and the form of what may stand with it. -/
structure Choice (α : Type) where
  name : String
  alone : Except Mismatch α
  content : Form α

/-- What is made of something that was taken, unless it is refused. -/
def checked {α β : Type} {n : Nat} (result : Except Error (Taken α n))
    (read : α → Except Mismatch β) : Except Error (Taken β n) := do
  let x ← result
  match read x.value with
  | .ok b => .ok (x.map fun _ => b)
  | .error m => .error (.mismatch m)

def takeChoiceEnd (s : List Char) : Except Error (Taken Unit s.length) :=
  match h : skipSpace s with
  | [] => fail .endInObject
  | c :: rest =>
    if c = '\x7d' then .ok ⟨(), rest, length_lt_of_skipSpace h⟩ else fail .expectedValue

namespace Form
variable {α β : Type}

def map (f : α → β) (form : Form α) : Form β where
  ofValue v := (form.ofValue v).map f
  ofText depth s := (form.ofText depth s).map (·.map f)

def scalar (read : Head → Except Mismatch α) : Form α where
  ofValue v := read v.head
  ofText _ s := checked (readHead s) read

def string : Form String := scalar Head.asString
def bool : Form Bool := scalar Head.asBool
def word32 : Form UInt32 := scalar Head.asWord32
def word64 : Form UInt64 := scalar Head.asWord64

def option (form : Form α) : Form (Option α) where
  ofValue := Value.orNull form.ofValue
  ofText depth s :=
    if (skipSpace s).head? = some 'n' then (readHead s).map (·.map fun _ => none)
    else (form.ofText depth s).map (·.map some)

def list (item : Form α) : Form (List α) where
  ofValue := Value.asList item.ofValue
  ofText depth s := do
    let ⟨head, rest, within⟩ ← readHead s
    match head, depth with
    | .array, 0 => fail .nestingTooDeep
    | .array, depth + 1 => (readItems (item.ofText depth) true rest).map (·.behind within)
    | found, _ => .error (.mismatch (.wrongKind found .list))

/-- A form that takes an object alone for a value. A list still stands for one in a text. -/
def fieldsOnly (form : Form α) : Form α where
  ofValue
    | .object fields => form.ofValue (.object fields)
    | v => .error (.wrongKind v.head .choiceWithFields)
  ofText := form.ofText

end Form

namespace Choice
variable {α β : Type}

/-- A choice that nothing belongs to: null may be written with it. -/
def bare (name : String) (a : α) : Choice α :=
  ⟨name, .ok a, (Form.scalar Head.asUnit).map fun _ => a⟩

def holding (name : String) (form : Form β) (make : β → α) : Choice α :=
  ⟨name, .error (.bareChoice .choiceWithValue), form.map make⟩

def holdingFields (name : String) (form : Form β) (make : β → α) : Choice α :=
  ⟨name, .error (.bareChoice .choiceWithFields), form.fieldsOnly.map make⟩

def named (choices : List (Choice α)) (name : String) : Except Mismatch (Choice α) :=
  match choices.find? (·.name == name) with
  | some choice => .ok choice
  | none => .error (.unknownChoice name (choices.map (·.name)))

def ofValue (choices : List (Choice α)) (v : Value) : Except Mismatch α := do
  let (name, content) ← v.asChoice
  let choice ← named choices name
  match content with
  | none => choice.alone
  | some v => choice.content.ofValue v

/-- Reads a choice from a text. A name that no choice has is refused before what follows it. -/
def ofText (choices : List (Choice α)) (depth : Nat) : Reader α := fun s =>
  match h : skipSpace s with
  | [] => fail .endInValue
  | c :: rest =>
    have hr := length_lt_of_skipSpace h
    if c = '"' then
      (checked (takeString rest) fun name => named choices name >>= Choice.alone).map (·.behind hr)
    else if c = '\x7b' then
      match depth with
      | 0 => fail .nestingTooDeep
      | depth + 1 => do
        let ⟨choice, colon, hcolon⟩ ← checked (readHead rest) fun head =>
          head.asChoiceName >>= named choices
        let ⟨_, value, hvalue⟩ ← takeColon colon
        let ⟨content, tail, htail⟩ ← choice.content.ofText depth value
        let close ← takeChoiceEnd tail
        .ok (((((close.map fun _ => content).behind htail).behind hvalue).behind hcolon).behind hr)
    else fail .expectedValue

def form (choices : List (Choice α)) : Form α := ⟨ofValue choices, ofText choices⟩

end Choice
end CallFlow.Json
