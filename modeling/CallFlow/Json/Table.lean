import CallFlow.Json.Record

/-! Records that are written as they are read. A table has a column for each part of a record: the
form that the part is read in, and how it is written. -/

namespace CallFlow.Json
set_option autoImplicit false

/-- A part of a record, with how it is read and written. -/
structure Column (σ : Type) where
  name : String
  presence : Presence
  {α : Type}
  form : Form α
  write : α → Value
  get : σ → α
  put : α → σ → σ

structure Table (σ : Type) where
  name : String
  start : σ
  columns : List (Column σ)

namespace Column
variable {σ α : Type}

def required (name : String) (form : Form α) (write : α → Value) (get : σ → α)
    (put : α → σ → σ) : Column σ :=
  ⟨name, .required, form, write, get, put⟩

/-- A part that is null where there is nothing, and may be missing then. -/
def optional (name : String) (form : Form α) (write : α → Value) (get : σ → Option α)
    (put : Option α → σ → σ) : Column σ :=
  ⟨name, .nullable, form.option, Value.ofOption write, get, put⟩

/-- A part that is a list. -/
def many (name : String) (form : Form α) (write : α → Value) (get : σ → List α)
    (put : List α → σ → σ) : Column σ :=
  ⟨name, .required, form.list, fun items => .array (items.map write), get, put⟩

def text (name : String) (get : σ → String) (put : String → σ → σ) : Column σ :=
  required name .string .string get put

def member (c : Column σ) : Member σ := .nested c.name c.presence c.form c.put

def field (c : Column σ) (r : σ) : String × Value := (c.name, c.write (c.get r))

end Column

namespace Table
variable {σ : Type}

def shape (t : Table σ) : Shape σ := ⟨t.name, t.start, t.columns.map Column.member⟩

def form (t : Table σ) : Form σ := ⟨t.shape.ofValue, t.shape.read⟩

/-- The object with the fields in the order of the columns. -/
def toJson (t : Table σ) (r : σ) : Value := .object (t.columns.map (·.field r))

end Table
end CallFlow.Json
