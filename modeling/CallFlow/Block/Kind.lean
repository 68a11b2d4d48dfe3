/-! The kinds of blocks, and the names that stand for them. -/

namespace CallFlow
set_option autoImplicit false

inductive BlockKind
  | say
  | gather
  | forward
  | record
  | pause
  | play
  | hangup
  | sms
deriving DecidableEq, Repr

namespace BlockKind

def all : List BlockKind := [say, gather, forward, record, pause, play, hangup, sms]

theorem mem_all (k : BlockKind) : k ∈ all := by cases k <;> decide

def name : BlockKind → String
  | say => "say"
  | gather => "gather"
  | forward => "forward"
  | record => "record"
  | pause => "pause"
  | play => "play"
  | hangup => "hangup"
  | sms => "sms"

def ofName? (name : String) : Option BlockKind := all.find? fun k => k.name == name

theorem ofName?_name (k : BlockKind) : ofName? k.name = some k := by cases k <;> decide

end BlockKind

/-- Names for kinds of blocks. A name stands for what it was given last. -/
structure Registry where
  names : List (String × BlockKind)

namespace Registry

def builtin : Registry := ⟨BlockKind.all.map fun k => (k.name, k)⟩

/-- Gives a kind another name; the kind is given by its own one. -/
def alias? (registry : Registry) (name builtinName : String) : Option Registry :=
  (BlockKind.ofName? builtinName).map fun kind => ⟨(name, kind) :: registry.names⟩

def resolve? (registry : Registry) (name : String) : Option BlockKind :=
  registry.names.lookup name

end Registry
end CallFlow
