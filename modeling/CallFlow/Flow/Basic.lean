import CallFlow.Json.Value

/-! Call flows as they are stored: graphs of blocks, and the older fixed sequence of sections. -/

namespace CallFlow
set_option autoImplicit false

structure Position where
  x : Binary64
  y : Binary64
deriving DecidableEq

/-- A node of a graph. The name of its kind is looked up only when the block is reached, and only
the first connection is followed. -/
structure Block where
  id : String
  kindName : String
  config : Json.Fields
  connections : List String
  position : Option Position

structure LegacyMenu where
  prompt : Option String
  /-- Read by whoever handles the action. -/
  options : Json.Value
  action : Option String

structure LegacyVoicemail where
  prompt : Option String
  callback : Option String
deriving DecidableEq

structure LegacyForward where
  number : Option String
deriving DecidableEq

structure LegacyFlow where
  greeting : Option String
  menu : Option LegacyMenu
  voicemail : Option LegacyVoicemail
  forward : Option LegacyForward

inductive Flow
  | graph (blocks : List Block)
  | legacy (flow : LegacyFlow)

structure FlowRecord where
  id : String
  name : String
  version : UInt32
  phoneNumber : String
  isActive : Bool
  definition : Json.Value

def Flow.isGraph : Flow → Bool
  | .graph _ => true
  | .legacy _ => false

def findBlock? (blocks : List Block) (id : String) : Option Block := blocks.find? (·.id == id)

/-- Whether another block connects to the id. Connections of a block to itself do not count. -/
def isTargeted (blocks : List Block) (id : String) : Bool :=
  blocks.any fun b => b.id != id && b.connections.contains id

/-- The first block that no other block connects to, or the first of all. -/
def entryBlock? (blocks : List Block) : Option Block :=
  (blocks.find? fun b => !isTargeted blocks b.id).or blocks.head?

end CallFlow
