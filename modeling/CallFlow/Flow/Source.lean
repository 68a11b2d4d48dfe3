import CallFlow.Flow.Json

/-! How a flow is handed in, and how its format is told. -/

namespace CallFlow
set_option autoImplicit false

open Json (Fields Mismatch Value)

namespace Flow

inductive BlocksFault
  | notList (kind : String)
  | mismatch (cause : Mismatch)
deriving DecidableEq

def BlocksFault.message : BlocksFault → String
  | .notList kind => "expected an array, found " ++ kind
  | .mismatch cause => cause.message

inductive ParseError
  | malformed (cause : Json.Error)
  | notObject (kind : String)
  | blocks (cause : BlocksFault)
  | legacy (cause : Mismatch)
deriving DecidableEq

def ParseError.message : ParseError → String
  | .malformed cause => "Failed to parse flow JSON: " ++ cause.message
  | .notObject kind => "Flow definition must be a JSON object, found " ++ kind
  | .blocks cause => "Block list is malformed: " ++ cause.message
  | .legacy cause => "Legacy flow configuration is malformed: " ++ cause.message

def asGraph (blocks : List Value) : Except ParseError Flow :=
  match blocks.mapM Block.ofJson with
  | .ok blocks => .ok (.graph blocks)
  | .error cause => .error (.blocks (.mismatch cause))

def asLegacy (fields : Fields) : Except ParseError Flow :=
  match LegacyFlow.shape.ofFields fields with
  | .ok flow => .ok (.legacy flow)
  | .error cause => .error (.legacy cause)

/-- A list of blocks with something in it makes a graph; any other object has sections. -/
def ofFields (fields : Fields) : Except ParseError Flow :=
  match fields.get? "blocks" with
  | some (.array (block :: blocks)) => asGraph (block :: blocks)
  | some (.array []) => asLegacy fields
  | some .null => asLegacy fields
  | none => asLegacy fields
  | some other => .error (.blocks (.notList other.kind))

def ofObject : Value → Except ParseError Flow
  | .object fields => ofFields fields
  | other => .error (.notObject other.kind)

def parseText {α : Type} (read : Value → Except ParseError α) (text : String) :
    Except ParseError α :=
  match Value.ofText text with
  | .ok v => read v
  | .error cause => .error (.malformed cause)

/-- The flow of a definition; one that is stored as text is read once more. -/
def ofValue : Value → Except ParseError Flow
  | .string text => parseText ofObject text
  | v => ofObject v

def ofText (text : String) : Except ParseError Flow := parseText ofValue text

inductive ConversionError
  | parse (cause : ParseError)
  | invalid (reason : String)
deriving DecidableEq

def ConversionError.message : ConversionError → String
  | .parse cause => cause.message
  | .invalid reason => "Invalid custom data: " ++ reason

end Flow

/-- What a flow can be made of. The last two stand for formats of somebody else's, whose conversion
fails with a reason or breaks down. -/
inductive FlowSource
  | ready (flow : Flow)
  | text (text : String)
  | value (value : Value)
  | record (record : FlowRecord)
  | invalid (reason : String)
  | broken

/-- A computation that fails for a reason, or breaks down without giving one. -/
inductive Failure (ε : Type)
  | refused (reason : ε)
  | crashed
deriving DecidableEq

def FlowSource.flow : FlowSource → Except (Failure Flow.ConversionError) Flow
  | .ready flow => .ok flow
  | .text t => (Flow.ofText t).mapError fun e => .refused (.parse e)
  | .value v => (Flow.ofValue v).mapError fun e => .refused (.parse e)
  | .record r => (Flow.ofValue r.definition).mapError fun e => .refused (.parse e)
  | .invalid reason => .error (.refused (.invalid reason))
  | .broken => .error .crashed

end CallFlow
