import CallFlow.Block.Kind
import CallFlow.Verb

/-! Compiled scripts: the verbs of a flow, which blocks they come from, and why there are no more. A
script does not depend on any call. -/

namespace CallFlow
set_option autoImplicit false

inductive FlowFormat
  | graph
  | legacy
deriving DecidableEq, Repr

structure TraceStep where
  blockId : String
  kind : BlockKind
  verbsEmitted : UInt64
deriving DecidableEq

inductive StopReason
  /-- There was no block to start from. -/
  | emptyFlow
  | hangup (blockId : String)
  | awaitingInput (blockId : String)
  /-- The last block has no connections. -/
  | endOfFlow (blockId : String)
  | danglingConnection (blockId target : String)
  /-- The next block has been visited. -/
  | revisited (blockId target : String)
  | legacySequence
deriving DecidableEq

structure Script where
  format : FlowFormat
  /-- The block that the script starts from. -/
  entry : Option String
  verbs : List Verb
  trace : List TraceStep
  stop : StopReason
deriving DecidableEq

namespace Script

def isEmpty (s : Script) : Bool := s.verbs.isEmpty

/-- The block that waits for digits where the script ends. -/
def awaiting? (s : Script) : Option String :=
  match s.stop with
  | .awaitingInput id => some id
  | _ => none

end Script

/-! The trace as one line of text. -/

def StopReason.describe : StopReason → String
  | .emptyFlow => "empty flow"
  | .hangup id => "hangup at '" ++ id ++ "'"
  | .awaitingInput id => "awaiting input for '" ++ id ++ "'"
  | .endOfFlow id => "end of flow at '" ++ id ++ "'"
  | .danglingConnection id target =>
    "'" ++ id ++ "' connects to missing block '" ++ target ++ "'"
  | .revisited id target => "'" ++ id ++ "' loops back to '" ++ target ++ "'"
  | .legacySequence => "legacy sequence complete"

def TraceStep.describe (step : TraceStep) : String :=
  step.blockId ++ " (" ++ step.kind.name ++ (if step.verbsEmitted = 0 then ", silent)" else ")")

def Script.describe (s : Script) : String :=
  let steps :=
    if s.trace.isEmpty then "(no blocks)" else " -> ".intercalate (s.trace.map TraceStep.describe)
  steps ++ " | " ++ s.stop.describe

end CallFlow
