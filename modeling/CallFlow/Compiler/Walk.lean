import CallFlow.Block.Step
import CallFlow.Flow.Source
import CallFlow.Script.Basic

/-! Walking a graph along first connections, each block at most once. -/

namespace CallFlow
set_option autoImplicit false

inductive CompileError
  | conversion (cause : Flow.ConversionError)
  | unknownKind (blockId kindName : String)
  | blockNotFound (id : String)
  | notGraph
deriving DecidableEq

def CompileError.message : CompileError → String
  | .conversion cause => cause.message
  | .unknownKind blockId kindName =>
    "Block '" ++ blockId ++ "' has an unregistered block type: '" ++ kindName ++ "'"
  | .blockNotFound id => "Block '" ++ id ++ "' was not found in the flow"
  | .notGraph => "Input can only be resumed from a graph flow"

/-- Names of kinds and options, which no call changes. -/
structure Compiler where
  registry : Registry
  options : Options

def Registry.action (registry : Registry) (block : Block) : Except CompileError Action :=
  match registry.resolve? block.kindName with
  | some kind => .ok (.ofConfig kind block.config)
  | none => .error (.unknownKind block.id block.kindName)

structure Walk where
  verbs : List Verb
  trace : List TraceStep
  stop : StopReason
deriving DecidableEq

def Walk.behind (walk : Walk) (fragment : List Verb) (step : TraceStep) : Walk :=
  { walk with verbs := fragment ++ walk.verbs, trace := step :: walk.trace }

def unvisited (blocks : List Block) (visited : List String) : Nat :=
  blocks.countP fun b => !visited.contains b.id

theorem unvisited_cons_le (blocks : List Block) (visited : List String) (id : String) :
    unvisited blocks (id :: visited) ≤ unvisited blocks visited := by
  apply List.countP_mono_left
  intro b _ h
  simp only [List.contains_cons, Bool.not_or, Bool.and_eq_true] at h
  exact h.2

theorem unvisited_cons_lt {blocks : List Block} {visited : List String} {b : Block}
    (hb : b ∈ blocks) (hv : visited.contains b.id = false) :
    unvisited blocks (b.id :: visited) < unvisited blocks visited := by
  induction blocks with
  | nil => simp at hb
  | cons c rest ih =>
    have hrest := unvisited_cons_le rest visited b.id
    rcases List.mem_cons.1 hb with rfl | hmem
    · simp only [unvisited, List.countP_cons, List.contains_cons, hv] at hrest ⊢
      simp only [beq_self_eq_true, Bool.true_or, Bool.not_true, Bool.not_false, if_true]
      simp only [Bool.false_eq_true, if_false]
      omega
    · simp only [unvisited, List.countP_cons] at ih ⊢
      refine Nat.add_lt_add_of_lt_of_le (ih hmem) ?_
      by_cases hc : visited.contains c.id
      · exact Nat.le_of_eq (by rw [List.contains_cons, hc, Bool.or_true])
      · have hold : (if (!visited.contains c.id) = true then 1 else 0) = 1 :=
          if_pos (by simpa using hc)
        rw [hold]
        split <;> decide

theorem mem_of_findBlock? {blocks : List Block} {id : String} {b : Block}
    (h : findBlock? blocks id = some b) : b ∈ blocks := List.mem_of_find?_eq_some h

/-- Walks on from a block that has just been visited. A block of an unknown kind fails the whole
walk. -/
def Compiler.walk (compiler : Compiler) (blocks : List Block) (visited : List String)
    (current : Block) : Except CompileError Walk :=
  match compiler.registry.action current with
  | .error e => .error e
  | .ok action =>
    let step := action.step current.id compiler.options
    let here : TraceStep := ⟨current.id, action.kind, .ofNat step.fragment.length⟩
    match step.continuation with
    | .terminate => .ok ⟨step.fragment, [here], .hangup current.id⟩
    | .awaitInput => .ok ⟨step.fragment, [here], .awaitingInput current.id⟩
    | .next =>
      match current.connections with
      | [] => .ok ⟨step.fragment, [here], .endOfFlow current.id⟩
      | target :: _ =>
        match _hn : findBlock? blocks target with
        | none => .ok ⟨step.fragment, [here], .danglingConnection current.id target⟩
        | some next =>
          if _hv : visited.contains next.id then
            .ok ⟨step.fragment, [here], .revisited current.id target⟩
          else
            (compiler.walk blocks (next.id :: visited) next).map (·.behind step.fragment here)
termination_by unvisited blocks visited
decreasing_by exact unvisited_cons_lt (mem_of_findBlock? _hn) (by simpa using _hv)

end CallFlow
