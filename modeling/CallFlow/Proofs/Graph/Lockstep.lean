import CallFlow.Proofs.Graph.Traversal

/-!
# Walks in lockstep

A walk asks for the block of an id, for what the block does, and for where it leads. Where a
function on blocks takes the answers that one compiler gets from its graph to those that another
compiler gets from its own, both make the same scripts and fail alike.
-/

namespace CallFlow
set_option autoImplicit false

variable {blocks blocks' : List Block} {f : Block → Block}

namespace Compiler

/-- Two compilers, each with a graph of its own, that see the same behind a function on blocks. -/
structure Lockstep (c c' : Compiler) (blocks blocks' : List Block) (f : Block → Block) : Prop where
  id : ∀ b, (f b).id = b.id
  connections : ∀ b, (f b).connections = b.connections
  find : ∀ id, findBlock? blocks' id = (findBlock? blocks id).map f
  action : ∀ b, c'.registry.action (f b) = c.registry.action b
  step : ∀ id action, Action.step id c'.options action = Action.step id c.options action

namespace Lockstep

variable {c c' : Compiler}

theorem walk (h : c.Lockstep c' blocks blocks' f) (visited : List String) (b : Block) :
    c'.walk blocks' visited (f b) = c.walk blocks visited b := by
  induction visited, b using walk_induction blocks with
  | step visited b ih =>
  rw [walk_eq, walk_eq c blocks, h.action, h.id, h.connections]
  cases c.registry.action b with
  | error e => rfl
  | ok action =>
  simp only [h.step]
  cases (action.step b.id c.options).continuation with
  | terminate => rfl
  | awaitInput => rfl
  | next =>
  cases b.connections.head? with
  | none => rfl
  | some target =>
  simp only [h.find]
  cases hfound : findBlock? blocks target with
  | none => rfl
  | some next =>
  simp only [Option.map_some, h.id]
  -- Both walks have been to the same ids, so they turn back at the same block.
  by_cases hvisited : next.id ∈ visited
  · simp only [if_pos hvisited]
  · simp only [if_neg hvisited, ih target next hfound hvisited]

theorem scriptFrom (h : c.Lockstep c' blocks blocks' f) (start : Option Block) :
    c'.scriptFrom blocks' (start.map f) = c.scriptFrom blocks start := by
  cases start with
  | none => rfl
  | some b =>
    have hwalk := h.walk [b.id] b
    simp only [Compiler.scriptFrom, Option.map_some, h.id, hwalk]

theorem compileGraph (h : c.Lockstep c' blocks blocks' f)
    (hentry : entryBlock? blocks' = (entryBlock? blocks).map f) :
    c'.compileGraph blocks' = c.compileGraph blocks := by
  rw [Compiler.compileGraph, Compiler.compileGraph, hentry, h.scriptFrom]

theorem resume (h : c.Lockstep c' blocks blocks' f) (id digits : String) :
    c'.resume (.graph blocks') id digits = c.resume (.graph blocks) id digits := by
  simp only [Compiler.resume, h.find]
  cases findBlock? blocks id with
  | none => rfl
  | some b =>
  simp only [Option.map_some, h.action, h.connections]
  cases c.registry.action b with
  | error e => rfl
  | ok action =>
  dsimp only
  cases successor? action digits b.connections with
  | none => rfl
  | some target =>
  dsimp only
  cases findBlock? blocks target with
  | none => rfl
  | some next => exact h.scriptFrom (some next)

end Lockstep
end Compiler

/-! A function that leaves ids and connections alone, used on every block. -/

section Map
variable (hid : ∀ b, (f b).id = b.id)
include hid

theorem findBlock?_map (blocks : List Block) (id : String) :
    findBlock? (blocks.map f) id = (findBlock? blocks id).map f := by
  have heq : (fun b : Block => b.id == id) ∘ f = fun b => b.id == id := by
    funext b
    rw [Function.comp_apply, hid]
  rw [findBlock?, findBlock?, List.find?_map, heq]

theorem entryBlock?_map (hconnections : ∀ b, (f b).connections = b.connections)
    (blocks : List Block) : entryBlock? (blocks.map f) = (entryBlock? blocks).map f := by
  have htargeted : ∀ id, isTargeted (blocks.map f) id = isTargeted blocks id := by
    intro id
    simp [isTargeted, Function.comp_def, hid, hconnections]
  have heq : (fun b : Block => !isTargeted (blocks.map f) b.id) ∘ f =
      fun b => !isTargeted blocks b.id := by
    funext b
    rw [Function.comp_apply, hid, htargeted]
  rw [entryBlock?, entryBlock?, List.find?_map, heq, List.head?_map, Option.map_or]

end Map
end CallFlow
