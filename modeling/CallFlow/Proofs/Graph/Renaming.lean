import CallFlow.Proofs.Graph.Traversal

/-!
# Renaming blocks

Ids are told apart and nothing else. If every block gets another id, and everything that names a
block follows, scripts and failures name the new ids in place of the old ones and are the same
otherwise. Each lemma says so of one function through which ids go; the walk needs that a renaming
keeps different ids different, since it looks blocks up and remembers where it has been.
-/

namespace CallFlow
set_option autoImplicit false

variable (r : String → String)

/-! What a renaming changes in a flow. -/

/-- A target in a table of routes. Only text names a block. -/
def Json.Value.renameTarget : Json.Value → Json.Value
  | .string id => .string (r id)
  | value => value

def Json.Value.renameRoutes : Json.Value → Json.Value
  | .object fields => .object (fields.map fun (digits, target) => (digits, target.renameTarget r))
  | value => value

def Config.rename (config : Json.Fields) : Json.Fields :=
  config.map fun (key, value) => (key, if key = "routes" then value.renameRoutes r else value)

def Block.rename (b : Block) : Block :=
  { b with id := r b.id, config := Config.rename r b.config, connections := b.connections.map r }

/-! What a renaming changes in a script, or in a failure. -/

def Callback.rename : Callback → Callback
  | .gather id => .gather (r id)
  | callback => callback

def Verb.rename : Verb → Verb
  | .gather g => .gather { g with action := g.action.rename r }
  | .dial d => .dial { d with statusCallback := d.statusCallback.rename r }
  | .record v => .record { v with callback := v.callback.rename r }
  | verb => verb

def TraceStep.rename (step : TraceStep) : TraceStep := { step with blockId := r step.blockId }

def StopReason.rename : StopReason → StopReason
  | .emptyFlow => .emptyFlow
  | .hangup id => .hangup (r id)
  | .awaitingInput id => .awaitingInput (r id)
  | .endOfFlow id => .endOfFlow (r id)
  | .danglingConnection id target => .danglingConnection (r id) (r target)
  | .revisited id target => .revisited (r id) (r target)
  | .legacySequence => .legacySequence

def Script.rename (script : Script) : Script where
  format := script.format
  entry := script.entry.map r
  verbs := script.verbs.map (Verb.rename r)
  trace := script.trace.map (TraceStep.rename r)
  stop := script.stop.rename r

def CompileError.rename : CompileError → CompileError
  | .conversion cause => .conversion cause
  | .unknownKind id kindName => .unknownKind (r id) kindName
  | .blockNotFound id => .blockNotFound (r id)
  | .notGraph => .notGraph

def renamed {α β : Type} (f : α → β) : Except CompileError α → Except CompileError β
  | .ok a => .ok (f a)
  | .error e => .error (e.rename r)

def Action.rename : Action → Action
  | .gather prompt numDigits timeout routes voicing =>
    .gather prompt numDigits timeout (routes.map (Prod.map id r)) voicing
  | action => action

def Walk.rename (walk : Walk) : Walk where
  verbs := walk.verbs.map (Verb.rename r)
  trace := walk.trace.map (TraceStep.rename r)
  stop := walk.stop.rename r

variable {r} {blocks : List Block} {b : Block}

/-! Settings and actions. -/

theorem lookup_map_snd {α β : Type} (f : String → α → β) (key : String) (l : List (String × α)) :
    (l.map fun (k, a) => (k, f k a)).lookup key = (l.lookup key).map (f key) := by
  induction l with
  | nil => rfl
  | cons entry l ih =>
    obtain ⟨k, a⟩ := entry
    rw [List.map_cons, List.lookup_cons, List.lookup_cons]
    by_cases hk : key = k
    · subst hk
      rw [beq_self_eq_true]
      rfl
    · rw [beq_eq_false_iff_ne.mpr hk]
      exact ih

namespace Config

theorem get?_rename (config : Json.Fields) (key : String) :
    (rename r config).get? key =
      (config.get? key).map fun value => if key = "routes" then value.renameRoutes r else value :=
  lookup_map_snd
    (fun k (value : Json.Value) => if k = "routes" then value.renameRoutes r else value) key config

theorem get?_rename_of_ne (config : Json.Fields) {key : String} (h : key ≠ "routes") :
    (rename r config).get? key = config.get? key := by
  rw [get?_rename]
  simp only [if_neg h, Option.map_id']

theorem text?_rename (config : Json.Fields) {key : String} (h : key ≠ "routes") :
    text? (rename r config) key = text? config key := by
  rw [text?, text?, get?_rename_of_ne config h]

theorem number?_rename (config : Json.Fields) {key : String} (h : key ≠ "routes") :
    number? (rename r config) key = number? config key := by
  rw [number?, number?, get?_rename_of_ne config h]

theorem whole?_rename (config : Json.Fields) {key : String} (h : key ≠ "routes") :
    whole? (rename r config) key = whole? config key := by
  rw [whole?, whole?, number?_rename config h]

theorem routes_rename (config : Json.Fields) :
    routes (rename r config) "routes" = (routes config "routes").map (Prod.map id r) := by
  unfold routes
  rw [get?_rename]
  cases config.get? "routes" with
  | none => rfl
  | some value =>
  cases value with
  | object fields =>
    simp only [Option.map_some, if_true, Json.Value.renameRoutes, List.filterMap_map,
      List.map_filterMap]
    refine List.filterMap_congr fun entry _ => ?_
    obtain ⟨digits, target⟩ := entry
    cases target <;> rfl
  | _ => rfl

end Config

namespace Action

theorem ofConfig_rename (kind : BlockKind) (config : Json.Fields) :
    ofConfig kind (Config.rename r config) = (ofConfig kind config).rename r := by
  cases kind <;>
    simp [ofConfig, rename, Config.text?_rename, Config.number?_rename, Config.whole?_rename,
      Config.routes_rename]

@[simp]
theorem kind_rename (action : Action) : (action.rename r).kind = action.kind := by
  cases action <;> rfl

theorem nextBlock?_rename (routes : List (String × String)) (digits : String)
    (connections : List String) :
    nextBlock? (routes.map (Prod.map id r)) digits (connections.map r) =
      (nextBlock? routes digits connections).map r := by
  have hroutes := lookup_map_snd (fun _ => r) (Text.trim digits) routes
  rw [nextBlock?, nextBlock?, List.head?_map, Option.map_or, ← hroutes]
  rfl

theorem fragment_rename (id : String) (options : Options) (action : Action) :
    (action.rename r).fragment (r id) options =
      (action.fragment id options).map (Verb.rename r) := by
  cases action with
  | say text speed voicing => cases text <;> rfl
  | gather prompt numDigits timeout routes voicing => cases prompt <;> rfl
  | forward number timeout url loop => cases number <;> rfl
  | record prompt maxLength finishOnKey voicing => cases prompt <;> rfl
  | pause duration => rfl
  | play url loopCount => cases url <;> rfl
  | sms message recipient => cases message <;> rfl
  | hangup => rfl

end Action

theorem Compiler.successor?_rename (action : Action) (digits : String)
    (connections : List String) :
    successor? (action.rename r) digits (connections.map r) =
      (successor? action digits connections).map r := by
  cases action with
  | gather prompt numDigits timeout routes voicing =>
    exact Action.nextBlock?_rename routes digits connections
  | _ => exact List.head?_map

theorem Registry.action_rename (registry : Registry) (b : Block) :
    registry.action (b.rename r) = renamed r (Action.rename r) (registry.action b) := by
  have hkindName : (b.rename r).kindName = b.kindName := rfl
  cases hkind : registry.resolve? b.kindName with
  | none =>
    rw [action_of_none hkind, action_of_none (hkindName ▸ hkind)]
    rfl
  | some kind =>
    rw [action_of_some hkind, action_of_some (hkindName ▸ hkind)]
    exact congrArg Except.ok (Action.ofConfig_rename kind b.config)

theorem Walk.rename_behind (walk : Walk) (fragment : List Verb) (step : TraceStep) :
    (walk.behind fragment step).rename r =
      (walk.rename r).behind (fragment.map (Verb.rename r)) (step.rename r) := by
  simp [behind, rename]

/-! Looking blocks up. -/

section Injective
variable (hr : Function.Injective r)
include hr

theorem findBlock?_rename (blocks : List Block) (id : String) :
    findBlock? (blocks.map (Block.rename r)) (r id) =
      (findBlock? blocks id).map (Block.rename r) := by
  unfold findBlock?
  rw [List.find?_map]
  congr 2
  funext b
  exact Bool.eq_iff_iff.mpr (by simp [Block.rename, hr.eq_iff])

theorem isTargeted_rename (blocks : List Block) (id : String) :
    isTargeted (blocks.map (Block.rename r)) (r id) = isTargeted blocks id := by
  unfold isTargeted
  rw [List.any_map]
  congr 1
  funext b
  exact Bool.eq_iff_iff.mpr (by simp [Block.rename, hr.eq_iff])

theorem entryBlock?_rename (blocks : List Block) :
    entryBlock? (blocks.map (Block.rename r)) = (entryBlock? blocks).map (Block.rename r) := by
  unfold entryBlock?
  rw [List.find?_map, List.head?_map, Option.map_or]
  congr 3
  funext b
  exact congrArg Bool.not (isTargeted_rename hr blocks b.id)

/-! Walks and scripts. -/

namespace Compiler
variable (compiler : Compiler)

/-- The walk through renamed blocks is the renamed walk, wherever it starts and whatever it has
visited. -/
theorem walk_rename (blocks : List Block) (visited : List String) (b : Block) :
    compiler.walk (blocks.map (Block.rename r)) (visited.map r) (b.rename r) =
      renamed r (Walk.rename r) (compiler.walk blocks visited b) := by
  induction visited, b using walk_induction blocks with
  | step visited b ih =>
  rw [walk_eq, walk_eq compiler blocks, Registry.action_rename]
  cases compiler.registry.action b with
  | error e => rfl
  | ok action =>
  have hfragment := Action.fragment_rename (r := r) b.id compiler.options action
  have hid : (b.rename r).id = r b.id := rfl
  have hhead : (b.rename r).connections.head? = b.connections.head?.map r := List.head?_map
  simp only [renamed, Action.step, Action.kind_rename, hid, hhead, hfragment, List.length_map]
  cases action.kind.continuation with
  | terminate => rfl
  | awaitInput => rfl
  | next =>
  cases b.connections.head? with
  | none => rfl
  | some target =>
  simp only [Option.map_some, findBlock?_rename hr]
  cases hfound : findBlock? blocks target with
  | none => rfl
  | some next =>
  have hvisited : (next.rename r).id ∈ visited.map r ↔ next.id ∈ visited :=
    List.mem_map_of_injective hr
  by_cases hmem : next.id ∈ visited
  · simp only [Option.map_some, if_pos hmem, if_pos (hvisited.mpr hmem)]
    rfl
  · have hnext := ih target next hfound hmem
    rw [List.map_cons] at hnext
    simp only [Option.map_some, if_neg hmem, if_neg (hvisited.not.mpr hmem)]
    change Except.map _ (compiler.walk _ (r next.id :: visited.map r) (next.rename r)) = _
    rw [hnext]
    cases compiler.walk blocks (next.id :: visited) next with
    | error e => rfl
    | ok walk =>
      let here : TraceStep :=
        ⟨b.id, action.kind, .ofNat (action.fragment b.id compiler.options).length⟩
      exact congrArg Except.ok
        (walk.rename_behind (action.fragment b.id compiler.options) here).symm

theorem scriptFrom_rename (blocks : List Block) (start : Option Block) :
    compiler.scriptFrom (blocks.map (Block.rename r)) (start.map (Block.rename r)) =
      renamed r (Script.rename r) (compiler.scriptFrom blocks start) := by
  cases start with
  | none => rfl
  | some b =>
    have hwalk := walk_rename hr compiler blocks [b.id] b
    change Except.map _ (compiler.walk _ ([b.id].map r) (b.rename r)) = _
    rw [hwalk, scriptFrom]
    cases compiler.walk blocks [b.id] b <;> rfl

theorem compileGraph_rename (blocks : List Block) :
    compiler.compileGraph (blocks.map (Block.rename r)) =
      renamed r (Script.rename r) (compiler.compileGraph blocks) := by
  rw [compileGraph, compileGraph, entryBlock?_rename hr, scriptFrom_rename hr compiler]

theorem resume_rename (blocks : List Block) (id digits : String) :
    compiler.resume (.graph (blocks.map (Block.rename r))) (r id) digits =
      renamed r (Script.rename r) (compiler.resume (.graph blocks) id digits) := by
  simp only [resume, findBlock?_rename hr]
  cases findBlock? blocks id with
  | none => rfl
  | some b =>
  simp only [Option.map_some, Registry.action_rename]
  cases compiler.registry.action b with
  | error e => rfl
  | ok action =>
  have htarget : successor? (action.rename r) digits (b.rename r).connections =
      (successor? action digits b.connections).map r := successor?_rename action digits _
  simp only [renamed, htarget]
  cases successor? action digits b.connections with
  | none => rfl
  | some target =>
  simp only [Option.map_some, findBlock?_rename hr]
  cases findBlock? blocks target with
  | none => rfl
  | some next => exact scriptFrom_rename hr compiler blocks (some next)

/-- A renaming that keeps different ids different goes through compiling and resuming: the entry,
the trace, the reason to stop, the callbacks of gathers and the ids in failures are renamed, and
nothing else changes. -/
theorem compile_and_resume_rename :
    (∀ blocks, compiler.compile (.graph (blocks.map (Block.rename r))) =
      renamed r (Script.rename r) (compiler.compile (.graph blocks))) ∧
    ∀ blocks id digits, compiler.resume (.graph (blocks.map (Block.rename r))) (r id) digits =
      renamed r (Script.rename r) (compiler.resume (.graph blocks) id digits) :=
  ⟨compileGraph_rename hr compiler, resume_rename hr compiler⟩

end Compiler
end Injective

namespace Compiler

/-- Two blocks share an id, and the menu leads to one of an unknown kind. -/
def hotline : List Block := [
  ⟨"menu", "gather", [("prompt", .string "Press one"), ("routes", .object [("1", .string "fax")])],
    ["bye"], none⟩,
  ⟨"start", "say", [("text", .string "start")], ["menu", "bye"], none⟩,
  ⟨"fax", "fax", [], [], none⟩,
  ⟨"bye", "pause", [], ["nowhere", "menu"], none⟩,
  ⟨"bye", "hangup", [], ["bye"], none⟩]

theorem compile_and_resume_rename_hotline :
    let line (id : String) : String := "line " ++ id
    let renamedHotline : Flow := .graph (hotline.map (Block.rename line))
    Function.Injective line ∧
    (ofOptions {}).compile renamedHotline = .ok {
      format := .graph
      entry := some "line start"
      verbs := [
        .say ⟨"start", "alice", "en-US", none⟩,
        .gather ⟨1, 10, .gather "line menu", some ⟨"Press one", "alice", "en-US", none⟩⟩,
        .say ⟨"We didn't receive any input. Goodbye!", "alice", "en-US", none⟩,
        .hangup]
      trace := [⟨"line start", .say, 1⟩, ⟨"line menu", .gather, 3⟩]
      stop := .awaitingInput "line menu" } ∧
    (ofOptions {}).resume renamedHotline "line menu" "1" =
      .error (.unknownKind "line fax" "fax") ∧
    (ofOptions {}).resume renamedHotline "line menu" "2" = .ok {
      format := .graph
      entry := some "line bye"
      verbs := [.pause 2]
      trace := [⟨"line bye", .pause, 1⟩]
      stop := .danglingConnection "line bye" "line nowhere" } ∧
    (ofOptions {}).resume renamedHotline "line " "1" = .error (.blockNotFound "line ") := by
  intro line renamedHotline
  have hline : Function.Injective line := fun _ _ h => by simpa [line] using h
  obtain ⟨hcompile, hresume⟩ := compile_and_resume_rename hline (ofOptions {})
  refine ⟨hline, (hcompile hotline).trans ?_, (hresume hotline "menu" "1").trans ?_,
    (hresume hotline "menu" "2").trans ?_, (hresume hotline "" "1").trans ?_⟩
  · decide +kernel
  · decide +kernel
  · decide +kernel
  · decide +kernel

end Compiler
end CallFlow
