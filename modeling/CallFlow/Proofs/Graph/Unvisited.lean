import CallFlow.Proofs.Graph.Traversal

/-!
# What a script depends on

A walk reads the blocks that it visits and nothing of the others but their ids, so two flows with
the same ids are walked in step as long as they agree where the walk goes. Compiling chooses the
entry by all connections, and resuming looks only at the first ones of the blocks on its way.
Half-finished blocks do no harm until a call reaches them.
-/

namespace CallFlow
set_option autoImplicit false

def place? (blocks : List Block) (id : String) : Option Nat := blocks.findIdx? (·.id == id)

/-- The block at this position has a step in the trace. -/
def Script.Visits (script : Script) (blocks : List Block) (i : Nat) : Prop :=
  ∃ step ∈ script.trace, place? blocks step.blockId = some i

namespace Block

def links (b : Block) : String × List String := (b.id, b.connections)

def content (b : Block) : String × Json.Fields := (b.kindName, b.config)

/-- What a walk reads of a block that it visits. -/
def reading (b : Block) : (String × Json.Fields) × Option String :=
  (b.content, b.connections.head?)

end Block

variable {compiler : Compiler} {blocks blocks' : List Block} {b b' : Block} {id : String}
variable {script : Script}

/-! Looking blocks up in lists with the same ids. -/

theorem findBlock?_eq_bind_place? (blocks : List Block) (id : String) :
    findBlock? blocks id = (place? blocks id).bind (blocks[·]?) := by
  unfold findBlock? place?
  induction blocks with
  | nil => rfl
  | cons b blocks ih =>
    rw [List.find?_cons, List.findIdx?_cons]
    cases b.id == id with
    | true => rfl
    | false =>
      simp only [ih]
      cases blocks.findIdx? (·.id == id) <;> rfl

section SameIds
variable (hids : blocks.map (·.id) = blocks'.map (·.id))
include hids

theorem place?_congr (id : String) : place? blocks id = place? blocks' id := by
  have hmap : ∀ bs : List Block, place? bs id = (bs.map (·.id)).findIdx? (· == id) := by
    intro bs
    rw [List.findIdx?_map]
    rfl
  rw [hmap, hmap, hids]

theorem map_id_findBlock?_congr (id : String) :
    (findBlock? blocks id).map (·.id) = (findBlock? blocks' id).map (·.id) := by
  have hmap : ∀ bs : List Block,
      (findBlock? bs id).map (·.id) = (bs.map (·.id)).find? (· == id) := by
    intro bs
    rw [List.find?_map]
    rfl
  rw [hmap, hmap, hids]

theorem exists_findBlock?_congr (h : findBlock? blocks id = some b) :
    ∃ b', findBlock? blocks' id = some b' ∧ b'.id = b.id := by
  have hmap := map_id_findBlock?_congr hids id
  rw [h, Option.map_some] at hmap
  exact Option.map_eq_some_iff.mp hmap.symm

theorem findBlock?_congr_none (h : findBlock? blocks id = none) :
    findBlock? blocks' id = none := by
  have hmap := map_id_findBlock?_congr hids id
  rw [h, Option.map_none] at hmap
  exact Option.map_eq_none_iff.mp hmap.symm

theorem findBlock?_agree {α : Type} {f : Block → α}
    (h : ∀ i, place? blocks id = some i → blocks[i]?.map f = blocks'[i]?.map f) :
    (findBlock? blocks id).map f = (findBlock? blocks' id).map f := by
  rw [findBlock?_eq_bind_place?, findBlock?_eq_bind_place?, ← place?_congr hids]
  cases hplace : place? blocks id with
  | none => rfl
  | some i => exact h i hplace

end SameIds

theorem map_links_entryBlock? (h : blocks.map Block.links = blocks'.map Block.links) :
    (entryBlock? blocks).map Block.links = (entryBlock? blocks').map Block.links := by
  have htargeted : ∀ (bs : List Block) (id : String), isTargeted bs id =
      (bs.map Block.links).any fun link => link.1 != id && link.2.contains id := by
    intro bs id
    rw [List.any_map]
    rfl
  have hmap : ∀ bs : List Block, (entryBlock? bs).map Block.links =
      ((bs.map Block.links).find? fun link => !isTargeted bs link.1).or
        (bs.map Block.links).head? := by
    intro bs
    rw [List.find?_map, List.head?_map, ← Option.map_or]
    rfl
  rw [hmap, hmap, h]
  simp only [htargeted, h]

theorem map_reading_congr {o o' : Option Block}
    (hcontent : o.map Block.content = o'.map Block.content)
    (hlinks : o.map Block.links = o'.map Block.links) :
    o.map Block.reading = o'.map Block.reading := by
  cases o with
  | none =>
    cases o' with
    | none => rfl
    | some b' => cases hcontent
  | some b =>
    obtain ⟨b', rfl, hlink⟩ := Option.map_eq_some_iff.mp hlinks.symm
    have hcontent : b.content = b'.content := Option.some.inj hcontent
    have hconnections : b'.connections = b.connections := congrArg Prod.snd hlink
    rw [Option.map_some, Option.map_some, Block.reading, Block.reading, hcontent, hconnections]

/-! Walks in step. -/

namespace Compiler

theorem action_of_reading {registry : Registry} {action : Action}
    (hread : b.reading = b'.reading) (h : registry.action b = .ok action) :
    registry.action b' = .ok action := by
  obtain ⟨hcontent, -⟩ := Prod.mk.inj hread
  obtain ⟨hkindName, hconfig⟩ := Prod.mk.inj hcontent
  unfold Registry.action at h ⊢
  rw [← hkindName, ← hconfig]
  cases hkind : registry.resolve? b.kindName with
  | none =>
    rw [hkind] at h
    cases h
  | some kind =>
    rw [hkind] at h
    exact h

theorem exists_of_map_eq_ok {α β : Type} {f : α → β} {x : Except CompileError α} {y : β}
    (h : x.map f = .ok y) : ∃ a, x = .ok a ∧ f a = y := by
  cases x with
  | error e => cases h
  | ok a => exact ⟨a, rfl, Except.ok.inj h⟩

theorem exists_trace_of_walk {visited : List String} {walk : Walk}
    (h : compiler.walk blocks visited b = .ok walk) :
    ∃ here rest, walk.trace = here :: rest ∧ here.blockId = b.id := by
  rw [walk_eq] at h
  cases haction : compiler.registry.action b with
  | error e =>
    rw [haction] at h
    cases h
  | ok action =>
  simp only [haction] at h
  split at h
  · cases h
    exact ⟨_, _, rfl, rfl⟩
  · cases h
    exact ⟨_, _, rfl, rfl⟩
  · split at h
    · cases h
      exact ⟨_, _, rfl, rfl⟩
    · split at h
      · cases h
        exact ⟨_, _, rfl, rfl⟩
      · split at h
        · cases h
          exact ⟨_, _, rfl, rfl⟩
        · obtain ⟨rest, -, rfl⟩ := exists_of_map_eq_ok h
          exact ⟨_, _, rfl, rfl⟩

/-- A walk that ends well is the same in a list with the same ids that agrees on every block of its
trace. -/
theorem walk_agree (hids : blocks.map (·.id) = blocks'.map (·.id)) (visited : List String)
    (b b' : Block) (walk : Walk) (hb : findBlock? blocks b.id = some b)
    (hb' : findBlock? blocks' b.id = some b') (hwalk : compiler.walk blocks visited b = .ok walk)
    (hagree : ∀ step ∈ walk.trace, (findBlock? blocks step.blockId).map Block.reading =
      (findBlock? blocks' step.blockId).map Block.reading) :
    compiler.walk blocks' visited b' = compiler.walk blocks visited b := by
  induction visited, b using walk_induction blocks generalizing b' walk with
  | step visited b ih =>
  have hread : b.reading = b'.reading := by
    obtain ⟨here, rest, htrace, hhere⟩ := exists_trace_of_walk hwalk
    have hblocks := hagree here (by rw [htrace]; exact List.mem_cons_self)
    rw [hhere, hb, hb'] at hblocks
    exact Option.some.inj hblocks
  have hid : b'.id = b.id := id_of_findBlock? hb'
  have hhead : b'.connections.head? = b.connections.head? := (congrArg Prod.snd hread).symm
  rw [walk_eq] at hwalk
  rw [walk_eq, walk_eq compiler blocks]
  cases haction : compiler.registry.action b with
  | error e =>
    rw [haction] at hwalk
    cases hwalk
  | ok action =>
  simp only [action_of_reading hread haction, hid, hhead]
  cases hcontinuation : (action.step b.id compiler.options).continuation with
  | terminate => rfl
  | awaitInput => rfl
  | next =>
  cases hfirst : b.connections.head? with
  | none => rfl
  | some target =>
  cases hfound : findBlock? blocks target with
  | none => simp only [hfound, findBlock?_congr_none hids hfound]
  | some next =>
  obtain ⟨next', hfound', hnext⟩ := exists_findBlock?_congr hids hfound
  by_cases hmem : next.id ∈ visited
  · simp only [hfound, hfound', hnext, if_pos hmem]
  · simp only [haction, hcontinuation, hfirst, hfound, if_neg hmem] at hwalk
    obtain ⟨rest, hrest, rfl⟩ := exists_of_map_eq_ok hwalk
    have hid' := id_of_findBlock? hfound
    have hstep := ih target next hfound hmem next' rest (hid' ▸ hfound) (hid' ▸ hfound') hrest
      fun step hstep => hagree step (List.mem_cons_of_mem _ hstep)
    simp only [hfound, hfound', hnext, if_neg hmem, hstep]

theorem scriptFrom_agree (hids : blocks.map (·.id) = blocks'.map (·.id))
    (hb : findBlock? blocks b.id = some b) (hb' : findBlock? blocks' b.id = some b')
    (hscript : compiler.scriptFrom blocks (some b) = .ok script)
    (hagree : ∀ step ∈ script.trace, (findBlock? blocks step.blockId).map Block.reading =
      (findBlock? blocks' step.blockId).map Block.reading) :
    compiler.scriptFrom blocks' (some b') = .ok script := by
  obtain ⟨walk, hwalk, rfl⟩ := exists_of_map_eq_ok hscript
  have hwalk' := walk_agree hids [b.id] b b' walk hb hb' hwalk hagree
  rw [scriptFrom, id_of_findBlock? hb', hwalk', hwalk]
  rfl

/-- For lists with the same ids and connections, only the blocks on the way matter. -/
theorem compileGraph_agree (hlinks : blocks.map Block.links = blocks'.map Block.links)
    (hscript : compiler.compileGraph blocks = .ok script)
    (hagree : ∀ i, script.Visits blocks i →
      blocks[i]?.map Block.content = blocks'[i]?.map Block.content) :
    compiler.compileGraph blocks' = .ok script := by
  have hids : blocks.map (·.id) = blocks'.map (·.id) := by
    simpa [Block.links, Function.comp_def] using congrArg (List.map Prod.fst) hlinks
  have hentries := map_links_entryBlock? hlinks
  unfold compileGraph at hscript ⊢
  cases hentry : entryBlock? blocks with
  | none =>
    rw [hentry] at hentries
    rw [hentry] at hscript
    rw [Option.map_eq_none_iff.mp hentries.symm]
    exact hscript
  | some b =>
  rw [hentry] at hentries hscript
  obtain ⟨b', hentry', hb'⟩ := Option.map_eq_some_iff.mp hentries.symm
  rw [hentry']
  have hid : b'.id = b.id := congrArg Prod.fst hb'
  refine scriptFrom_agree hids (findBlock?_entryBlock? hentry)
    (hid ▸ findBlock?_entryBlock? hentry') hscript fun step hstep => ?_
  refine findBlock?_agree hids fun i hi => ?_
  have hcontent := hagree i ⟨step, hstep, hi⟩
  have hlink : blocks[i]?.map Block.links = blocks'[i]?.map Block.links := by
    rw [← List.getElem?_map, ← List.getElem?_map, hlinks]
  exact map_reading_congr hcontent hlink

/-- For lists with the same ids, only the block that is resumed and those on the way matter, each
with its first connection. -/
theorem resume_agree (hids : blocks.map (·.id) = blocks'.map (·.id)) {digits : String}
    (hscript : compiler.resume (.graph blocks) id digits = .ok script)
    (hagree : ∀ i, place? blocks id = some i ∨ script.Visits blocks i →
      blocks[i]?.map Block.reading = blocks'[i]?.map Block.reading) :
    compiler.resume (.graph blocks') id digits = .ok script := by
  have hresumed := findBlock?_agree hids fun i hi => hagree i (.inl hi)
  have hvisited : ∀ step ∈ script.trace, (findBlock? blocks step.blockId).map Block.reading =
      (findBlock? blocks' step.blockId).map Block.reading :=
    fun step hstep => findBlock?_agree hids fun i hi => hagree i (.inr ⟨step, hstep, hi⟩)
  cases hfound : findBlock? blocks id with
  | none =>
    simp only [resume, hfound] at hscript
    cases hscript
  | some b =>
  obtain ⟨b', hfound', -⟩ := exists_findBlock?_congr hids hfound
  rw [hfound, hfound'] at hresumed
  have hread : b.reading = b'.reading := Option.some.inj hresumed
  have hhead : b'.connections.head? = b.connections.head? := (congrArg Prod.snd hread).symm
  simp only [resume, hfound] at hscript
  simp only [resume, hfound']
  cases haction : compiler.registry.action b with
  | error e =>
    simp only [haction] at hscript
    cases hscript
  | ok action =>
  have htarget : successor? action digits b'.connections = successor? action digits b.connections :=
    by cases action <;> simp only [successor?, Action.nextBlock?, hhead]
  simp only [haction] at hscript
  simp only [action_of_reading hread haction, htarget]
  cases hsuccessor : successor? action digits b.connections with
  | none =>
    simp only [hsuccessor] at hscript
    exact hscript
  | some target =>
  simp only [hsuccessor] at hscript
  cases hnext : findBlock? blocks target with
  | none =>
    simp only [hnext] at hscript
    simp only [findBlock?_congr_none hids hnext]
    exact hscript
  | some next =>
  simp only [hnext] at hscript
  obtain ⟨next', hnext', -⟩ := exists_findBlock?_congr hids hnext
  have hid := id_of_findBlock? hnext
  simp only [hnext']
  exact scriptFrom_agree hids (hid ▸ hnext) (hid ▸ hnext') hscript hvisited

/-- A compiled script is the same for every list that has the same ids and connections, and that
has the same kinds and settings where the script has been. A resumed script is the same for every
list that has the same ids, and that has the same kinds, settings and first connections where the
script has been and at the block that was resumed. -/
theorem unvisited_irrelevant (compiler : Compiler) (blocks blocks' : List Block) :
    (blocks.map Block.links = blocks'.map Block.links →
      ∀ script, compiler.compileGraph blocks = .ok script →
        (∀ i, script.Visits blocks i →
          blocks[i]?.map Block.content = blocks'[i]?.map Block.content) →
        compiler.compileGraph blocks' = .ok script) ∧
    (blocks.map (·.id) = blocks'.map (·.id) →
      ∀ id digits script, compiler.resume (.graph blocks) id digits = .ok script →
        (∀ i, place? blocks id = some i ∨ script.Visits blocks i →
          blocks[i]?.map Block.reading = blocks'[i]?.map Block.reading) →
        compiler.resume (.graph blocks') id digits = .ok script) :=
  ⟨fun hlinks _ hscript hagree => compileGraph_agree hlinks hscript hagree,
    fun hids _ _ _ hscript hagree => resume_agree hids hscript hagree⟩

def clinic : List Block := [
  ⟨"hello", "say", [("text", .string "Hello")], ["ask", "hours"], none⟩,
  ⟨"ask", "gather", [("prompt", .string "Press one"), ("routes", .object [("1", .string "wait")])],
    ["hours"], none⟩,
  ⟨"wait", "pause", [("duration", .string "5")], ["bye"], none⟩,
  ⟨"hours", "play", [("url", .string "hours.mp3")], ["bye"], none⟩,
  ⟨"bye", "hangup", [], [], none⟩]

def clinicDraft : List Block := [
  ⟨"hello", "say", [("text", .string "Hello")], ["ask", "hours"], some ⟨.one, .two⟩⟩,
  ⟨"ask", "gather", [("prompt", .string "Press one"), ("routes", .object [("1", .string "wait")])],
    ["hours"], none⟩,
  ⟨"wait", "music", [("until", .null)], ["bye"], none⟩,
  ⟨"hours", "", [], ["bye"], some ⟨.one, .two⟩⟩,
  ⟨"bye", "hangup", [("text", .string "Bye")], [], none⟩]

def clinicSketch : List Block := [
  ⟨"hello", "greet", [], ["nowhere", "hello"], none⟩,
  ⟨"ask", "gather", [("prompt", .string "Press one"), ("routes", .object [("1", .string "wait")])],
    ["hours", "ask"], none⟩,
  ⟨"wait", "pause", [("duration", .string "5")], ["bye", "hello"], some ⟨.one, .two⟩⟩,
  ⟨"hours", "", [], [], none⟩,
  ⟨"bye", "hangup", [], [], none⟩]

def helloScript : Script where
  format := .graph
  entry := some "hello"
  verbs := [
    .say ⟨"Hello", "alice", "en-US", none⟩,
    .gather ⟨1, 10, .gather "ask", some ⟨"Press one", "alice", "en-US", none⟩⟩,
    .say ⟨"We didn't receive any input. Goodbye!", "alice", "en-US", none⟩,
    .hangup]
  trace := [⟨"hello", .say, 1⟩, ⟨"ask", .gather, 3⟩]
  stop := .awaitingInput "ask"

def waitScript : Script where
  format := .graph
  entry := some "wait"
  verbs := [.pause 5, .hangup]
  trace := [⟨"wait", .pause, 1⟩, ⟨"bye", .hangup, 1⟩]
  stop := .hangup "bye"

theorem unvisited_irrelevant_clinic :
    (ofOptions {}).compileGraph clinic = .ok helloScript ∧
    (ofOptions {}).compileGraph clinicDraft = .ok helloScript ∧
    (ofOptions {}).resume (.graph clinic) "ask" "1" = .ok waitScript ∧
    (ofOptions {}).resume (.graph clinicSketch) "ask" "1" = .ok waitScript := by
  have hcompile : (ofOptions {}).compileGraph clinic = .ok helloScript := by decide +kernel
  have hresume : (ofOptions {}).resume (.graph clinic) "ask" "1" = .ok waitScript := by
    decide +kernel
  have hplace : ∀ {id : String} {i j : Nat}, place? clinic id = some j →
      place? clinic id = some i → j = i := fun h h' => Option.some.inj (h.symm.trans h')
  refine ⟨hcompile,
    (unvisited_irrelevant (ofOptions {}) clinic clinicDraft).1 rfl helloScript hcompile ?_, hresume,
    (unvisited_irrelevant (ofOptions {}) clinic clinicSketch).2 rfl "ask" "1" waitScript hresume ?_⟩
  · rintro i ⟨step, hstep, hi⟩
    simp only [helloScript, List.mem_cons, List.not_mem_nil, or_false] at hstep
    rcases hstep with rfl | rfl
    · obtain rfl := hplace (j := 0) rfl hi
      rfl
    · obtain rfl := hplace (j := 1) rfl hi
      rfl
  · rintro i (hi | ⟨step, hstep, hi⟩)
    · obtain rfl := hplace (j := 1) rfl hi
      rfl
    · simp only [waitScript, List.mem_cons, List.not_mem_nil, or_false] at hstep
      rcases hstep with rfl | rfl
      · obtain rfl := hplace (j := 2) rfl hi
        rfl
      · obtain rfl := hplace (j := 4) rfl hi
        rfl

end Compiler
end CallFlow
