import CallFlow.Compiler.Basic
import CallFlow.Proofs.Graph.Path

/-!
# Walks and paths

A walk keeps the ids it has visited and goes block by block; a path knows nothing of that. The loop
invariant that ties them is that the blocks so far form a path and the visited ids are theirs. One
lemma for each way out of a block, and one for going on, give by induction that a walk passes a
maximal path and leaves behind what its blocks make, in their order.
-/

namespace CallFlow
set_option autoImplicit false

/-- Why a walk along a path ends behind its last block. -/
inductive StopsFor (registry : Registry) (blocks path : List Block) : StopReason → Prop
  | hangup {last : Block} : path.getLast? = some last →
      registry.resolve? last.kindName = some .hangup →
      StopsFor registry blocks path (.hangup last.id)
  | awaitingInput {last : Block} : path.getLast? = some last →
      registry.resolve? last.kindName = some .gather →
      StopsFor registry blocks path (.awaitingInput last.id)
  | endOfFlow {last : Block} : path.getLast? = some last → registry.Passes last →
      last.connections = [] → StopsFor registry blocks path (.endOfFlow last.id)
  | danglingConnection {last : Block} {target : String} : path.getLast? = some last →
      registry.Passes last → last.connections.head? = some target →
      findBlock? blocks target = none →
      StopsFor registry blocks path (.danglingConnection last.id target)
  | revisited {last : Block} {target : String} : path.getLast? = some last →
      registry.Passes last → last.connections.head? = some target →
      target ∈ path.map (·.id) → StopsFor registry blocks path (.revisited last.id target)

namespace Compiler

def fragment (compiler : Compiler) (b : Block) : List Verb :=
  match compiler.registry.action b with
  | .ok action => action.fragment b.id compiler.options
  | .error _ => []

def record? (compiler : Compiler) (b : Block) : Option TraceStep :=
  (compiler.registry.resolve? b.kindName).map fun kind =>
    ⟨b.id, kind, .ofNat (compiler.fragment b).length⟩

def along (compiler : Compiler) (path : List Block) (stop : StopReason) : Walk :=
  ⟨path.flatMap compiler.fragment, path.filterMap compiler.record?, stop⟩

def preceded (compiler : Compiler) (b : Block) (walk : Walk) : Walk :=
  { walk with
    verbs := compiler.fragment b ++ walk.verbs
    trace := (compiler.record? b).toList ++ walk.trace }

/-- What becomes of the last blocks of a path: a walk with all of them, or a failure at the last,
whose kind is unknown. -/
inductive Leaves (compiler : Compiler) (blocks path suffix : List Block) :
    Except CompileError Walk → Prop
  | stopped {stop : StopReason} : (∀ b ∈ suffix, (compiler.record? b).isSome) →
      StopsFor compiler.registry blocks path stop →
      Leaves compiler blocks path suffix (.ok (compiler.along suffix stop))
  | failed {last : Block} : path.getLast? = some last →
      compiler.registry.resolve? last.kindName = none →
      Leaves compiler blocks path suffix (.error (.unknownKind last.id last.kindName))

end Compiler

variable {registry : Registry} {compiler : Compiler} {blocks path suffix : List Block}
variable {visited : List String} {b c : Block} {kind : BlockKind} {target : String}

theorem Registry.action_of_some (h : registry.resolve? b.kindName = some kind) :
    registry.action b = .ok (.ofConfig kind b.config) := by
  unfold Registry.action
  rw [h]

theorem Registry.action_of_none (h : registry.resolve? b.kindName = none) :
    registry.action b = .error (.unknownKind b.id b.kindName) := by
  unfold Registry.action
  rw [h]

theorem Registry.Passes.continuation (hb : registry.Passes b) :
    ∃ kind, registry.resolve? b.kindName = some kind ∧ kind.continuation = .next := by
  obtain ⟨kind, hkind, hgather, hhangup⟩ := hb
  refine ⟨kind, hkind, ?_⟩
  cases kind <;> first | rfl | contradiction

namespace Compiler

theorem fragment_of_some (h : compiler.registry.resolve? b.kindName = some kind) :
    compiler.fragment b = (Action.ofConfig kind b.config).fragment b.id compiler.options := by
  unfold fragment
  rw [Registry.action_of_some h]

theorem record?_of_some (h : compiler.registry.resolve? b.kindName = some kind) :
    compiler.record? b = some ⟨b.id, kind, .ofNat (compiler.fragment b).length⟩ := by
  unfold record?
  rw [h, Option.map_some]

theorem along_singleton (h : compiler.registry.resolve? b.kindName = some kind)
    (stop : StopReason) :
    compiler.along [b] stop =
      ⟨compiler.fragment b, [⟨b.id, kind, .ofNat (compiler.fragment b).length⟩], stop⟩ := by
  simp [along, record?_of_some h]

theorem along_cons (b : Block) (path : List Block) (stop : StopReason) :
    compiler.along (b :: path) stop = compiler.preceded b (compiler.along path stop) := by
  cases h : compiler.record? b <;> simp [along, preceded, h]

/-! Single steps. -/

theorem walk_eq (compiler : Compiler) (blocks : List Block) (visited : List String) (b : Block) :
    compiler.walk blocks visited b =
      match compiler.registry.action b with
      | .error e => .error e
      | .ok action =>
        let step := action.step b.id compiler.options
        let here : TraceStep := ⟨b.id, action.kind, .ofNat step.fragment.length⟩
        match step.continuation with
        | .terminate => .ok ⟨step.fragment, [here], .hangup b.id⟩
        | .awaitInput => .ok ⟨step.fragment, [here], .awaitingInput b.id⟩
        | .next =>
          match b.connections.head? with
          | none => .ok ⟨step.fragment, [here], .endOfFlow b.id⟩
          | some target =>
            match findBlock? blocks target with
            | none => .ok ⟨step.fragment, [here], .danglingConnection b.id target⟩
            | some next =>
              if next.id ∈ visited then .ok ⟨step.fragment, [here], .revisited b.id target⟩
              else
                (compiler.walk blocks (next.id :: visited) next).map
                  (·.behind step.fragment here) := by
  rw [walk]
  cases compiler.registry.action b with
  | error e => rfl
  | ok action =>
  dsimp only
  cases (action.step b.id compiler.options).continuation with
  | terminate => rfl
  | awaitInput => rfl
  | next =>
  cases b.connections with
  | nil => rfl
  | cons target others =>
  simp only [List.head?_cons]
  split <;> rename_i h <;> simp [h]

/-- A walk goes on at blocks whose ids are new, so there is an end to it. -/
theorem walk_induction (blocks : List Block) {motive : List String → Block → Prop}
    (step : ∀ visited b, (∀ target next, findBlock? blocks target = some next →
      next.id ∉ visited → motive (next.id :: visited) next) → motive visited b)
    (visited : List String) (b : Block) : motive visited b := by
  induction hn : unvisited blocks visited using Nat.strong_induction_on
    generalizing visited b with
  | _ n ih =>
  refine step visited b fun target next hfound hnew => ih _ ?_ _ _ rfl
  rw [← hn]
  exact unvisited_cons_lt (mem_of_findBlock? hfound) (by simpa using hnew)

/-! What one block makes of a walk. -/

theorem walk_unknown (h : compiler.registry.resolve? b.kindName = none) :
    compiler.walk blocks visited b = .error (.unknownKind b.id b.kindName) := by
  rw [walk, Registry.action_of_none h]

theorem walk_hangup (h : compiler.registry.resolve? b.kindName = some .hangup) :
    compiler.walk blocks visited b = .ok (compiler.along [b] (.hangup b.id)) := by
  rw [walk, Registry.action_of_some h, along_singleton h, fragment_of_some h]
  rfl

theorem walk_gather (h : compiler.registry.resolve? b.kindName = some .gather) :
    compiler.walk blocks visited b = .ok (compiler.along [b] (.awaitingInput b.id)) := by
  rw [walk, Registry.action_of_some h, along_singleton h, fragment_of_some h]
  rfl

theorem walk_endOfFlow (hb : compiler.registry.Passes b) (h : b.connections = []) :
    compiler.walk blocks visited b = .ok (compiler.along [b] (.endOfFlow b.id)) := by
  obtain ⟨kind, hkind, hnext⟩ := hb.continuation
  rw [walk, Registry.action_of_some hkind, along_singleton hkind, fragment_of_some hkind]
  simp only [Action.step, Action.kind_ofConfig, hnext, h]

theorem walk_dangling (hb : compiler.registry.Passes b) (h : b.connections.head? = some target)
    (hmissing : findBlock? blocks target = none) :
    compiler.walk blocks visited b =
      .ok (compiler.along [b] (.danglingConnection b.id target)) := by
  obtain ⟨kind, hkind, hnext⟩ := hb.continuation
  rw [walk_eq, Registry.action_of_some hkind, along_singleton hkind, fragment_of_some hkind]
  simp only [Action.step, Action.kind_ofConfig, hnext, h, hmissing]

theorem walk_revisited (hb : compiler.registry.Passes b) (hc : b.next? blocks = some c)
    (hid : c.id ∈ visited) :
    compiler.walk blocks visited b = .ok (compiler.along [b] (.revisited b.id c.id)) := by
  obtain ⟨kind, hkind, hnext⟩ := hb.continuation
  rw [walk_eq, Registry.action_of_some hkind, along_singleton hkind, fragment_of_some hkind]
  simp only [Action.step, Action.kind_ofConfig, hnext, id_eq_of_next? hc,
    findBlock?_id_of_next? hc, if_pos hid]

theorem walk_next (hb : compiler.registry.Passes b) (hc : b.next? blocks = some c)
    (hid : c.id ∉ visited) :
    compiler.walk blocks visited b =
      (compiler.walk blocks (c.id :: visited) c).map (compiler.preceded b) := by
  obtain ⟨kind, hkind, hnext⟩ := hb.continuation
  rw [walk_eq, Registry.action_of_some hkind]
  simp only [Action.step, Action.kind_ofConfig, hnext, id_eq_of_next? hc,
    findBlock?_id_of_next? hc, if_neg hid]
  congr 1
  funext w
  simp only [Walk.behind, preceded, record?_of_some hkind, fragment_of_some hkind]
  rfl

theorem Leaves.preceded {result : Except CompileError Walk}
    (h : compiler.Leaves blocks path suffix result) (hb : (compiler.record? b).isSome) :
    compiler.Leaves blocks path (b :: suffix) (result.map (compiler.preceded b)) := by
  cases h with
  | stopped hsuffix hstop =>
    rw [Except.map, ← along_cons]
    exact .stopped (List.forall_mem_cons.mpr ⟨hb, hsuffix⟩) hstop
  | failed hlast hunknown => exact .failed hlast hunknown

theorem isSome_record? (h : compiler.registry.resolve? b.kindName = some kind) :
    (compiler.record? b).isSome := by
  rw [record?_of_some h]
  rfl

/-- A block of a known kind ends the walk for a reason, with no block to add to the path, or the walk
goes on at a block that is new. -/
theorem exists_stop_or_next (compiler : Compiler) (hlast : path.getLast? = some b)
    (hvisited : ∀ id, id ∈ visited ↔ id ∈ path.map (·.id))
    (hkind : compiler.registry.resolve? b.kindName = some kind) :
    (∃ stop, compiler.walk blocks visited b = .ok (compiler.along [b] stop) ∧
      StopsFor compiler.registry blocks path stop ∧
      (compiler.registry.Passes b → ∀ c, b.next? blocks = some c → c.id ∈ path.map (·.id))) ∨
    ∃ c, compiler.registry.Passes b ∧ b.next? blocks = some c ∧ c.id ∉ visited := by
  have hends : kind = .gather ∨ kind = .hangup → ¬ compiler.registry.Passes b := by
    rintro hends ⟨other, hother, hgather, hhangup⟩
    obtain rfl := Option.some.inj (hkind.symm.trans hother)
    exact hends.elim hgather hhangup
  by_cases hgather : kind = .gather
  · subst hgather
    exact .inl ⟨_, walk_gather hkind, .awaitingInput hlast hkind,
      fun hb => absurd hb (hends (.inl rfl))⟩
  by_cases hhangup : kind = .hangup
  · subst hhangup
    exact .inl ⟨_, walk_hangup hkind, .hangup hlast hkind,
      fun hb => absurd hb (hends (.inr rfl))⟩
  have hb : compiler.registry.Passes b := ⟨kind, hkind, hgather, hhangup⟩
  cases hhead : b.connections.head? with
  | none =>
    have hnil : b.connections = [] := List.head?_eq_none_iff.mp hhead
    refine .inl ⟨_, walk_endOfFlow hb hnil, .endOfFlow hlast hb hnil, fun _ c hc => ?_⟩
    exact absurd ((id_eq_of_next? hc).symm.trans hhead) (by simp)
  | some target =>
  cases hfound : findBlock? blocks target with
  | none =>
    refine .inl ⟨_, walk_dangling hb hhead hfound,
      .danglingConnection hlast hb hhead hfound, fun _ c hc => ?_⟩
    rw [Block.next?, hhead, Option.bind_some, hfound] at hc
    exact absurd hc (by simp)
  | some c =>
  have hc : b.next? blocks = some c := by rw [Block.next?, hhead, Option.bind_some, hfound]
  by_cases hid : c.id ∈ visited
  · have hback := (hvisited c.id).mp hid
    refine .inl ⟨_, walk_revisited hb hc hid,
      .revisited hlast hb (id_eq_of_next? hc) hback, fun _ d hd => ?_⟩
    obtain rfl := Option.some.inj (hc.symm.trans hd)
    exact hback
  · exact .inr ⟨c, hb, hc, hid⟩

/-- What a walk keeps: the blocks so far are a path that ends at the current one, and their ids are
those visited. So it goes on to the end of a maximal path. -/
theorem walk_leaves (compiler : Compiler) (visited : List String) {start : Block}
    (hpath : IsPath compiler.registry blocks start path)
    (hlast : path.getLast? = some b) (hvisited : ∀ id, id ∈ visited ↔ id ∈ path.map (·.id)) :
    ∃ rest, IsMaximalPath compiler.registry blocks start (path ++ rest) ∧
      compiler.Leaves blocks (path ++ rest) (b :: rest) (compiler.walk blocks visited b) := by
  induction visited, b using walk_induction blocks generalizing path with
  | step visited b ih =>
  cases hkind : compiler.registry.resolve? b.kindName with
  | none =>
    refine ⟨[], ?_⟩
    rw [List.append_nil, walk_unknown hkind]
    refine ⟨hpath.maximal hlast fun hb => ?_, .failed hlast hkind⟩
    obtain ⟨kind, hsome, -⟩ := hb
    exact absurd (hkind.symm.trans hsome) (by simp)
  | some kind =>
  rcases compiler.exists_stop_or_next hlast hvisited hkind with
    ⟨stop, hwalk, hstop, hstuck⟩ | ⟨c, hb, hc, hid⟩
  · refine ⟨[], ?_⟩
    rw [List.append_nil, hwalk]
    exact ⟨hpath.maximal hlast hstuck, .stopped (by simpa using isSome_record? hkind) hstop⟩
  · have hlonger := hpath.append_next hlast hb hc fun hmem => hid ((hvisited c.id).mpr hmem)
    obtain ⟨rest, hmaximal, hleaves⟩ := ih c.id c (findBlock?_id_of_next? hc) hid hlonger
      List.getLast?_concat (fun name => by simp [hvisited, or_comm])
    rw [List.append_assoc, List.singleton_append] at hmaximal hleaves
    rw [walk_next hb hc hid]
    exact ⟨c :: rest, hmaximal, hleaves.preceded (isSome_record? hkind)⟩

end Compiler
end CallFlow
