import CallFlow.Proofs.Graph.Traversal

/-!
# Scripts of paths

What compiling makes of a graph, said without a walk: `Script.Follows` ties every field of a script to
a path. The main result is that compiling a graph follows the one maximal path from its entry, and
fails exactly where a block of that path is of an unknown kind.
-/

namespace CallFlow
set_option autoImplicit false

variable {compiler : Compiler} {blocks path : List Block} {start b : Block}

structure Compiler.Records (compiler : Compiler) (b : Block) (step : TraceStep) : Prop where
  blockId : step.blockId = b.id
  kind : compiler.registry.resolve? b.kindName = some step.kind
  verbsEmitted : step.verbsEmitted.toNat = (compiler.fragment b).length

/-- A script holds what the blocks of a path make, in their order, and ends for the reason that the
path ends. -/
structure Script.Follows (script : Script) (compiler : Compiler) (blocks : List Block)
    (start : Block) (path : List Block) : Prop where
  format : script.format = .graph
  entry : script.entry = some start.id
  trace : List.Forall₂ compiler.Records path script.trace
  verbs : script.verbs = path.flatMap compiler.fragment
  stop : ∀ stop, script.stop = stop ↔ StopsFor compiler.registry blocks path stop

/-- What compiling makes of the path from a block. -/
inductive Compiler.Yields (compiler : Compiler) (blocks : List Block) (start : Block)
    (path : List Block) : Except CompileError Script → Prop
  | script {script : Script} : script.Follows compiler blocks start path →
      Compiler.Yields compiler blocks start path (.ok script)
  | unknownKind {b : Block} : b ∈ path → compiler.registry.resolve? b.kindName = none →
      Compiler.Yields compiler blocks start path (.error (.unknownKind b.id b.kindName))

/-- A path ends for one reason only: an id on the path is never missing. -/
theorem StopsFor.unique {registry : Registry} {stop stop' : StopReason}
    (hfound : ∀ b ∈ path, findBlock? blocks b.id = some b)
    (h : StopsFor registry blocks path stop) (h' : StopsFor registry blocks path stop') :
    stop = stop' := by
  have hthere : ∀ id ∈ path.map (·.id), findBlock? blocks id ≠ none := by
    intro id hid
    obtain ⟨b, hb, rfl⟩ := List.mem_map.mp hid
    simp [hfound b hb]
  cases h <;> cases h' <;> grind [Registry.Passes]

theorem Action.length_fragment_le (id : String) (options : Options) (action : Action) :
    (action.fragment id options).length ≤ 3 := by
  cases action with
  | say text speed voicing => cases text <;> simp [fragment]
  | gather prompt numDigits timeout routes voicing => cases prompt <;> simp [fragment]
  | forward number timeout url loop => cases number <;> simp [fragment]
  | record prompt maxLength finishOnKey voicing => cases prompt <;> simp [fragment]
  | pause duration => simp [fragment]
  | play url loopCount => cases url <;> simp [fragment]
  | sms message recipient => cases message <;> simp [fragment]
  | hangup => simp [fragment]

namespace Compiler

theorem records_of_record? {step : TraceStep} (h : compiler.record? b = some step) :
    compiler.Records b step := by
  obtain ⟨kind, hkind, rfl⟩ := Option.map_eq_some_iff.mp h
  refine ⟨rfl, hkind, ?_⟩
  have hle := Action.length_fragment_le b.id compiler.options (.ofConfig kind b.config)
  rw [← fragment_of_some hkind] at hle
  exact UInt64.toNat_ofNat_of_lt' (by rw [UInt64.size]; omega)

theorem forall₂_records (h : ∀ b ∈ path, (compiler.record? b).isSome) :
    List.Forall₂ compiler.Records path (path.filterMap compiler.record?) := by
  induction path with
  | nil => exact .nil
  | cons b path ih =>
    obtain ⟨hb, hpath⟩ := List.forall_mem_cons.mp h
    obtain ⟨step, hstep⟩ := Option.isSome_iff_exists.mp hb
    rw [List.filterMap_cons_some hstep]
    exact .cons (records_of_record? hstep) (ih hpath)

theorem scriptFrom_yields (compiler : Compiler)
    (hstart : findBlock? blocks start.id = some start) :
    ∃ path, IsMaximalPath compiler.registry blocks start path ∧
      compiler.Yields blocks start path (compiler.scriptFrom blocks (some start)) := by
  obtain ⟨rest, hpath, hleaves⟩ :=
    compiler.walk_leaves [start.id] (b := start) IsPath.single rfl (by simp)
  refine ⟨[start] ++ rest, hpath, ?_⟩
  change compiler.Yields blocks start _ ((compiler.walk blocks [start.id] start).map _)
  generalize compiler.walk blocks [start.id] start = result at hleaves ⊢
  cases hleaves with
  | stopped hrecords hstop =>
    refine .script ⟨rfl, rfl, forall₂_records hrecords, rfl, fun other => ⟨?_, ?_⟩⟩
    · rintro rfl
      exact hstop
    · exact fun hother => hstop.unique (hpath.findBlock?_id hstart) hother
  | failed hlast hunknown =>
    exact .unknownKind (List.mem_of_getLast? hlast) hunknown

theorem getLast?_of_unknownKind (h : IsPath compiler.registry blocks start path) (hb : b ∈ path)
    (hunknown : compiler.registry.resolve? b.kindName = none) : path.getLast? = some b := by
  apply h.getLast?_of_not_passes hb
  rintro ⟨kind, hkind, -⟩
  exact absurd (hunknown.symm.trans hkind) (by simp)

end Compiler

theorem Script.Follows.resolve? {script : Script}
    (h : script.Follows compiler blocks start path) (hb : b ∈ path) :
    ∃ kind, compiler.registry.resolve? b.kindName = some kind := by
  have hboth : List.Forall₂ (fun c step =>
      (∃ kind, compiler.registry.resolve? c.kindName = some kind) ∧ compiler.Records c step)
      path script.trace := h.trace.imp fun c step hstep => ⟨⟨step.kind, hstep.kind⟩, hstep⟩
  exact ((List.forall₂_and_left path script.trace).mp hboth).1 b hb

theorem Script.Follows.map_verbsEmitted {script : Script}
    (h : script.Follows compiler blocks start path) :
    script.trace.map (·.verbsEmitted.toNat) = (path.map compiler.fragment).map List.length := by
  have htrace := h.trace
  clear h
  generalize script.trace = trace at htrace ⊢
  induction htrace with
  | nil => rfl
  | cons hstep _ ih =>
    rw [List.map_cons, List.map_cons, List.map_cons, ih, hstep.verbsEmitted]

namespace Compiler.Yields

variable {result : Except CompileError Script}

theorem exists_script (h : compiler.Yields blocks start path result)
    (hknown : ∀ b ∈ path, ∃ kind, compiler.registry.resolve? b.kindName = some kind) :
    ∃ script, result = .ok script ∧ script.Follows compiler blocks start path := by
  cases h with
  | script hfollows => exact ⟨_, rfl, hfollows⟩
  | unknownKind hb hunknown =>
    obtain ⟨kind, hkind⟩ := hknown _ hb
    exact absurd (hunknown.symm.trans hkind) (by simp)

theorem eq_unknownKind (h : compiler.Yields blocks start path result)
    (hpath : IsPath compiler.registry blocks start path) (hb : b ∈ path)
    (hunknown : compiler.registry.resolve? b.kindName = none) :
    result = .error (.unknownKind b.id b.kindName) := by
  cases h with
  | script hfollows =>
    obtain ⟨kind, hkind⟩ := hfollows.resolve? hb
    exact absurd (hunknown.symm.trans hkind) (by simp)
  | unknownKind hother hnone =>
    have hlast := getLast?_of_unknownKind hpath hother hnone
    obtain rfl := Option.some.inj (hlast.symm.trans (getLast?_of_unknownKind hpath hb hunknown))
    rfl

end Compiler.Yields

namespace Compiler

variable {script : Script}

theorem exists_path_of_scriptFrom (hstart : findBlock? blocks start.id = some start)
    (h : compiler.scriptFrom blocks (some start) = .ok script) :
    ∃ path, IsMaximalPath compiler.registry blocks start path ∧
      script.Follows compiler blocks start path := by
  obtain ⟨path, hpath, hyields⟩ := compiler.scriptFrom_yields hstart
  rw [h] at hyields
  cases hyields with
  | script hfollows => exact ⟨path, hpath, hfollows⟩

theorem eq_empty_or_exists_path (h : compiler.compileGraph blocks = .ok script) :
    script = ⟨.graph, none, [], [], .emptyFlow⟩ ∨
    ∃ start path, findBlock? blocks start.id = some start ∧
      compiler.scriptFrom blocks (some start) = .ok script ∧
      IsMaximalPath compiler.registry blocks start path ∧
      script.Follows compiler blocks start path := by
  unfold compileGraph at h
  cases hentry : entryBlock? blocks with
  | none =>
    rw [hentry] at h
    cases h
    exact .inl rfl
  | some start =>
    rw [hentry] at h
    have hstart := findBlock?_entryBlock? hentry
    obtain ⟨path, hpath, hfollows⟩ := exists_path_of_scriptFrom hstart h
    exact .inr ⟨start, path, hstart, h, hpath, hfollows⟩

end Compiler

/-- Compiling a graph ends for every list of blocks. It follows the one maximal path along first
connections that begins at the entry; if a block of that path is of an unknown kind, compiling fails
with that block. -/
theorem compileGraph_follows_maximalPath (compiler : Compiler) (blocks : List Block) :
    (blocks = [] → compiler.compileGraph blocks = .ok ⟨.graph, none, [], [], .emptyFlow⟩) ∧
    (blocks ≠ [] → ∃ start path, entryBlock? blocks = some start ∧
      IsMaximalPath compiler.registry blocks start path ∧
      (∀ other, IsMaximalPath compiler.registry blocks start other → other = path) ∧
      ((∀ b ∈ path, ∃ kind, compiler.registry.resolve? b.kindName = some kind) →
        ∃ script, compiler.compileGraph blocks = .ok script ∧
          script.Follows compiler blocks start path) ∧
      (∀ b ∈ path, compiler.registry.resolve? b.kindName = none →
        compiler.compileGraph blocks = .error (.unknownKind b.id b.kindName))) := by
  constructor
  · rintro rfl
    rfl
  · intro hne
    obtain ⟨start, hstart⟩ := exists_entryBlock? hne
    obtain ⟨path, hpath, hyields⟩ :=
      compiler.scriptFrom_yields (findBlock?_entryBlock? hstart)
    rw [← hstart] at hyields
    refine ⟨start, path, hstart, hpath, fun other hother => hother.unique hpath, ?_, ?_⟩
    · exact hyields.exists_script
    · intro b hb hunknown
      exact hyields.eq_unknownKind hpath.toIsPath hb hunknown

end CallFlow
