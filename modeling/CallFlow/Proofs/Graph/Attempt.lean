import CallFlow.Proofs.Graph.Compilation

/-!
# Failing, and having nothing to say

When compiling a flow or resuming it fails, and when it makes a script without verbs: both are said
of the flow, in terms of the path that is followed, and both are exact. `Attempt` adds the source
that the flow comes from, which may fail or break down before there is a flow.
-/

namespace CallFlow
set_option autoImplicit false

namespace Compiler

/-- The path from a block ends at a block of an unknown kind. -/
def StuckFrom (compiler : Compiler) (blocks : List Block) (start : Block) (e : CompileError) :
    Prop :=
  ∃ path b, IsMaximalPath compiler.registry blocks start path ∧ b ∈ path ∧
    compiler.registry.resolve? b.kindName = none ∧ e = .unknownKind b.id b.kindName

/-- All blocks on the path from a block are of known kinds, and none of them has a verb. -/
def SilentFrom (compiler : Compiler) (blocks : List Block) (start : Block) : Prop :=
  ∃ path, IsMaximalPath compiler.registry blocks start path ∧ ∀ b ∈ path,
    (∃ kind, compiler.registry.resolve? b.kindName = some kind) ∧ compiler.fragment b = []

inductive CompileFails (compiler : Compiler) : Flow → CompileError → Prop
  | stuck {blocks : List Block} {start : Block} {e : CompileError} :
      entryBlock? blocks = some start → compiler.StuckFrom blocks start e →
      CompileFails compiler (.graph blocks) e

inductive CompilesSilently (compiler : Compiler) : Flow → Prop
  | legacy {flow : LegacyFlow} : flow.verbs compiler.options = [] →
      CompilesSilently compiler (.legacy flow)
  | empty : CompilesSilently compiler (.graph [])
  | path {blocks : List Block} {start : Block} : entryBlock? blocks = some start →
      compiler.SilentFrom blocks start → CompilesSilently compiler (.graph blocks)

/-- The block of an id is there and of a known kind, and leads to this target. -/
def LeadsTo (compiler : Compiler) (blocks : List Block) (id digits : String)
    (target : Option String) : Prop :=
  ∃ b action, findBlock? blocks id = some b ∧ compiler.registry.action b = .ok action ∧
    successor? action digits b.connections = target

inductive ResumeFails (compiler : Compiler) (id digits : String) : Flow → CompileError → Prop
  | legacy {flow : LegacyFlow} : ResumeFails compiler id digits (.legacy flow) .notGraph
  | missing {blocks : List Block} : findBlock? blocks id = none →
      ResumeFails compiler id digits (.graph blocks) (.blockNotFound id)
  | unknownKind {blocks : List Block} {b : Block} : findBlock? blocks id = some b →
      compiler.registry.resolve? b.kindName = none →
      ResumeFails compiler id digits (.graph blocks) (.unknownKind b.id b.kindName)
  | stuck {blocks : List Block} {target : String} {next : Block} {e : CompileError} :
      compiler.LeadsTo blocks id digits (some target) → findBlock? blocks target = some next →
      compiler.StuckFrom blocks next e → ResumeFails compiler id digits (.graph blocks) e

inductive ResumesSilently (compiler : Compiler) (id digits : String) : Flow → Prop
  | nowhere {blocks : List Block} : compiler.LeadsTo blocks id digits none →
      ResumesSilently compiler id digits (.graph blocks)
  | missing {blocks : List Block} {target : String} :
      compiler.LeadsTo blocks id digits (some target) → findBlock? blocks target = none →
      ResumesSilently compiler id digits (.graph blocks)
  | path {blocks : List Block} {target : String} {next : Block} :
      compiler.LeadsTo blocks id digits (some target) → findBlock? blocks target = some next →
      compiler.SilentFrom blocks next → ResumesSilently compiler id digits (.graph blocks)

variable {compiler : Compiler} {blocks : List Block} {start : Block} {e : CompileError}

/-! Walks from a block that its id leads to. -/

theorem scriptFrom_eq_error_iff (hstart : findBlock? blocks start.id = some start) :
    compiler.scriptFrom blocks (some start) = .error e ↔ compiler.StuckFrom blocks start e := by
  obtain ⟨path, hpath, hyields⟩ := compiler.scriptFrom_yields hstart
  constructor
  · intro herror
    rw [herror] at hyields
    cases hyields with
    | unknownKind hb hunknown => exact ⟨path, _, hpath, hb, hunknown, rfl⟩
  · rintro ⟨other, b, hother, hb, hunknown, rfl⟩
    rw [hother.unique hpath] at hb
    exact hyields.eq_unknownKind hpath.toIsPath hb hunknown

theorem scriptFrom_silent_iff (hstart : findBlock? blocks start.id = some start) :
    (∃ script, compiler.scriptFrom blocks (some start) = .ok script ∧ script.verbs = []) ↔
      compiler.SilentFrom blocks start := by
  obtain ⟨path, hpath, hyields⟩ := compiler.scriptFrom_yields hstart
  constructor
  · rintro ⟨script, hscript, hverbs⟩
    rw [hscript] at hyields
    cases hyields with
    | script hfollows =>
      rw [hfollows.verbs, List.flatMap_eq_nil_iff] at hverbs
      exact ⟨path, hpath, fun b hb => ⟨hfollows.resolve? hb, hverbs b hb⟩⟩
  · rintro ⟨other, hother, hsilent⟩
    rw [hother.unique hpath] at hsilent
    obtain ⟨script, hscript, hfollows⟩ := hyields.exists_script fun b hb => (hsilent b hb).1
    refine ⟨script, hscript, ?_⟩
    rw [hfollows.verbs, List.flatMap_eq_nil_iff]
    exact fun b hb => (hsilent b hb).2

/-! Compiling. -/

theorem compile_eq_error_iff (flow : Flow) :
    compiler.compile flow = .error e ↔ compiler.CompileFails flow e := by
  constructor
  · intro herror
    cases flow with
    | legacy flow => cases herror
    | graph blocks =>
      change compiler.scriptFrom blocks (entryBlock? blocks) = _ at herror
      cases hentry : entryBlock? blocks with
      | none =>
        rw [hentry] at herror
        cases herror
      | some start =>
        rw [hentry] at herror
        exact .stuck hentry
          ((scriptFrom_eq_error_iff (findBlock?_entryBlock? hentry)).mp herror)
  · rintro ⟨hentry, hstuck⟩
    change compiler.scriptFrom _ (entryBlock? _) = _
    rw [hentry]
    exact (scriptFrom_eq_error_iff (findBlock?_entryBlock? hentry)).mpr hstuck

theorem compile_silent_iff (flow : Flow) :
    (∃ script, compiler.compile flow = .ok script ∧ script.verbs = []) ↔
      compiler.CompilesSilently flow := by
  constructor
  · rintro ⟨script, hscript, hverbs⟩
    cases flow with
    | legacy flow =>
      cases hscript
      exact .legacy hverbs
    | graph blocks =>
      change compiler.scriptFrom blocks (entryBlock? blocks) = _ at hscript
      cases hentry : entryBlock? blocks with
      | none =>
        cases blocks with
        | nil => exact .empty
        | cons b blocks =>
          obtain ⟨start, hstart⟩ := exists_entryBlock? (List.cons_ne_nil b blocks)
          exact absurd (hentry.symm.trans hstart) (by simp)
      | some start =>
        rw [hentry] at hscript
        exact .path hentry
          ((scriptFrom_silent_iff (findBlock?_entryBlock? hentry)).mp ⟨script, hscript, hverbs⟩)
  · rintro (hverbs | _ | ⟨hentry, hsilent⟩)
    · exact ⟨_, rfl, hverbs⟩
    · exact ⟨_, rfl, rfl⟩
    · change ∃ script, compiler.scriptFrom _ (entryBlock? _) = _ ∧ _
      rw [hentry]
      exact (scriptFrom_silent_iff (findBlock?_entryBlock? hentry)).mpr hsilent

/-! Resuming. -/

variable {id digits target : String} {b next : Block}

theorem resume_of_missing (h : findBlock? blocks id = none) :
    compiler.resume (.graph blocks) id digits = .error (.blockNotFound id) := by
  simp only [resume, h]

theorem resume_of_unknownKind (h : findBlock? blocks id = some b)
    (hunknown : compiler.registry.resolve? b.kindName = none) :
    compiler.resume (.graph blocks) id digits = .error (.unknownKind b.id b.kindName) := by
  simp only [resume, h, Registry.action_of_none hunknown]

theorem resume_of_leadsTo_nowhere (h : compiler.LeadsTo blocks id digits none) :
    compiler.resume (.graph blocks) id digits = .ok ⟨.graph, none, [], [], .emptyFlow⟩ := by
  obtain ⟨b, action, hfound, haction, htarget⟩ := h
  simp only [resume, hfound, haction, htarget]
  rfl

theorem resume_of_leadsTo_missing (h : compiler.LeadsTo blocks id digits (some target))
    (hmissing : findBlock? blocks target = none) :
    compiler.resume (.graph blocks) id digits =
      .ok ⟨.graph, none, [], [], .danglingConnection id target⟩ := by
  obtain ⟨b, action, hfound, haction, htarget⟩ := h
  simp only [resume, hfound, haction, htarget, hmissing]

theorem resume_of_leadsTo (h : compiler.LeadsTo blocks id digits (some target))
    (hnext : findBlock? blocks target = some next) :
    compiler.resume (.graph blocks) id digits = compiler.scriptFrom blocks (some next) := by
  obtain ⟨b, action, hfound, haction, htarget⟩ := h
  simp only [resume, hfound, haction, htarget, hnext]

theorem missing_or_unknownKind_or_leadsTo (compiler : Compiler) (blocks : List Block)
    (id digits : String) :
    findBlock? blocks id = none ∨
      (∃ b, findBlock? blocks id = some b ∧ compiler.registry.resolve? b.kindName = none) ∨
      ∃ target, compiler.LeadsTo blocks id digits target := by
  cases hfound : findBlock? blocks id with
  | none => exact .inl rfl
  | some b =>
    cases hkind : compiler.registry.resolve? b.kindName with
    | none => exact .inr (.inl ⟨b, rfl, hkind⟩)
    | some kind =>
      exact .inr (.inr ⟨_, b, _, hfound, Registry.action_of_some hkind, rfl⟩)

theorem resume_eq_error_iff (flow : Flow) :
    compiler.resume flow id digits = .error e ↔ compiler.ResumeFails id digits flow e := by
  constructor
  · intro herror
    cases flow with
    | legacy flow =>
      cases herror
      exact .legacy
    | graph blocks =>
      rcases compiler.missing_or_unknownKind_or_leadsTo blocks id digits with
        hmissing | ⟨b, hfound, hunknown⟩ | ⟨target, hleads⟩
      · rw [resume_of_missing hmissing] at herror
        cases herror
        exact .missing hmissing
      · rw [resume_of_unknownKind hfound hunknown] at herror
        cases herror
        exact .unknownKind hfound hunknown
      · cases target with
        | none =>
          rw [resume_of_leadsTo_nowhere hleads] at herror
          cases herror
        | some target =>
          cases hnext : findBlock? blocks target with
          | none =>
            rw [resume_of_leadsTo_missing hleads hnext] at herror
            cases herror
          | some next =>
            rw [resume_of_leadsTo hleads hnext] at herror
            have hstuck := (scriptFrom_eq_error_iff (findBlock?_id_of_findBlock? hnext)).mp herror
            exact .stuck hleads hnext hstuck
  · rintro (_ | hmissing | ⟨hfound, hunknown⟩ | ⟨hleads, hnext, hstuck⟩)
    · rfl
    · exact resume_of_missing hmissing
    · exact resume_of_unknownKind hfound hunknown
    · rw [resume_of_leadsTo hleads hnext]
      exact (scriptFrom_eq_error_iff (findBlock?_id_of_findBlock? hnext)).mpr hstuck

theorem resume_silent_iff (flow : Flow) :
    (∃ script, compiler.resume flow id digits = .ok script ∧ script.verbs = []) ↔
      compiler.ResumesSilently id digits flow := by
  constructor
  · rintro ⟨script, hscript, hverbs⟩
    cases flow with
    | legacy flow => cases hscript
    | graph blocks =>
      rcases compiler.missing_or_unknownKind_or_leadsTo blocks id digits with
        hmissing | ⟨b, hfound, hunknown⟩ | ⟨target, hleads⟩
      · rw [resume_of_missing hmissing] at hscript
        cases hscript
      · rw [resume_of_unknownKind hfound hunknown] at hscript
        cases hscript
      · cases target with
        | none => exact .nowhere hleads
        | some target =>
          cases hnext : findBlock? blocks target with
          | none => exact .missing hleads hnext
          | some next =>
            rw [resume_of_leadsTo hleads hnext] at hscript
            have hsilent := (scriptFrom_silent_iff (findBlock?_id_of_findBlock? hnext)).mp
              ⟨script, hscript, hverbs⟩
            exact .path hleads hnext hsilent
  · rintro (hleads | ⟨hleads, hmissing⟩ | ⟨hleads, hnext, hsilent⟩)
    · exact ⟨_, resume_of_leadsTo_nowhere hleads, rfl⟩
    · exact ⟨_, resume_of_leadsTo_missing hleads hmissing, rfl⟩
    · rw [resume_of_leadsTo hleads hnext]
      exact (scriptFrom_silent_iff (findBlock?_id_of_findBlock? hnext)).mpr hsilent

/-! Sources. -/

structure Attempt (source : FlowSource) (run : Flow → Except CompileError Script)
    (Fails : Flow → CompileError → Prop) (Silent : Flow → Prop)
    (result : Except (Failure CompileError) Script) : Prop where
  ok_iff : ∀ script, result = .ok script ↔
    ∃ flow, source.flow = .ok flow ∧ run flow = .ok script
  silent_iff : (∃ script, result = .ok script ∧ script.verbs = []) ↔
    ∃ flow, source.flow = .ok flow ∧ Silent flow
  refused_iff : ∀ e, result = .error (.refused e) ↔
    (∃ cause, source.flow = .error (.refused cause) ∧ e = .conversion cause) ∨
      ∃ flow, source.flow = .ok flow ∧ Fails flow e
  crashed_iff : result = .error .crashed ↔ source.flow = .error .crashed

theorem attempt_of_run (source : FlowSource) {run : Flow → Except CompileError Script}
    {Fails : Flow → CompileError → Prop} {Silent : Flow → Prop}
    (hfails : ∀ flow e, run flow = .error e ↔ Fails flow e)
    (hsilent : ∀ flow, (∃ script, run flow = .ok script ∧ script.verbs = []) ↔ Silent flow) :
    Attempt source run Fails Silent
      (flowOf source >>= fun flow => (run flow).mapError Failure.refused) := by
  unfold flowOf
  cases hsource : source.flow with
  | error failure =>
    cases failure with
    | refused cause => constructor <;> simp [hsource, Except.mapError, bind, Except.bind, eq_comm]
    | crashed => constructor <;> simp [hsource, Except.mapError, bind, Except.bind]
  | ok flow =>
    have hrun : ∀ script, (run flow).mapError Failure.refused = .ok script ↔
        run flow = .ok script := by
      intro script
      cases run flow <;> simp [Except.mapError]
    have herror : ∀ e, (run flow).mapError Failure.refused = .error (.refused e) ↔
        run flow = .error e := by
      intro e
      cases run flow <;> simp [Except.mapError]
    have hcrash : (run flow).mapError Failure.refused ≠ .error .crashed := by
      cases run flow <;> simp [Except.mapError]
    change Attempt source run Fails Silent ((run flow).mapError Failure.refused)
    constructor
    · intro script
      simp [hsource, hrun]
    · simp only [hrun, hsilent, hsource]
      simp
    · intro e
      simp [hsource, herror, hfails]
    · simp [hsource, hcrash]

theorem attempt_compileSource (compiler : Compiler) (source : FlowSource) :
    Attempt source compiler.compile compiler.CompileFails compiler.CompilesSilently
      (compiler.compileSource source) :=
  attempt_of_run source (fun flow _ => compile_eq_error_iff flow) compile_silent_iff

theorem attempt_resumeSource (compiler : Compiler) (source : FlowSource) (id digits : String) :
    Attempt source (compiler.resume · id digits) (compiler.ResumeFails id digits)
      (compiler.ResumesSilently id digits) (compiler.resumeSource source id digits) :=
  attempt_of_run source (fun flow _ => resume_eq_error_iff flow) resume_silent_iff

end Compiler
end CallFlow
