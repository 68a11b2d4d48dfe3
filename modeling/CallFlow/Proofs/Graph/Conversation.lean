import CallFlow.Proofs.Graph.Compilation

/-!
# Calls that go on

A call is answered by compiling its flow, and then, while a block waits for digits, by resuming
there. Compiling looks for the entry by its place in the list and resuming looks the waiting block up
by its id, so both have to mean the same block; `Compiler.Answers` is what every answer of a call keeps
for that. The main result says which block waits, and where each choice of digits leads.
-/

namespace CallFlow
set_option autoImplicit false

namespace Compiler

def press (compiler : Compiler) (blocks : List Block) (last : Except CompileError Script)
    (digits : String) : Except CompileError Script :=
  match last with
  | .error e => .error e
  | .ok script =>
    match script.awaiting? with
    | some id => compiler.resume (.graph blocks) id digits
    | none => .ok script

/-- The last answer of a call in which these digits are pressed, one choice after the other. -/
def converse (compiler : Compiler) (blocks : List Block) (pressed : List String) :
    Except CompileError Script :=
  pressed.foldl (compiler.press blocks) (compiler.compile (.graph blocks))

/-- What every answer of a call is: a script without blocks in which nothing waits, or what the path
from a block makes that its id leads to. -/
inductive Answers (compiler : Compiler) (blocks : List Block) : Except CompileError Script → Prop
  | silent {stop : StopReason} : (∀ id, stop ≠ .awaitingInput id) →
      Answers compiler blocks (.ok ⟨.graph, none, [], [], stop⟩)
  | path {start : Block} {path : List Block} {result : Except CompileError Script} :
      findBlock? blocks start.id = some start →
      IsMaximalPath compiler.registry blocks start path →
      compiler.Yields blocks start path result → Answers compiler blocks result

/-- Where a graph goes on behind the block of an id: nowhere, at a block that is missing, or along
the path from a block. On that path only other blocks can be of an unknown kind. -/
inductive ContinuesAt (compiler : Compiler) (blocks : List Block) (id : String) :
    Option String → Except CompileError Script → Prop
  | nowhere : ContinuesAt compiler blocks id none (.ok ⟨.graph, none, [], [], .emptyFlow⟩)
  | missing {target : String} : findBlock? blocks target = none →
      ContinuesAt compiler blocks id (some target)
        (.ok ⟨.graph, none, [], [], .danglingConnection id target⟩)
  | path {target : String} {next : Block} {path : List Block}
      {result : Except CompileError Script} : findBlock? blocks target = some next →
      IsMaximalPath compiler.registry blocks next path →
      compiler.Yields blocks next path result →
      (∀ c ∈ path, compiler.registry.resolve? c.kindName = none → c.id ≠ id) →
      ContinuesAt compiler blocks id (some target) result

end Compiler

variable {compiler : Compiler} {blocks path : List Block} {b start : Block} {id : String}
variable {script : Script} {result : Except CompileError Script}

theorem Script.awaiting?_eq_some_iff : script.awaiting? = some id ↔ script.stop = .awaitingInput id := by
  unfold Script.awaiting?
  cases script.stop <;> simp

/-- An action has a gather verb if it gathers with a prompt, and then it is this one. -/
theorem Action.gather_mem_fragment_iff (options : Options) (action : Action) (g : Gather) :
    Verb.gather g ∈ action.fragment id options ↔
      ∃ text numDigits timeout routes voicing,
        action = .gather (some text) numDigits timeout routes voicing ∧
        g = ⟨numDigits, timeout, .gather id, some (options.speech text voicing)⟩ := by
  cases action with
  | say text speed voicing => cases text <;> simp [fragment]
  | gather prompt numDigits timeout routes voicing => cases prompt <;> simp [fragment]
  | forward number timeout url loop => cases number <;> simp [fragment]
  | record prompt maxLength finishOnKey voicing => cases prompt <;> simp [fragment]
  | pause duration => simp [fragment]
  | play url loopCount => cases url <;> simp [fragment]
  | sms message recipient => cases message <;> simp [fragment]
  | hangup => simp [fragment]

theorem Compiler.gather_notMem_fragment (hb : compiler.registry.Passes b) (g : Gather) :
    Verb.gather g ∉ compiler.fragment b := by
  obtain ⟨kind, hkind, hgather, -⟩ := hb
  intro hmem
  rw [fragment_of_some hkind, Action.gather_mem_fragment_iff] at hmem
  obtain ⟨text, numDigits, timeout, routes, voicing, haction, -⟩ := hmem
  have hkinds := Action.kind_ofConfig kind b.config
  rw [haction] at hkinds
  exact hgather hkinds.symm

theorem Action.ofConfig_gather (config : Json.Fields) :
    ∃ prompt numDigits timeout routes voicing,
      ofConfig .gather config = .gather prompt numDigits timeout routes voicing :=
  ⟨_, _, _, _, _, rfl⟩

namespace Script.Follows

theorem map_blockId (h : script.Follows compiler blocks start path) :
    script.trace.map (·.blockId) = path.map (·.id) := by
  have htrace := h.trace
  clear h
  generalize script.trace = trace at htrace ⊢
  induction htrace with
  | nil => rfl
  | cons hstep _ ih => rw [List.map_cons, List.map_cons, ih, hstep.blockId]

theorem last_of_awaiting (h : script.Follows compiler blocks start path)
    (hstop : script.stop = .awaitingInput id) :
    ∃ b, path.getLast? = some b ∧ b.id = id ∧
      compiler.registry.resolve? b.kindName = some .gather := by
  cases (h.stop _).mp hstop with
  | awaitingInput hlast hkind => exact ⟨_, hlast, rfl, hkind⟩

theorem gather_mem_verbs_iff (h : script.Follows compiler blocks start path)
    (hpath : IsPath compiler.registry blocks start path) (hlast : path.getLast? = some b)
    (g : Gather) : Verb.gather g ∈ script.verbs ↔ Verb.gather g ∈ compiler.fragment b := by
  rw [h.verbs, List.mem_flatMap]
  constructor
  · rintro ⟨c, hc, hmem⟩
    rw [← List.dropLast_append_getLast? b hlast] at hc
    rcases List.mem_append.mp hc with hc | hc
    · exact absurd hmem (Compiler.gather_notMem_fragment (hpath.passing c hc) g)
    · rwa [List.mem_singleton.mp hc] at hmem
  · exact fun hmem => ⟨b, List.mem_of_getLast? hlast, hmem⟩

end Script.Follows

namespace Compiler

theorem resume_continuesAt {action : Action} (hfound : findBlock? blocks id = some b)
    (haction : compiler.registry.action b = .ok action) (digits : String) :
    compiler.ContinuesAt blocks id (successor? action digits b.connections)
      (compiler.resume (.graph blocks) id digits) := by
  simp only [resume, hfound, haction]
  cases successor? action digits b.connections with
  | none => exact .nowhere
  | some target =>
  cases hnext : findBlock? blocks target with
  | none =>
    simp only [hnext]
    exact .missing hnext
  | some next =>
  simp only [hnext]
  obtain ⟨path, hpath, hyields⟩ :=
    compiler.scriptFrom_yields (findBlock?_id_of_findBlock? hnext)
  refine .path hnext hpath hyields fun c hc hunknown hid => ?_
  have hc := hpath.findBlock?_id (findBlock?_id_of_findBlock? hnext) c hc
  rw [hid] at hc
  obtain rfl := Option.some.inj (hfound.symm.trans hc)
  rw [Registry.action_of_none hunknown] at haction
  exact absurd haction (by simp)

theorem ContinuesAt.answers {target : Option String}
    (h : compiler.ContinuesAt blocks id target result) : compiler.Answers blocks result := by
  cases h with
  | nowhere => exact .silent (by simp)
  | missing hmissing => exact .silent (by simp)
  | path hfound hpath hyields _ =>
    exact .path (findBlock?_id_of_findBlock? hfound) hpath hyields

theorem answers_resume {digits : String}
    (h : compiler.resume (.graph blocks) id digits = .ok script) :
    compiler.Answers blocks (.ok script) := by
  cases hfound : findBlock? blocks id with
  | none =>
    simp only [resume, hfound] at h
    cases h
  | some b =>
    cases haction : compiler.registry.action b with
    | error e =>
      simp only [resume, hfound, haction] at h
      cases h
    | ok action =>
      rw [← h]
      exact (resume_continuesAt hfound haction digits).answers

theorem answers_compile (compiler : Compiler) (blocks : List Block) :
    compiler.Answers blocks (compiler.compile (.graph blocks)) := by
  change compiler.Answers blocks (compiler.scriptFrom blocks (entryBlock? blocks))
  cases hentry : entryBlock? blocks with
  | none => exact .silent (by simp)
  | some start =>
    have hstart := findBlock?_entryBlock? hentry
    obtain ⟨path, hpath, hyields⟩ := compiler.scriptFrom_yields hstart
    exact .path hstart hpath hyields

/-- Where a block waits, its id is looked up to the block that the path ended at. -/
theorem Answers.waiting (h : compiler.Answers blocks (.ok script))
    (hstop : script.stop = .awaitingInput id) :
    ∃ start path b, IsMaximalPath compiler.registry blocks start path ∧
      script.Follows compiler blocks start path ∧ path.getLast? = some b ∧
      findBlock? blocks id = some b ∧ compiler.registry.resolve? b.kindName = some .gather := by
  cases h with
  | silent hsilent => exact absurd hstop (hsilent id)
  | @path start path _ hstart hpath hyields =>
    cases hyields with
    | script hfollows =>
      obtain ⟨b, hlast, rfl, hkind⟩ := hfollows.last_of_awaiting hstop
      have hfound := hpath.findBlock?_id hstart b (List.mem_of_getLast? hlast)
      exact ⟨start, path, b, hpath, hfollows, hlast, hfound, hkind⟩

theorem Answers.press (h : compiler.Answers blocks result) (digits : String) :
    compiler.Answers blocks (compiler.press blocks result digits) := by
  cases result with
  | error e => exact h
  | ok script =>
    cases hid : script.awaiting? with
    | none =>
      simp only [Compiler.press, hid]
      exact h
    | some id =>
      simp only [Compiler.press, hid]
      -- The block that waits is of a known kind, so its id does not fail.
      obtain ⟨-, -, b, -, -, -, hfound, hkind⟩ :=
        h.waiting (Script.awaiting?_eq_some_iff.mp hid)
      exact (resume_continuesAt hfound (Registry.action_of_some hkind) digits).answers

theorem Answers.foldl_press (h : compiler.Answers blocks result) (pressed : List String) :
    compiler.Answers blocks (pressed.foldl (compiler.press blocks) result) := by
  induction pressed generalizing result with
  | nil => exact h
  | cons digits pressed ih => exact ih (h.press digits)

theorem answers_converse (compiler : Compiler) (blocks : List Block) (pressed : List String) :
    compiler.Answers blocks (compiler.converse blocks pressed) :=
  (answers_compile compiler blocks).foldl_press pressed

theorem converse_concat {pressed : List String}
    (h : compiler.converse blocks pressed = .ok script)
    (hstop : script.stop = .awaitingInput id) (digits : String) :
    compiler.converse blocks (pressed ++ [digits]) =
      compiler.resume (.graph blocks) id digits := by
  unfold converse at h ⊢
  rw [List.foldl_append, h, List.foldl_cons, List.foldl_nil]
  simp only [press, Script.awaiting?_eq_some_iff.mpr hstop]

theorem Answers.unknownKind_of_error {e : CompileError}
    (h : compiler.Answers blocks (.error e)) :
    ∃ start path b, findBlock? blocks start.id = some start ∧
      IsMaximalPath compiler.registry blocks start path ∧ b ∈ path ∧
      compiler.registry.resolve? b.kindName = none ∧ e = .unknownKind b.id b.kindName := by
  cases h with
  | @path start path _ hstart hpath hyields =>
    cases hyields with
    | @unknownKind b hb hunknown => exact ⟨start, path, b, hstart, hpath, hb, hunknown, rfl⟩

theorem ContinuesAt.ne_of_error {target : Option String} {e : CompileError}
    (h : compiler.ContinuesAt blocks id target (.error e)) :
    ∃ name kindName, e = .unknownKind name kindName ∧ name ≠ id := by
  cases h with
  | path _ _ hyields hother =>
    cases hyields with
    | @unknownKind b hb hunknown => exact ⟨b.id, b.kindName, rfl, hother b hb hunknown⟩

/-- In a call of any length, a script that waits does so at the block that its walk ended at, which
is also the one that its id leads to, and which gathers: it has the prompt and the id of the script's
gather verb, if there is one. So the next digits lead to its route for them or to its own first
connection, and can only fail at another block, whose kind is unknown. -/
theorem converse_waits_at_gather (compiler : Compiler) (blocks : List Block)
    (pressed : List String) :
    (∀ script id, compiler.converse blocks pressed = .ok script →
      script.stop = .awaitingInput id →
      ∃ start path b prompt numDigits timeout routes voicing,
        IsMaximalPath compiler.registry blocks start path ∧
        script.Follows compiler blocks start path ∧ path.getLast? = some b ∧
        script.trace.getLast?.map (·.blockId) = some id ∧ findBlock? blocks id = some b ∧
        compiler.registry.action b = .ok (.gather prompt numDigits timeout routes voicing) ∧
        (∀ g, Verb.gather g ∈ script.verbs ↔ ∃ text, prompt = some text ∧
          g = ⟨numDigits, timeout, .gather id, some (compiler.options.speech text voicing)⟩) ∧
        ∀ digits, compiler.converse blocks (pressed ++ [digits]) =
            compiler.resume (.graph blocks) id digits ∧
          compiler.ContinuesAt blocks id
            ((routes.lookup (Text.trim digits)).or b.connections.head?)
            (compiler.resume (.graph blocks) id digits) ∧
          ∀ e, compiler.resume (.graph blocks) id digits = .error e →
            ∃ name kindName, e = .unknownKind name kindName ∧ name ≠ id) ∧
    (∀ e, compiler.converse blocks pressed = .error e →
      ∃ start path b, findBlock? blocks start.id = some start ∧
        IsMaximalPath compiler.registry blocks start path ∧ b ∈ path ∧
        compiler.registry.resolve? b.kindName = none ∧ e = .unknownKind b.id b.kindName) := by
  have hanswers := answers_converse compiler blocks pressed
  constructor
  · intro script id hscript hstop
    rw [hscript] at hanswers
    obtain ⟨start, path, b, hpath, hfollows, hlast, hfound, hkind⟩ := hanswers.waiting hstop
    obtain ⟨prompt, numDigits, timeout, routes, voicing, hgather⟩ :=
      Action.ofConfig_gather b.config
    have haction := Registry.action_of_some hkind
    rw [hgather] at haction
    refine ⟨start, path, b, prompt, numDigits, timeout, routes, voicing, hpath, hfollows, hlast,
      ?_, hfound, haction, fun g => ?_, fun digits => ?_⟩
    · rw [← List.getLast?_map, hfollows.map_blockId, List.getLast?_map, hlast, Option.map_some,
        id_of_findBlock? hfound]
    · rw [hfollows.gather_mem_verbs_iff hpath.toIsPath hlast, fragment_of_some hkind, hgather,
        id_of_findBlock? hfound, Action.gather_mem_fragment_iff]
      grind
    · have hcontinues := resume_continuesAt hfound haction digits
      exact ⟨converse_concat hscript hstop digits, hcontinues,
        fun e he => (he ▸ hcontinues).ne_of_error⟩
  · intro e he
    rw [he] at hanswers
    exact hanswers.unknownKind_of_error

end Compiler
end CallFlow
