import CallFlow.Proofs.Graph.Attempt
import CallFlow.Proofs.Graph.Conversation
import Mathlib.Algebra.Ring.Nat

/-!
# How scripts end

A call is over once it is hung up, and while digits are waited for nobody reads on. So neither verb may
stand in front of others, except that a gather brings along what is said if no digits come. Blocks that
a walk goes on behind have neither verb; the verbs of the last block are those of an `Ending`, which the
reason to stop decides.
-/

namespace CallFlow
set_option autoImplicit false

def Verb.gathers : Verb → Bool
  | .gather _ => true
  | _ => false

def LeavesOpen (verbs : List Verb) : Prop := Verb.hangup ∉ verbs ∧ ∀ g, Verb.gather g ∉ verbs

/-- Reasons to stop that are no end of the call: there is just no block to go on with. -/
def StopReason.leavesOpen : StopReason → Bool
  | .emptyFlow | .endOfFlow _ | .danglingConnection _ _ | .revisited _ _ => true
  | .hangup _ | .awaitingInput _ | .legacySequence => false

def Options.noInput (options : Options) : Speech :=
  ⟨options.noInputMessage, options.voice, options.language, none⟩

/-- The last verbs of a script, by its reason to stop. A gather block without a prompt has none. -/
inductive Ending (options : Options) : StopReason → List Verb → Prop
  | hangup (id : String) : Ending options (.hangup id) [.hangup]
  | gather {id : String} {g : Gather} : g.action = .gather id →
      Ending options (.awaitingInput id) [.gather g, .say options.noInput, .hangup]
  | unprompted (id : String) : Ending options (.awaitingInput id) []
  | open {stop : StopReason} : stop.leavesOpen = true → Ending options stop []

/-- Nothing stands behind a verb that ends the call, and behind one that waits for digits only what is
said without them; which of them there is fits the reason to stop. -/
structure Script.EndsInOrder (script : Script) (options : Options) : Prop where
  hangup_once : script.verbs.count .hangup ≤ 1
  hangup_last : Verb.hangup ∉ script.verbs.dropLast
  gather_once : script.verbs.countP Verb.gathers ≤ 1
  gather_last : ∀ g, Verb.gather g ∈ script.verbs → ∃ id before,
    script.verbs = before ++ [.gather g, .say options.noInput, .hangup] ∧
    script.stop = .awaitingInput id ∧ g.action = .gather id
  of_hangup : ∀ id, script.stop = .hangup id →
    script.verbs.getLast? = some .hangup ∧ ∀ g, Verb.gather g ∉ script.verbs
  of_leavesOpen : script.stop.leavesOpen = true → LeavesOpen script.verbs
  length_verbs : script.verbs.length = (script.trace.map (·.verbsEmitted.toNat)).sum

variable {compiler : Compiler} {blocks path : List Block} {b start : Block} {script : Script}
variable {options : Options} {verbs before ending : List Verb} {stop : StopReason}

/-! Verbs behind which a call goes on. -/

theorem leavesOpen_nil : LeavesOpen [] := ⟨by simp, by simp⟩

theorem leavesOpen_flatMap {α : Type} {f : α → List Verb} {as : List α}
    (h : ∀ a ∈ as, LeavesOpen (f a)) : LeavesOpen (as.flatMap f) := by
  constructor
  · intro hmem
    obtain ⟨a, ha, hmem⟩ := List.mem_flatMap.mp hmem
    exact (h a ha).1 hmem
  · intro g hmem
    obtain ⟨a, ha, hmem⟩ := List.mem_flatMap.mp hmem
    exact (h a ha).2 g hmem

theorem LeavesOpen.count_hangup (h : LeavesOpen verbs) : verbs.count .hangup = 0 :=
  List.count_eq_zero.mpr h.1

theorem LeavesOpen.countP_gathers (h : LeavesOpen verbs) : verbs.countP Verb.gathers = 0 := by
  refine List.countP_eq_zero.mpr fun verb hmem hgathers => ?_
  cases verb with
  | gather g => exact h.2 g hmem
  | _ => cases hgathers

/-! Blocks. -/

theorem Action.hangup_mem_fragment {id : String} {action : Action}
    (h : Verb.hangup ∈ action.fragment id options) :
    action.kind = .hangup ∨ action.kind = .gather := by
  cases action with
  | say text speed voicing => cases text <;> simp [fragment] at h
  | gather prompt numDigits timeout routes voicing => exact .inr rfl
  | forward number timeout url loop => cases number <;> simp [fragment] at h
  | record prompt maxLength finishOnKey voicing => cases prompt <;> simp [fragment] at h
  | pause duration => simp [fragment] at h
  | play url loopCount => cases url <;> simp [fragment] at h
  | sms message recipient => cases message <;> simp [fragment] at h
  | hangup => exact .inl rfl

theorem Compiler.leavesOpen_fragment (hb : compiler.registry.Passes b) :
    LeavesOpen (compiler.fragment b) := by
  refine ⟨?_, gather_notMem_fragment hb⟩
  obtain ⟨kind, hkind, hgather, hhangup⟩ := hb
  rw [fragment_of_some hkind]
  intro hmem
  rcases Action.hangup_mem_fragment hmem with h | h
  · exact hhangup ((Action.kind_ofConfig kind b.config).symm.trans h)
  · exact hgather ((Action.kind_ofConfig kind b.config).symm.trans h)

theorem Compiler.ending_of_hangup (h : compiler.registry.resolve? b.kindName = some .hangup) :
    Ending compiler.options (.hangup b.id) (compiler.fragment b) := by
  rw [fragment_of_some h]
  exact .hangup b.id

theorem Compiler.ending_of_gather (h : compiler.registry.resolve? b.kindName = some .gather) :
    Ending compiler.options (.awaitingInput b.id) (compiler.fragment b) := by
  obtain ⟨prompt, numDigits, timeout, routes, voicing, hgather⟩ := Action.ofConfig_gather b.config
  rw [fragment_of_some h, hgather]
  cases prompt with
  | none => exact .unprompted b.id
  | some text => exact .gather rfl

/-! Paths. -/

/-- All verbs of a path but those of an ending leave the call open. -/
theorem Script.Follows.exists_ending (h : script.Follows compiler blocks start path)
    (hpath : IsPath compiler.registry blocks start path) :
    ∃ before ending, script.verbs = before ++ ending ∧ LeavesOpen before ∧
      Ending compiler.options script.stop ending := by
  obtain ⟨last, hlast⟩ := hpath.exists_getLast?
  have hbefore : LeavesOpen (path.dropLast.flatMap compiler.fragment) :=
    leavesOpen_flatMap fun b hb => Compiler.leavesOpen_fragment (hpath.passing b hb)
  have hverbs : script.verbs =
      path.dropLast.flatMap compiler.fragment ++ compiler.fragment last := by
    rw [h.verbs, ← List.flatMap_singleton compiler.fragment last, ← List.flatMap_append,
      List.dropLast_append_getLast? last hlast]
  have hopen : compiler.registry.Passes last → LeavesOpen script.verbs := by
    intro hpasses
    rw [h.verbs]
    refine leavesOpen_flatMap fun b hb => Compiler.leavesOpen_fragment ?_
    rw [← List.dropLast_append_getLast? last hlast] at hb
    rcases List.mem_append.mp hb with hb | hb
    · exact hpath.passing b hb
    · rwa [List.mem_singleton.mp hb]
  have hstop := (h.stop _).mp rfl
  generalize script.stop = stop at hstop ⊢
  -- A block that ends the walk itself has the ending; behind any other there is none.
  cases hstop with
  | @hangup b hb hkind =>
    obtain rfl := Option.some.inj (hb.symm.trans hlast)
    exact ⟨_, _, hverbs, hbefore, Compiler.ending_of_hangup hkind⟩
  | @awaitingInput b hb hkind =>
    obtain rfl := Option.some.inj (hb.symm.trans hlast)
    exact ⟨_, _, hverbs, hbefore, Compiler.ending_of_gather hkind⟩
  | @endOfFlow b hb hpasses hnil =>
    obtain rfl := Option.some.inj (hb.symm.trans hlast)
    exact ⟨_, [], (List.append_nil _).symm, hopen hpasses, .open rfl⟩
  | @danglingConnection b target hb hpasses hhead hmissing =>
    obtain rfl := Option.some.inj (hb.symm.trans hlast)
    exact ⟨_, [], (List.append_nil _).symm, hopen hpasses, .open rfl⟩
  | @revisited b target hb hpasses hhead hback =>
    obtain rfl := Option.some.inj (hb.symm.trans hlast)
    exact ⟨_, [], (List.append_nil _).symm, hopen hpasses, .open rfl⟩

theorem Script.Follows.length_verbs (h : script.Follows compiler blocks start path) :
    script.verbs.length = (script.trace.map (·.verbsEmitted.toNat)).sum := by
  rw [h.verbs, h.map_verbsEmitted, List.flatMap_def, List.length_flatten]

/-! Scripts. -/

theorem Script.endsInOrder_of_leavesOpen (h : LeavesOpen script.verbs)
    (hstop : ∀ id, script.stop ≠ .hangup id)
    (hlength : script.verbs.length = (script.trace.map (·.verbsEmitted.toNat)).sum) :
    script.EndsInOrder options where
  hangup_once := by simp [h.count_hangup]
  hangup_last := fun hmem => h.1 (List.dropLast_subset script.verbs hmem)
  gather_once := by simp [h.countP_gathers]
  gather_last g hmem := absurd hmem (h.2 g)
  of_hangup id hid := absurd hid (hstop id)
  of_leavesOpen _ := h
  length_verbs := hlength

theorem Script.endsInOrder_of_ending (hverbs : script.verbs = before ++ ending)
    (hbefore : LeavesOpen before) (hending : Ending options script.stop ending)
    (hlength : script.verbs.length = (script.trace.map (·.verbsEmitted.toNat)).sum) :
    script.EndsInOrder options := by
  obtain ⟨format, entry, verbs, trace, stop⟩ := script
  simp only at hverbs hending
  subst hverbs
  have hhangup := hbefore.count_hangup
  have hgather := hbefore.countP_gathers
  cases hending with
  | hangup id =>
    exact {
      hangup_once := by simp [hhangup]
      hangup_last := by simpa using hbefore.1
      gather_once := by simp [hgather, Verb.gathers]
      gather_last := by simp [hbefore.2]
      of_hangup := by simp [hbefore.2]
      of_leavesOpen := nofun
      length_verbs := hlength }
  | @gather id g haction =>
    exact {
      hangup_once := by simp [hhangup]
      hangup_last := by simpa [List.dropLast_append_of_ne_nil] using hbefore.1
      gather_once := by simp [hgather, List.countP_cons, Verb.gathers]
      gather_last := by
        intro other hmem
        have hother : other = g := by simpa [hbefore.2] using hmem
        subst hother
        exact ⟨id, before, rfl, rfl, haction⟩
      of_hangup := nofun
      of_leavesOpen := nofun
      length_verbs := hlength }
  | unprompted id =>
    rw [List.append_nil] at hlength ⊢
    exact endsInOrder_of_leavesOpen hbefore nofun hlength
  | «open» hopen =>
    rw [List.append_nil] at hlength ⊢
    refine endsInOrder_of_leavesOpen hbefore ?_ hlength
    rintro id rfl
    cases hopen

theorem Script.endsInOrder_of_silent (format : FlowFormat) (entry : Option String)
    (h : stop.leavesOpen = true) : Script.EndsInOrder ⟨format, entry, [], [], stop⟩ options :=
  endsInOrder_of_ending rfl leavesOpen_nil (.open h) rfl

namespace Compiler

theorem endsInOrder_of_follows (hpath : IsMaximalPath compiler.registry blocks start path)
    (hfollows : script.Follows compiler blocks start path) :
    script.EndsInOrder compiler.options := by
  obtain ⟨before, ending, hverbs, hbefore, hending⟩ := hfollows.exists_ending hpath.toIsPath
  exact Script.endsInOrder_of_ending hverbs hbefore hending hfollows.length_verbs

theorem endsInOrder_compileGraph (h : compiler.compileGraph blocks = .ok script) :
    script.EndsInOrder compiler.options := by
  rcases eq_empty_or_exists_path h with rfl | ⟨start, path, -, -, hpath, hfollows⟩
  · exact Script.endsInOrder_of_silent _ _ rfl
  · exact endsInOrder_of_follows hpath hfollows

theorem endsInOrder_resume {id digits : String}
    (h : compiler.resume (.graph blocks) id digits = .ok script) :
    script.EndsInOrder compiler.options := by
  rcases compiler.missing_or_unknownKind_or_leadsTo blocks id digits with
    hmissing | ⟨b, hfound, hunknown⟩ | ⟨target, hleads⟩
  · rw [resume_of_missing hmissing] at h
    cases h
  · rw [resume_of_unknownKind hfound hunknown] at h
    cases h
  cases target with
  | none =>
    rw [resume_of_leadsTo_nowhere hleads] at h
    cases h
    exact Script.endsInOrder_of_silent _ _ rfl
  | some target =>
  cases hnext : findBlock? blocks target with
  | none =>
    rw [resume_of_leadsTo_missing hleads hnext] at h
    cases h
    exact Script.endsInOrder_of_silent _ _ rfl
  | some next =>
    rw [resume_of_leadsTo hleads hnext] at h
    obtain ⟨path, hpath, hfollows⟩ :=
      exists_path_of_scriptFrom (findBlock?_id_of_findBlock? hnext) h
    exact endsInOrder_of_follows hpath hfollows

/-- Every script of a graph ends in order, whether the graph is compiled or resumed at any block with
any digits. -/
theorem nothing_follows_hangup_or_gather (compiler : Compiler) (blocks : List Block)
    (script : Script) :
    (compiler.compileGraph blocks = .ok script → script.EndsInOrder compiler.options) ∧
    ∀ id digits, compiler.resume (.graph blocks) id digits = .ok script →
      script.EndsInOrder compiler.options :=
  ⟨endsInOrder_compileGraph, fun _ _ => endsInOrder_resume⟩

def menuBlocks : List Block := [
  ⟨"greeting", "say", [("text", .string "Hello")], ["menu"], none⟩,
  ⟨"menu", "gather",
    [("prompt", .string "Press one"), ("routes", .object [("1", .string "end")])], [], none⟩,
  ⟨"end", "hangup", [], [], none⟩]

def menuScript : Script where
  format := .graph
  entry := some "greeting"
  verbs := [
    .say ⟨"Hello", "alice", "en-US", none⟩,
    .gather ⟨1, 10, .gather "menu", some ⟨"Press one", "alice", "en-US", none⟩⟩,
    .say ⟨"We didn't receive any input. Goodbye!", "alice", "en-US", none⟩,
    .hangup]
  trace := [⟨"greeting", .say, 1⟩, ⟨"menu", .gather, 3⟩]
  stop := .awaitingInput "menu"

theorem nothing_follows_hangup_or_gather_menu :
    (ofOptions {}).compileGraph menuBlocks = .ok menuScript ∧ menuScript.EndsInOrder {} ∧
    (ofOptions {}).resume (.graph menuBlocks) "menu" "1" =
      .ok ⟨.graph, some "end", [.hangup], [⟨"end", .hangup, 1⟩], .hangup "end"⟩ ∧
    Script.EndsInOrder ⟨.graph, some "end", [.hangup], [⟨"end", .hangup, 1⟩], .hangup "end"⟩ {} := by
  have hcompile : (ofOptions {}).compileGraph menuBlocks = .ok menuScript := by decide +kernel
  have hresume : (ofOptions {}).resume (.graph menuBlocks) "menu" "1" =
      .ok ⟨.graph, some "end", [.hangup], [⟨"end", .hangup, 1⟩], .hangup "end"⟩ := by
    decide +kernel
  exact ⟨hcompile, (nothing_follows_hangup_or_gather _ _ _).1 hcompile, hresume,
    (nothing_follows_hangup_or_gather _ _ _).2 _ _ hresume⟩

end Compiler
end CallFlow
