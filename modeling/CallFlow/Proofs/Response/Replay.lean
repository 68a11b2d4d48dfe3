import CallFlow.Proofs.Graph.Lockstep
import CallFlow.Proofs.Response.FailSafe
import CallFlow.Proofs.Script.Bytes

/-!
# Saved scripts

A script can be made when a flow is stored, and rendered once for each call. That comes to the same as
compiling anew, even with other options: only the voice, the language and what is said without input
get into a script, while addresses, indentation and the messages of the fixed documents are settled for
the call. Two compilers that agree on the former walk a graph in step.
-/

namespace CallFlow
set_option autoImplicit false

structure Options.SpeakAlike (o₁ o₂ : Options) : Prop where
  voice : o₁.voice = o₂.voice
  language : o₁.language = o₂.language
  noInputMessage : o₁.noInputMessage = o₂.noInputMessage

/-- Compilers that know blocks by the same names, and make the same verbs of them. -/
structure Compiler.SpeakAlike (c₁ c₂ : Compiler) : Prop where
  registry : c₁.registry = c₂.registry
  options : c₁.options.SpeakAlike c₂.options

/-- The script as it is read back from its bytes is the one of an answer, and rendering it gives the
answer's body. -/
def Script.Replays (script : Script) (compiler : Compiler) (context : CallContext)
    (answer : Response) : Prop :=
  ∃ saved, ofBytes script.toBytes = .ok saved ∧ answer.script = some saved ∧
    compiler.render saved context = answer.body

variable {o₁ o₂ : Options} {c₁ c₂ : Compiler}

namespace Options.SpeakAlike

theorem speech (h : o₁.SpeakAlike o₂) : o₁.speech = o₂.speech := by
  funext text voicing
  rw [Options.speech, Options.speech, h.voice, h.language]

theorem plainSpeech (h : o₁.SpeakAlike o₂) : o₁.plainSpeech = o₂.plainSpeech := by
  funext text
  rw [Options.plainSpeech, Options.plainSpeech, h.speech]

theorem fragment (h : o₁.SpeakAlike o₂) (id : String) (action : Action) :
    action.fragment id o₁ = action.fragment id o₂ := by
  cases action with
  | say text speed voicing => simp only [Action.fragment, h.speech]
  | gather prompt numDigits timeout routes voicing =>
    simp only [Action.fragment, h.speech, h.plainSpeech, h.noInputMessage]
  | record prompt maxLength finishOnKey voicing => simp only [Action.fragment, h.speech]
  | _ => rfl

theorem step (h : o₁.SpeakAlike o₂) (id : String) (action : Action) :
    action.step id o₁ = action.step id o₂ := by
  rw [Action.step, Action.step, h.fragment]

/-! The older format. -/

theorem greetingVerbs (h : o₁.SpeakAlike o₂) :
    LegacyFlow.greetingVerbs o₁ = LegacyFlow.greetingVerbs o₂ := by
  funext greeting
  rw [LegacyFlow.greetingVerbs, LegacyFlow.greetingVerbs, h.plainSpeech]

theorem menuVerbs (h : o₁.SpeakAlike o₂) :
    LegacyFlow.menuVerbs o₁ = LegacyFlow.menuVerbs o₂ := by
  funext menu
  rw [LegacyFlow.menuVerbs, LegacyFlow.menuVerbs, h.plainSpeech]

theorem voicemailVerbs (h : o₁.SpeakAlike o₂) :
    LegacyFlow.voicemailVerbs o₁ = LegacyFlow.voicemailVerbs o₂ := by
  funext voicemail
  rw [LegacyFlow.voicemailVerbs, LegacyFlow.voicemailVerbs, h.greetingVerbs]

theorem legacyVerbs (h : o₁.SpeakAlike o₂) (flow : LegacyFlow) :
    flow.verbs o₁ = flow.verbs o₂ := by
  rw [LegacyFlow.verbs, LegacyFlow.verbs, h.greetingVerbs, h.menuVerbs, h.voicemailVerbs]

end Options.SpeakAlike

namespace Compiler.SpeakAlike

theorem ofOptions (h : o₁.SpeakAlike o₂) : (ofOptions o₁).SpeakAlike (ofOptions o₂) := ⟨rfl, h⟩

theorem withTypeMapping (h : c₁.SpeakAlike c₂) (name builtinName : String) :
    (c₁.withTypeMapping name builtinName).SpeakAlike (c₂.withTypeMapping name builtinName) := by
  refine ⟨?_, h.options⟩
  rw [Compiler.withTypeMapping, Compiler.withTypeMapping, h.registry]

theorem withTypeMappings (h : c₁.SpeakAlike c₂) (mappings : List (String × String)) :
    (c₁.withTypeMappings mappings).SpeakAlike (c₂.withTypeMappings mappings) := by
  induction mappings generalizing c₁ c₂ with
  | nil => exact h
  | cons mapping mappings ih => exact ih (h.withTypeMapping mapping.1 mapping.2)

/-- Blocks of unknown kinds included, both compilers go the same way with the same verbs. -/
theorem lockstep (h : c₁.SpeakAlike c₂) (blocks : List Block) :
    c₁.Lockstep c₂ blocks blocks (fun b => b) where
  id _ := rfl
  connections _ := rfl
  find _ := by rw [Option.map_id']
  action _ := by rw [h.registry]
  step id action := by rw [h.options.step]

theorem compile (h : c₁.SpeakAlike c₂) : c₁.compile = c₂.compile := by
  funext flow
  cases flow with
  | graph blocks =>
    have hentry : entryBlock? blocks = (entryBlock? blocks).map fun b => b := by rw [Option.map_id']
    exact ((h.lockstep blocks).compileGraph hentry).symm
  | legacy flow =>
    rw [Compiler.compile, Compiler.compile, compileLegacy, compileLegacy, h.options.legacyVerbs]

theorem resume (h : c₁.SpeakAlike c₂) : c₁.resume = c₂.resume := by
  funext flow id digits
  cases flow with
  | legacy flow => rfl
  | graph blocks => exact ((h.lockstep blocks).resume id digits).symm

theorem compileSource (h : c₁.SpeakAlike c₂) (source : FlowSource) :
    c₁.compileSource source = c₂.compileSource source := by
  rw [Compiler.compileSource, Compiler.compileSource, h.compile]

theorem resumeSource (h : c₁.SpeakAlike c₂) (source : FlowSource) (id digits : String) :
    c₁.resumeSource source id digits = c₂.resumeSource source id digits := by
  rw [Compiler.resumeSource, Compiler.resumeSource, h.resume]

end Compiler.SpeakAlike

namespace Compiler

theorem replays_answer (compiler : Compiler) (context : CallContext) (phase : Phase)
    {script : Script} (hverbs : script.verbs ≠ []) (hlength : script.toBytes.length < UInt64.size) :
    script.Replays compiler context (compiler.answer context phase (.ok script)) := by
  have hempty : ¬ script.isEmpty = true := fun h => hverbs (List.isEmpty_iff.mp h)
  simp only [answer, if_neg hempty]
  exact ⟨script, Script.ofBytes_toBytes hlength, rfl, rfl⟩

/-- Whatever names are mapped, a flow is compiled and resumed alike, failures included, under options
that speak alike. So a script with verbs that was saved under the one, and that a machine can hold,
replays as the answer that the other gives to the same call, or to the same digits. -/
theorem savedScript_replays (mappings : List (String × String)) {o₁ o₂ : Options}
    (h : o₁.SpeakAlike o₂) :
    let saving := (ofOptions o₁).withTypeMappings mappings
    let answering := (ofOptions o₂).withTypeMappings mappings
    (∀ flow, saving.compile flow = answering.compile flow ∧
      ∀ id digits, saving.resume flow id digits = answering.resume flow id digits) ∧
    ∀ source, saving.compileSource source = answering.compileSource source ∧
      (∀ id digits, saving.resumeSource source id digits =
        answering.resumeSource source id digits) ∧
      ∀ script context, script.verbs ≠ [] → script.toBytes.length < UInt64.size →
        (saving.compileSource source = .ok script →
          script.Replays answering context (answering.respond (some source) context)) ∧
        ∀ id digits, saving.resumeSource source id digits = .ok script →
          script.Replays answering context
            (answering.respondToInput source id digits context) := by
  intro saving answering
  have halike : saving.SpeakAlike answering := (SpeakAlike.ofOptions h).withTypeMappings mappings
  constructor
  · intro flow
    exact ⟨by rw [halike.compile], fun id digits => by rw [halike.resume]⟩
  intro source
  refine ⟨halike.compileSource source, halike.resumeSource source, ?_⟩
  intro script context hverbs hlength
  constructor
  · intro hscript
    rw [halike.compileSource] at hscript
    rw [respond, hscript]
    exact answering.replays_answer context .inbound hverbs hlength
  · intro id digits hscript
    rw [halike.resumeSource] at hscript
    rw [respondToInput, hscript]
    exact answering.replays_answer context .input hverbs hlength

/-- Options for answering that differ from the preset ones in all that is settled for a call. -/
def customOptions : Options where
  defaultGreeting := "Nobody is here."
  configurationErrorMessage := "Out of order."
  apologyMessage := "Sorry."
  gatherPath := "ivr/input"
  statusPath := "ivr/status"
  recordingPath := "ivr/recording"
  menuPath := "ivr/menu"
  pretty := true

def surveyMappings : List (String × String) := [("talk", "say"), ("ask", "gather")]

def surveyCompiler (options : Options) : Compiler :=
  (ofOptions options).withTypeMappings surveyMappings

def survey : Flow := .graph [
  ⟨"welcome", "talk", [("text", .string "Hello & welcome")], ["question"], none⟩,
  ⟨"question", "ask",
    [("prompt", .string "Satisfied?"), ("routes", .object [("2", .string "complaint")])], [],
    none⟩,
  ⟨"complaint", "record", [("prompt", .string "Tell us why")], [], none⟩]

def surveyScript : Script where
  format := .graph
  entry := some "welcome"
  verbs := [
    .say ⟨"Hello & welcome", "alice", "en-US", none⟩,
    .gather ⟨1, 10, .gather "question", some ⟨"Satisfied?", "alice", "en-US", none⟩⟩,
    .say ⟨"We didn't receive any input. Goodbye!", "alice", "en-US", none⟩,
    .hangup]
  trace := [⟨"welcome", .say, 1⟩, ⟨"question", .gather, 3⟩]
  stop := .awaitingInput "question"

def complaintScript : Script where
  format := .graph
  entry := some "complaint"
  verbs := [
    .say ⟨"Tell us why", "alice", "en-US", none⟩,
    .record ⟨300, "#", true, .recordingStatus⟩]
  trace := [⟨"complaint", .record, 2⟩]
  stop := .endOfFlow "complaint"

theorem savedScript_replays_survey :
    Options.SpeakAlike {} customOptions ∧
    sampleCall.callbackUrl {} .recordingStatus ≠
      sampleCall.callbackUrl customOptions .recordingStatus ∧
    (surveyCompiler {}).compileSource (.ready survey) = .ok surveyScript ∧
    surveyScript.Replays (surveyCompiler customOptions) sampleCall
      ((surveyCompiler customOptions).respond (some (.ready survey)) sampleCall) ∧
    (surveyCompiler {}).resumeSource (.ready survey) "question" "2" = .ok complaintScript ∧
    complaintScript.Replays (surveyCompiler customOptions) sampleCall
      ((surveyCompiler customOptions).respondToInput (.ready survey) "question" "2"
        sampleCall) := by
  have halike : Options.SpeakAlike {} customOptions := ⟨rfl, rfl, rfl⟩
  have haddress : sampleCall.callbackUrl {} .recordingStatus ≠
      sampleCall.callbackUrl customOptions .recordingStatus := by decide +kernel
  have hcompile : (surveyCompiler {}).compileSource (.ready survey) = .ok surveyScript := by
    decide +kernel
  have hresume : (surveyCompiler {}).resumeSource (.ready survey) "question" "2" =
      .ok complaintScript := by decide +kernel
  obtain ⟨-, hsources⟩ := savedScript_replays surveyMappings halike
  obtain ⟨-, -, hscripts⟩ := hsources (.ready survey)
  have hsurvey : surveyScript.toBytes.length < UInt64.size := by decide +kernel
  have hcomplaint : complaintScript.toBytes.length < UInt64.size := by decide +kernel
  exact ⟨halike, haddress,
    hcompile, (hscripts surveyScript sampleCall (by simp [surveyScript]) hsurvey).1 hcompile,
    hresume,
    (hscripts complaintScript sampleCall (by simp [complaintScript]) hcomplaint).2 _ _ hresume⟩

end Compiler
end CallFlow
