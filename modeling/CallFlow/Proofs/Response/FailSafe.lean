import CallFlow.Proofs.Graph.Attempt
import CallFlow.Proofs.Markup.VerbTree
import CallFlow.Response

/-!
# Answers whatever happens

Every call and every choice of digits is answered with a document that has something to do, and the
answer says how it came about. `FailSafe` ties the answer to what came of compiling or resuming: a
script with verbs is rendered, and in any other case a fixed document ends the call.
-/

namespace CallFlow
set_option autoImplicit false

open Markup

def Options.message? (options : Options) : Outcome → Option String
  | .defaultGreeting => some options.defaultGreeting
  | .configurationError => some options.configurationErrorMessage
  | .internalFailure => some options.apologyMessage
  | .compiled => none
  | .ended => none

def Options.fallback (options : Options) (outcome : Outcome) : List Verb :=
  match options.message? outcome with
  | some message => [.say ⟨message, options.voice, options.language, none⟩, .hangup]
  | none => [.hangup]

/-- The body of an answer is the document of some verbs, at least one, and is read as such. -/
def Response.Documents (r : Response) (context : CallContext) (options : Options)
    (verbs : List Verb) : Prop :=
  verbs ≠ [] ∧ r.body = renderDocument context options verbs ∧
    ∃ document, readDocument r.body.toList = some document ∧
      document.root.name? = some "Response" ∧ document.root.childNames = verbs.map Verb.tag

/-- An answer to what came of a flow, where there is one. -/
structure Compiler.FailSafe (compiler : Compiler) (context : CallContext) (phase : Phase)
    (attempt : Option (Except (Failure CompileError) Script)) (r : Response) : Prop where
  status : r.status = 200
  compiled_iff : r.outcome = .compiled ↔
    ∃ script, attempt = some (.ok script) ∧ script.verbs ≠ []
  greeting_iff : r.outcome = .defaultGreeting ↔
    attempt = none ∨ phase = .inbound ∧ ∃ script, attempt = some (.ok script) ∧ script.verbs = []
  ended_iff : r.outcome = .ended ↔
    phase = .input ∧ ∃ script, attempt = some (.ok script) ∧ script.verbs = []
  refused_iff : r.outcome = .configurationError ↔ ∃ e, attempt = some (.error (.refused e))
  crashed_iff : r.outcome = .internalFailure ↔ attempt = some (.error .crashed)
  script_iff : ∀ script, r.script = some script ↔
    r.outcome = .compiled ∧ attempt = some (.ok script)
  rendered : ∀ script, r.script = some script →
    r.body = compiler.render script context ∧
      r.Documents context compiler.options script.verbs
  fallback : r.outcome ≠ .compiled →
    r.script = none ∧ r.Documents context compiler.options (compiler.options.fallback r.outcome) ∧
      (compiler.options.fallback r.outcome).getLast? = some .hangup

namespace Compiler

variable {compiler : Compiler} {context : CallContext}

theorem documents_of_body {r : Response} {options : Options} {verbs : List Verb}
    (hverbs : verbs ≠ []) (hbody : r.body = renderDocument context options verbs) :
    r.Documents context options verbs := by
  refine ⟨hverbs, hbody, ?_⟩
  rw [hbody]
  exact ⟨_, readDocument_response context options verbs,
    name?_responseElement options.pretty verbs, childNames_responseElement options.pretty verbs⟩

theorem fallback_ne_nil (options : Options) (outcome : Outcome) :
    options.fallback outcome ≠ [] := by
  unfold Options.fallback
  split <;> simp

theorem getLast?_fallback (options : Options) (outcome : Outcome) :
    (options.fallback outcome).getLast? = some .hangup := by
  unfold Options.fallback
  split <;> rfl

theorem announce_eq_fixed {outcome : Outcome} {message : String}
    (h : compiler.options.message? outcome = some message) :
    compiler.announce context message outcome =
      compiler.fixed context (compiler.options.fallback outcome) outcome := by
  rw [Options.fallback, h]
  rfl

theorem failSafe_fixed (outcome : Outcome) {phase : Phase}
    {attempt : Option (Except (Failure CompileError) Script)} (hcompiled : outcome ≠ .compiled)
    (hnone : ¬ ∃ script, attempt = some (.ok script) ∧ script.verbs ≠ [])
    (hgreeting : outcome = .defaultGreeting ↔ attempt = none ∨
      phase = .inbound ∧ ∃ script, attempt = some (.ok script) ∧ script.verbs = [])
    (hended : outcome = .ended ↔
      phase = .input ∧ ∃ script, attempt = some (.ok script) ∧ script.verbs = [])
    (hrefused : outcome = .configurationError ↔ ∃ e, attempt = some (.error (.refused e)))
    (hcrashed : outcome = .internalFailure ↔ attempt = some (.error .crashed)) :
    compiler.FailSafe context phase attempt
      (compiler.fixed context (compiler.options.fallback outcome) outcome) where
  status := rfl
  compiled_iff := iff_of_false hcompiled hnone
  greeting_iff := hgreeting
  ended_iff := hended
  refused_iff := hrefused
  crashed_iff := hcrashed
  script_iff _ := iff_of_false nofun fun h => hcompiled h.1
  rendered _ h := absurd h nofun
  fallback _ := ⟨rfl, documents_of_body (fallback_ne_nil _ outcome) rfl,
    getLast?_fallback _ outcome⟩

theorem failSafe_script {phase : Phase} {script : Script} (hverbs : script.verbs ≠ []) :
    compiler.FailSafe context phase (some (.ok script))
      (compiler.response context (compiler.render script context) .compiled (some script)) where
  status := rfl
  compiled_iff := iff_of_true rfl ⟨script, rfl, hverbs⟩
  greeting_iff := by simp [response, hverbs]
  ended_iff := by simp [response, hverbs]
  refused_iff := by simp [response]
  crashed_iff := by simp [response]
  script_iff := by simp [response]
  rendered other h := by
    cases h
    exact ⟨rfl, documents_of_body hverbs rfl⟩
  fallback h := absurd rfl h

theorem failSafe_greet (compiler : Compiler) (context : CallContext) :
    compiler.FailSafe context .inbound none (compiler.greet context) := by
  rw [greet, announce_eq_fixed rfl]
  apply failSafe_fixed <;> simp

theorem failSafe_answer (compiler : Compiler) (context : CallContext) (phase : Phase)
    (result : Except (Failure CompileError) Script) :
    compiler.FailSafe context phase (some result) (compiler.answer context phase result) := by
  cases result with
  | error failure =>
    cases failure with
    | refused e =>
      rw [answer, announce_eq_fixed rfl]
      apply failSafe_fixed <;> simp
    | crashed =>
      rw [answer, announce_eq_fixed rfl]
      apply failSafe_fixed <;> simp
  | ok script =>
    simp only [answer]
    split
    next hempty =>
      have hverbs : script.verbs = [] := List.isEmpty_iff.mp hempty
      cases phase with
      | inbound =>
        change compiler.FailSafe context _ _ (compiler.greet context)
        rw [greet, announce_eq_fixed rfl]
        apply failSafe_fixed <;> simp [hverbs]
      | input =>
        change compiler.FailSafe context _ _
          (compiler.fixed context (compiler.options.fallback .ended) .ended)
        apply failSafe_fixed <;> simp [hverbs]
    next hempty =>
      exact failSafe_script fun hverbs => hempty (List.isEmpty_iff.mpr hverbs)

/-- Calls and digits are answered whatever the source, the options and the call are: with the
document of the script, if compiling or resuming makes one with verbs, and otherwise with a fixed
document that ends the call. Compiling and resuming fail, and make nothing, exactly for the reasons
that the flow gives. -/
theorem respond_failSafe (compiler : Compiler) (context : CallContext) :
    (∀ source : Option FlowSource, compiler.FailSafe context .inbound
      (source.map compiler.compileSource) (compiler.respond source context)) ∧
    (∀ source blockId digits, compiler.FailSafe context .input
      (some (compiler.resumeSource source blockId digits))
      (compiler.respondToInput source blockId digits context)) ∧
    ∀ source, Attempt source compiler.compile compiler.CompileFails compiler.CompilesSilently
        (compiler.compileSource source) ∧
      ∀ blockId digits, Attempt source (compiler.resume · blockId digits)
        (compiler.ResumeFails blockId digits) (compiler.ResumesSilently blockId digits)
        (compiler.resumeSource source blockId digits) := by
  refine ⟨fun source => ?_, fun source blockId digits => ?_, fun source => ⟨?_, ?_⟩⟩
  · cases source with
    | none => exact compiler.failSafe_greet context
    | some source => exact compiler.failSafe_answer context .inbound _
  · exact compiler.failSafe_answer context .input _
  · exact compiler.attempt_compileSource source
  · exact compiler.attempt_resumeSource source

end Compiler
end CallFlow
