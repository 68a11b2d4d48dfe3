import CallFlow.Proofs.Block.Contribution
import CallFlow.Proofs.Graph.Conversation
import CallFlow.Proofs.Markup.Content
import CallFlow.Proofs.Response.FailSafe

/-!
# What is spoken

A text gets into a script only if there is something to speak in it. That is looked at before the
text is written: characters that no document may hold count as something to speak, and are then
dropped. So an answer that speaks is empty for the ear exactly where a text has nothing else.
-/

namespace CallFlow
set_option autoImplicit false

open Markup (Printable escape)

/-! Settings. -/

theorem Decimal.exists_mem_text (layout : Decimal.Layout) (d : Decimal) :
    '.' ∈ d.text layout ∨ 'e' ∈ d.text layout := by
  have hplain : ∀ (digits : List Char) (exponent : Int), '.' ∈ plainText digits exponent := by
    intro digits exponent
    unfold plainText
    dsimp only
    split
    · simp
    · split <;> simp
  have hscientific : ∀ (digits : List Char) (power : Int), 'e' ∈ scientificText digits power :=
    fun _ _ => List.mem_append_right _ List.mem_cons_self
  unfold text
  extract_lets digits power body
  have hbody : '.' ∈ body ∨ 'e' ∈ body := by
    dsimp only [body]
    split
    · exact .inl (hplain _ _)
    · exact .inr (hscientific _ _)
  split
  · exact hbody.imp (List.mem_cons_of_mem _) (List.mem_cons_of_mem _)
  · exact hbody

theorem Json.Number.printable_text (n : Json.Number) : Printable (String.ofList n.text) := by
  rw [Printable, String.toList_ofList]
  cases n with
  | int i =>
    obtain ⟨c, hc⟩ := List.exists_mem_of_ne_nil (Nat.toDigits 10 i.natAbs) Nat.toDigits_ne_nil
    refine ⟨c, ?_, ?_⟩
    · unfold text
      dsimp only
      split
      · exact List.mem_cons_of_mem _ hc
      · exact hc
    · have hdigit := Nat.isDigit_of_mem_toDigits (by decide) (by decide) hc
      have hletter : c.isAlphanum = true := by
        rw [Char.isAlphanum, hdigit, Bool.or_true]
      exact Url.forall_le_z
        (P := fun c => c.isAlphanum = true → Markup.isAllowed c = true ∧ Text.isBlank c = false)
        (by decide) (Url.toNat_le_of_isAlphanum hletter) hletter
  | real x =>
    rcases x.shortest.exists_mem_text .json with hmem | hmem
    · exact ⟨'.', hmem, by decide⟩
    · exact ⟨'e', hmem, by decide⟩

namespace Config
open Json (Value)

theorem filled_of_usableText? {v : Value} {text : String} (h : usableText? v = some text) :
    Text.Filled text := by
  cases v with
  | string s =>
    rw [usableText?] at h
    split at h
    next => cases h
    next hblank =>
      cases h
      exact Text.blank_eq_false_iff.mp (Bool.eq_false_iff.mpr hblank)
  | number n =>
    cases h
    exact n.printable_text.filled
  | _ => cases h

end Config

/-- The setting that a block speaks, dials, plays or sends. -/
def BlockKind.spoken? : BlockKind → Option String
  | record => some "prompt"
  | kind => kind.required?

namespace Action
open Config

theorem text?_of_mem_fragment {id : String} {options : Options} {kind : BlockKind}
    {config : Json.Fields} {verb : Verb} {text : String}
    (hverb : verb ∈ (ofConfig kind config).fragment id options) (htext : verb.text? = some text) :
    kind = .gather ∧ verb = .say (options.plainSpeech options.noInputMessage) ∨
      ∃ key, kind.spoken? = some key ∧ text? config key = some text := by
  cases kind with
  | say =>
    cases hkey : text? config "text" <;> simp [ofConfig, fragment, hkey] at hverb
    subst hverb
    cases htext
    exact .inr ⟨_, rfl, hkey⟩
  | gather =>
    cases hkey : text? config "prompt" <;> simp [ofConfig, fragment, hkey] at hverb
    rcases hverb with rfl | rfl | rfl
    · cases htext
      exact .inr ⟨_, rfl, hkey⟩
    · exact .inl ⟨rfl, rfl⟩
    · cases htext
  | forward =>
    cases hkey : text? config "number" <;> simp [ofConfig, fragment, hkey] at hverb
    subst hverb
    cases htext
    exact .inr ⟨_, rfl, hkey⟩
  | record =>
    cases hkey : text? config "prompt" <;> simp [ofConfig, fragment, hkey] at hverb
    · subst hverb
      cases htext
    · rcases hverb with rfl | rfl
      · cases htext
        exact .inr ⟨_, rfl, hkey⟩
      · cases htext
  | play =>
    cases hkey : text? config "url" <;> simp [ofConfig, fragment, hkey] at hverb
    subst hverb
    cases htext
    exact .inr ⟨_, rfl, hkey⟩
  | sms =>
    cases hkey : text? config "message" <;> simp [ofConfig, fragment, hkey] at hverb
    subst hverb
    cases htext
    exact .inr ⟨_, rfl, hkey⟩
  | pause =>
    obtain rfl := List.mem_singleton.mp hverb
    cases htext
  | hangup =>
    obtain rfl := List.mem_singleton.mp hverb
    cases htext

end Action

/-! Sections of the older format. -/

namespace LegacyFlow

def spoken (flow : LegacyFlow) : List (Option String) :=
  [flow.greeting, flow.menu.bind (·.prompt), flow.voicemail.bind (·.prompt),
    flow.forward.bind (·.number)]

theorem filled?_eq_some {section? : Option String} {text : String}
    (h : filled? section? = some text) :
    ∃ raw, section? = some raw ∧ text = Text.trim raw ∧ Text.Filled text := by
  obtain ⟨htrim, hkept⟩ := Option.filter_eq_some_iff.mp h
  obtain ⟨raw, hraw, rfl⟩ := Option.map_eq_some_iff.mp htrim
  refine ⟨raw, hraw, rfl, ?_⟩
  rw [Text.isEmpty_trim, Bool.not_eq_true'] at hkept
  exact Text.filled_trim_iff.mpr (Text.blank_eq_false_iff.mp hkept)

theorem text?_of_mem_greetingVerbs {options : Options} {greeting : Option String} {verb : Verb}
    {text : String} (hverb : verb ∈ greetingVerbs options greeting)
    (htext : verb.text? = some text) : filled? greeting = some text := by
  unfold greetingVerbs at hverb
  split at hverb
  next own hown =>
    obtain rfl := List.mem_singleton.mp hverb
    cases htext
    exact hown
  next => cases hverb

theorem text?_of_mem_verbs {options : Options} {flow : LegacyFlow} {verb : Verb} {text : String}
    (hverb : verb ∈ flow.verbs options) (htext : verb.text? = some text) :
    ∃ section? ∈ flow.spoken, filled? section? = some text := by
  unfold verbs at hverb
  rw [List.mem_append, List.mem_append, List.mem_append] at hverb
  rcases hverb with ((hverb | hverb) | hverb) | hverb
  · exact ⟨_, List.mem_cons_self, text?_of_mem_greetingVerbs hverb htext⟩
  · cases hmenu : flow.menu with
    | none =>
      rw [hmenu] at hverb
      cases hverb
    | some menu =>
      have hverb : verb ∈ menuVerbs options menu := by rwa [hmenu] at hverb
      refine ⟨menu.prompt, by simp [spoken, hmenu], ?_⟩
      unfold menuVerbs at hverb
      split at hverb
      next prompt hprompt =>
        obtain rfl := List.mem_singleton.mp hverb
        cases htext
        exact hprompt
      next => cases hverb
  · cases hvoicemail : flow.voicemail with
    | none =>
      rw [hvoicemail] at hverb
      cases hverb
    | some voicemail =>
      have hverb : verb ∈ voicemailVerbs options voicemail := by rwa [hvoicemail] at hverb
      refine ⟨voicemail.prompt, by simp [spoken, hvoicemail], ?_⟩
      rcases List.mem_append.mp hverb with hverb | hverb
      · exact text?_of_mem_greetingVerbs hverb htext
      · obtain rfl := List.mem_singleton.mp hverb
        cases htext
  · cases hforward : flow.forward with
    | none =>
      rw [hforward] at hverb
      cases hverb
    | some forward =>
      have hverb : verb ∈ forwardVerbs forward := by rwa [hforward] at hverb
      refine ⟨forward.number, by simp [spoken, hforward], ?_⟩
      unfold forwardVerbs at hverb
      split at hverb
      next number hnumber =>
        obtain rfl := List.mem_singleton.mp hverb
        cases htext
        exact hnumber
      next => cases hverb

end LegacyFlow

/-! Scripts. -/

namespace Compiler

variable {compiler : Compiler} {blocks : List Block} {script : Script} {verb : Verb}

theorem Answers.exists_block (h : compiler.Answers blocks (.ok script))
    (hverb : verb ∈ script.verbs) :
    ∃ b kind, compiler.registry.resolve? b.kindName = some kind ∧ verb ∈ compiler.fragment b := by
  cases h with
  | silent => cases hverb
  | path hstart hpath hyields =>
    cases hyields with
    | script hfollows =>
      rw [hfollows.verbs] at hverb
      obtain ⟨b, hb, hverb⟩ := List.mem_flatMap.mp hverb
      obtain ⟨kind, hkind⟩ := hfollows.resolve? hb
      exact ⟨b, kind, hkind, hverb⟩

/-- The message for missing input aside, a verb has something to speak in its text. -/
def Fills (compiler : Compiler) (verb : Verb) : Prop :=
  ∀ text, verb.text? = some text →
    verb = .say (compiler.options.plainSpeech compiler.options.noInputMessage) ∨ Text.Filled text

theorem fills_of_mem_fragment {b : Block} {kind : BlockKind}
    (hkind : compiler.registry.resolve? b.kindName = some kind)
    (hverb : verb ∈ compiler.fragment b) : compiler.Fills verb := by
  intro text htext
  rw [fragment_of_some hkind] at hverb
  rcases Action.text?_of_mem_fragment hverb htext with ⟨-, hmessage⟩ | ⟨key, -, hkey⟩
  · exact .inl hmessage
  · obtain ⟨v, -, hv⟩ := Option.bind_eq_some_iff.mp hkey
    exact .inr (Config.filled_of_usableText? hv)

theorem fills_of_run {flow : Flow} (h : compiler.compile flow = .ok script ∨
      ∃ id digits, compiler.resume flow id digits = .ok script)
    (hverb : verb ∈ script.verbs) : compiler.Fills verb := by
  cases flow with
  | graph blocks =>
    have hanswers : compiler.Answers blocks (.ok script) := by
      rcases h with h | ⟨id, digits, h⟩
      · rw [← h]
        exact answers_compile compiler blocks
      · exact answers_resume h
    obtain ⟨b, kind, hkind, hverb⟩ := hanswers.exists_block hverb
    exact fills_of_mem_fragment hkind hverb
  | legacy flow =>
    rcases h with h | ⟨id, digits, h⟩
    · cases h
      intro text htext
      obtain ⟨section?, -, hsection⟩ := LegacyFlow.text?_of_mem_verbs hverb htext
      obtain ⟨raw, -, -, hfilled⟩ := LegacyFlow.filled?_eq_some hsection
      exact .inr hfilled
    · cases h

/-! Answers. -/

variable {context : CallContext} {response : Response}

inductive Gives (compiler : Compiler) (context : CallContext) : Response → Prop
  | call (source : Option FlowSource) : Gives compiler context (compiler.respond source context)
  | digits (source : FlowSource) (blockId digits : String) :
    Gives compiler context (compiler.respondToInput source blockId digits context)

theorem Gives.exists_script (h : compiler.Gives context response)
    (hcompiled : response.outcome = .compiled) :
    ∃ script, response.script = some script ∧ script.verbs ≠ [] ∧
      response.body = compiler.render script context ∧
      ∀ verb ∈ script.verbs, compiler.Fills verb := by
  obtain ⟨hcall, hdigits, -⟩ := respond_failSafe compiler context
  cases h with
  | call source =>
    obtain ⟨script, hattempt, hverbs⟩ := (hcall source).compiled_iff.mp hcompiled
    have hscript := ((hcall source).script_iff script).mpr ⟨hcompiled, hattempt⟩
    obtain ⟨source, rfl, hresult⟩ := Option.map_eq_some_iff.mp hattempt
    obtain ⟨flow, -, hrun⟩ := ((compiler.attempt_compileSource source).ok_iff script).mp hresult
    refine ⟨script, hscript, hverbs, ((hcall _).rendered script hscript).1, ?_⟩
    exact fun verb hverb => fills_of_run (.inl hrun) hverb
  | digits source blockId digits =>
    obtain ⟨script, hattempt, hverbs⟩ :=
      (hdigits source blockId digits).compiled_iff.mp hcompiled
    have hscript := ((hdigits source blockId digits).script_iff script).mpr ⟨hcompiled, hattempt⟩
    have hresult := Option.some.inj hattempt
    obtain ⟨flow, -, hrun⟩ :=
      ((compiler.attempt_resumeSource source blockId digits).ok_iff script).mp hresult
    refine ⟨script, hscript, hverbs, ((hdigits _ _ _).rendered script hscript).1, ?_⟩
    exact fun verb hverb => fills_of_run (.inr ⟨blockId, digits, hrun⟩) hverb

/-- The text of a verb is the setting that its block speaks, dials, plays or sends, or a section
without its blank ends, and there is something to speak in it; only the message for missing input is
as the options have it. An answer that was compiled holds each text, escaped, between two tags. What
is written has something to speak in it exactly if some of it in the text may stand in a document,
as in every number. -/
theorem spoken_texts_filled (compiler : Compiler) (context : CallContext) :
    (∀ (b : Block) (kind : BlockKind) (action : Action),
      compiler.registry.resolve? b.kindName = some kind → compiler.registry.action b = .ok action →
      ∀ verb ∈ (action.step b.id compiler.options).fragment, ∀ text, verb.text? = some text →
        kind = .gather ∧
          verb = .say (compiler.options.plainSpeech compiler.options.noInputMessage) ∨
        ∃ key v, kind.spoken? = some key ∧ b.config.get? key = some v ∧
          Config.usableText? v = some text ∧ Text.Filled text ∧
          (Text.Filled (escape text) ↔ Printable text) ∧
          ∀ n, v = .number n → Text.Filled (escape text)) ∧
    (∀ (flow : LegacyFlow), ∀ verb ∈ flow.verbs compiler.options, ∀ text,
      verb.text? = some text →
        ∃ raw, some raw ∈ flow.spoken ∧ text = Text.trim raw ∧ Text.Filled text ∧
          (Text.Filled (escape text) ↔ Printable raw)) ∧
    ∀ response, compiler.Gives context response → response.outcome = .compiled →
      ∃ script, response.script = some script ∧ script.verbs ≠ [] ∧
        ∀ verb ∈ script.verbs, ∀ text, verb.text? = some text →
          (∃ tag : Markup.Tag, tag.openText ++ (escape text).toList ++ tag.closeText <:+:
            response.body.toList) ∧
          (verb = .say (compiler.options.plainSpeech compiler.options.noInputMessage) ∨
            Text.Filled text ∧ (Text.Filled (escape text) ↔ Printable text)) := by
  refine ⟨?_, ?_, ?_⟩
  · intro b kind action hkind haction verb hverb text htext
    rw [Registry.action_of_some hkind] at haction
    cases haction
    rcases Action.text?_of_mem_fragment hverb htext with hmessage | ⟨key, hspoken, hkey⟩
    · exact .inl hmessage
    · obtain ⟨v, hv, husable⟩ := Option.bind_eq_some_iff.mp hkey
      refine .inr ⟨key, v, hspoken, hv, husable, Config.filled_of_usableText? husable,
        Markup.filled_escape_iff text, ?_⟩
      rintro n rfl
      cases husable
      exact (Markup.filled_escape_iff _).mpr n.printable_text
  · intro flow verb hverb text htext
    obtain ⟨section?, hmem, hsection⟩ := LegacyFlow.text?_of_mem_verbs hverb htext
    obtain ⟨raw, rfl, rfl, hfilled⟩ := LegacyFlow.filled?_eq_some hsection
    refine ⟨raw, hmem, rfl, hfilled, (Markup.filled_escape_iff _).trans ?_⟩
    -- blanks at the ends are no part of what is to be spoken
    apply exists_congr
    intro c
    constructor
    · rintro ⟨hc, hkept⟩
      exact ⟨(Text.mem_trim_iff hkept.2).mp hc, hkept⟩
    · rintro ⟨hc, hkept⟩
      exact ⟨(Text.mem_trim_iff hkept.2).mpr hc, hkept⟩
  · intro response hgives hcompiled
    obtain ⟨script, hscript, hverbs, hbody, hfills⟩ := hgives.exists_script hcompiled
    refine ⟨script, hscript, hverbs, ?_⟩
    intro verb hverb text htext
    constructor
    · rw [hbody]
      exact infix_renderDocument hverb htext context compiler.options
    · rcases hfills verb hverb text htext with hmessage | hfilled
      · exact .inl hmessage
      · exact .inr ⟨hfilled, Markup.filled_escape_iff text⟩

def sayingFlow (text : String) : Flow :=
  .graph [⟨"a", "say", [("text", .string text)], [], none⟩]

def anyCall : CallContext where
  caller := "+15550001111"
  called := "+15552223333"
  callSid := "CA42"
  base := ⟨"https".toList, some ⟨[], [], .name "hooks.example.com".toList, none⟩, false,
    ["api".toList, "voice".toList], ⟨none, none⟩⟩

/-- A control in front of a word is dropped, and the word is spoken. -/
theorem spoken_texts_filled_word :
    ((ofOptions {}).respond (some (.ready (sayingFlow "\x01Hi"))) anyCall).outcome = .compiled ∧
    Markup.Printable "\x01Hi" ∧ Text.Filled (Markup.escape "\x01Hi") ∧
    ∃ tag : Markup.Tag, tag.openText ++ "Hi".toList ++ tag.closeText <:+:
      ((ofOptions {}).respond (some (.ready (sayingFlow "\x01Hi"))) anyCall).body.toList := by
  have hcompiled : ((ofOptions {}).respond (some (.ready (sayingFlow "\x01Hi"))) anyCall).outcome =
      .compiled := by
    decide +kernel
  have hprintable : Markup.Printable "\x01Hi" := ⟨'H', by decide, by decide⟩
  have hescape : Markup.escape "\x01Hi" = "Hi" := by decide +kernel
  obtain ⟨-, -, hanswers⟩ := spoken_texts_filled (ofOptions {}) anyCall
  obtain ⟨script, hscript, -, htexts⟩ :=
    hanswers _ (.call (some (.ready (sayingFlow "\x01Hi")))) hcompiled
  have hverbs : script.verbs = [.say ⟨"\x01Hi", "alice", "en-US", none⟩] := by
    apply Option.some.inj
    rw [← Option.map_some, ← hscript]
    decide +kernel
  have hverb : Verb.say ⟨"\x01Hi", "alice", "en-US", none⟩ ∈ script.verbs :=
    hverbs ▸ List.mem_cons_self
  obtain ⟨⟨tag, htag⟩, hmessage | ⟨-, hwritten⟩⟩ := htexts _ hverb _ rfl
  · exact absurd hmessage (by decide)
  · rw [hescape] at htag
    exact ⟨hcompiled, hprintable, hwritten.mpr hprintable, tag, htag⟩

/-- A control alone counts as something to speak, and the answer says nothing. -/
theorem respond_says_nothing :
    ((ofOptions {}).respond (some (.ready (sayingFlow "\x01"))) anyCall).outcome = .compiled ∧
    ((ofOptions {}).respond (some (.ready (sayingFlow "\x01"))) anyCall).body =
      "<?xml version=\"1.0\" encoding=\"UTF-8\"?><Response>" ++
        "<Say voice=\"alice\" language=\"en-US\"></Say></Response>" ∧
    Text.Filled "\x01" ∧ ¬ Text.Filled (Markup.escape "\x01") := by
  refine ⟨by decide +kernel, by decide +kernel, ⟨'\x01', by decide, by decide⟩, ?_⟩
  rw [Markup.filled_escape_iff]
  rintro ⟨c, hc, hallowed, -⟩
  obtain rfl : c = '\x01' := List.mem_singleton.mp hc
  exact absurd hallowed (by decide)

end Compiler
end CallFlow
