import CallFlow.Compiler.Walk
import CallFlow.Proofs.Text.Trim

/-!
# What one block contributes

The kind of a block alone says how the flow goes on behind it. Whether there is anything to speak,
dial, play or send depends on the one setting that its kind requires, and which elements there are
on its kind again. Every other setting has a default, which it takes where it is missing or not
usable, whatever the other settings are.
-/

namespace CallFlow
set_option autoImplicit false

namespace Json

inductive Value.HoldsText : Value → Prop
  | number (n : Number) : HoldsText (.number n)
  | string {s : String} : Text.Filled s → HoldsText (.string s)

def Fields.HoldsText (config : Fields) (key : String) : Prop :=
  ∃ v, config.get? key = some v ∧ v.HoldsText

end Json

namespace Config
open Json (Fields Value)

theorem usableText?_eq_none_iff (v : Value) : usableText? v = none ↔ ¬ v.HoldsText := by
  cases v with
  | number n => exact iff_of_false nofun fun h => h (.number n)
  | string s =>
    rw [usableText?]
    split
    next hblank =>
      refine iff_of_true rfl ?_
      intro h
      cases h with
      | string hfilled =>
        rw [Text.blank_eq_false_iff.mpr hfilled] at hblank
        cases hblank
    next hblank =>
      have hfilled := Text.blank_eq_false_iff.mp (Bool.eq_false_iff.mpr hblank)
      exact iff_of_false nofun fun h => h (.string hfilled)
  | _ => exact iff_of_true rfl nofun

theorem text?_eq_none_iff (config : Fields) (key : String) :
    text? config key = none ↔ ¬ config.HoldsText key := by
  rw [text?, Option.bind_eq_none_iff, Fields.HoldsText]
  simp only [usableText?_eq_none_iff, not_exists, not_and]

inductive Reading
  | text
  | number
  | count
  | positiveCount
  | routes
deriving DecidableEq

def Reading.Usable : Reading → Value → Prop
  | text, v => v.HoldsText
  | number, v => ∃ x, usableNumber? v = some x
  | count, v => ∃ n, (usableNumber? v).bind count? = some n
  | positiveCount, v => ∃ n, (usableNumber? v).bind count? = some n ∧ 0 < n
  | routes, v => ∃ fields, v = .object fields

def Reading.Missing (reading : Reading) (config : Fields) (key : String) : Prop :=
  ∀ v, config.get? key = some v → ¬ reading.Usable v

namespace Reading.Missing

variable {config : Fields} {key : String}

theorem text?_eq (h : Missing .text config key) : text? config key = none := by
  rw [text?_eq_none_iff]
  rintro ⟨v, hv, hholds⟩
  exact h v hv hholds

theorem number?_eq (h : Missing .number config key) : number? config key = none := by
  rw [number?, Option.bind_eq_none_iff]
  intro v hv
  apply Option.eq_none_iff_forall_ne_some.mpr
  intro x hx
  exact h v hv ⟨x, hx⟩

theorem whole?_eq (h : Missing .count config key) : whole? config key = none := by
  rw [whole?, number?, Option.bind_assoc, Option.bind_eq_none_iff]
  intro v hv
  apply Option.eq_none_iff_forall_ne_some.mpr
  intro n hn
  exact h v hv ⟨n, hn⟩

theorem filter_whole?_eq (h : Missing .positiveCount config key) :
    (whole? config key).filter (0 < ·) = none := by
  apply Option.filter_eq_none_iff.mpr
  intro n hn hpos
  rw [whole?, number?, Option.bind_assoc] at hn
  obtain ⟨v, hv, hn⟩ := Option.bind_eq_some_iff.mp hn
  exact h v hv ⟨n, hn, of_decide_eq_true hpos⟩

theorem routes_eq (h : Missing .routes config key) : Config.routes config key = [] := by
  rw [Config.routes]
  split
  next fields hfields => exact absurd ⟨fields, rfl⟩ (h _ hfields)
  next => rfl

end Reading.Missing
end Config

namespace BlockKind

/-- The setting without which a block has no verbs. -/
def required? : BlockKind → Option String
  | say => some "text"
  | gather => some "prompt"
  | forward => some "number"
  | play => some "url"
  | sms => some "message"
  | record | pause | hangup => none

/-- The elements of a block that has what it needs. A recording may have speech in front of it. -/
def tags : BlockKind → List String
  | say => ["Say"]
  | gather => ["Gather", "Say", "Hangup"]
  | forward => ["Dial"]
  | record => ["Record"]
  | pause => ["Pause"]
  | play => ["Play"]
  | sms => ["Sms"]
  | hangup => ["Hangup"]

open Config (Reading)

/-- The settings that have defaults, with the way they are read. -/
def optional : BlockKind → List (String × Reading)
  | say => [("speed", .number), ("voice", .text), ("language", .text)]
  | gather => [("numDigits", .positiveCount), ("timeout", .count), ("routes", .routes),
      ("voice", .text), ("language", .text)]
  | forward => [("timeout", .count), ("holdMusicUrl", .text), ("holdMusicLoop", .count)]
  | record => [("prompt", .text), ("maxLength", .count), ("finishOnKey", .text),
      ("voice", .text), ("language", .text)]
  | pause => [("duration", .count)]
  | play => [("loop", .count)]
  | sms => [("to", .text)]
  | hangup => []

theorem reading_unique (kind : BlockKind) :
    ∀ p ∈ kind.optional, ∀ q ∈ kind.optional, p.1 = q.1 → p.2 = q.2 := by
  cases kind <;> decide

theorem required_not_optional (kind : BlockKind) :
    ∀ p ∈ kind.optional, kind.required? ≠ some p.1 := by
  cases kind <;> decide

end BlockKind

/-! Defaults. -/

def Voicing.spelledOut (options : Options) (v : Voicing) : Voicing :=
  ⟨some (v.voice.getD options.voice), some (v.language.getD options.language)⟩

def Voicing.withDefault (options : Options) (key : String) (v : Voicing) : Voicing :=
  ⟨if key = "voice" then some options.voice else v.voice,
    if key = "language" then some options.language else v.language⟩

namespace Action

def spelledOut (options : Options) : Action → Action
  | say text speed voicing => say text speed (voicing.spelledOut options)
  | gather prompt numDigits timeout routes voicing =>
    gather prompt numDigits timeout routes (voicing.spelledOut options)
  | record prompt maxLength finishOnKey voicing =>
    record prompt maxLength finishOnKey (voicing.spelledOut options)
  | forward number timeout holdMusicUrl holdMusicLoop =>
    forward number timeout holdMusicUrl holdMusicLoop
  | pause duration => pause duration
  | play url loopCount => play url loopCount
  | sms message recipient => sms message recipient
  | hangup => hangup

/-- The action with one of its settings as if nothing had been set. -/
def withDefault (options : Options) (key : String) : Action → Action
  | say text speed voicing =>
    say text (if key = "speed" then .one else speed) (voicing.withDefault options key)
  | gather prompt numDigits timeout routes voicing =>
    gather prompt (if key = "numDigits" then defaultGatherDigits else numDigits)
      (if key = "timeout" then defaultGatherTimeout else timeout)
      (if key = "routes" then [] else routes) (voicing.withDefault options key)
  | forward number timeout holdMusicUrl holdMusicLoop =>
    forward number (if key = "timeout" then defaultForwardTimeout else timeout)
      (if key = "holdMusicUrl" then none else holdMusicUrl)
      (if key = "holdMusicLoop" then defaultHoldMusicLoop else holdMusicLoop)
  | record prompt maxLength finishOnKey voicing =>
    record (if key = "prompt" then none else prompt)
      (if key = "maxLength" then defaultRecordMaxLength else maxLength)
      (if key = "finishOnKey" then defaultFinishOnKey else finishOnKey)
      (voicing.withDefault options key)
  | pause duration => pause (if key = "duration" then defaultPauseSeconds else duration)
  | play url loopCount => play url (if key = "loop" then none else loopCount)
  | sms message recipient => sms message (if key = "to" then none else recipient)
  | hangup => hangup

theorem fragment_spelledOut (blockId : String) (options : Options) (action : Action) :
    (action.spelledOut options).fragment blockId options = action.fragment blockId options := by
  have hspeech : ∀ (text : String) (voicing : Voicing),
      options.speech text (voicing.spelledOut options) = options.speech text voicing :=
    fun _ _ => rfl
  cases action with
  | say text speed voicing => simp only [spelledOut, fragment, hspeech]
  | gather prompt numDigits timeout routes voicing => simp only [spelledOut, fragment, hspeech]
  | record prompt maxLength finishOnKey voicing => simp only [spelledOut, fragment, hspeech]
  | _ => rfl

theorem clampSpeed_one : clampSpeed .one = .one := by decide +kernel

section Missing
open Config
variable {config config' : Json.Fields} {key : String} {kind : BlockKind}

/-- What is read of a config from which one setting is missing, compared to another config that
agrees with it on the others. -/
structure Lacks (kind : BlockKind) (key : String) (config config' : Json.Fields) : Prop where
  required : ∀ k, kind.required? = some k → text? config k = text? config' k
  text : ∀ k, (k, .text) ∈ kind.optional →
    text? config k = if key = k then none else text? config' k
  number : ∀ k, (k, .number) ∈ kind.optional →
    number? config k = if key = k then none else number? config' k
  count : ∀ k, (k, .count) ∈ kind.optional →
    whole? config k = if key = k then none else whole? config' k
  positiveCount : ∀ k, (k, .positiveCount) ∈ kind.optional →
    (whole? config k).filter (0 < ·) =
      if key = k then none else (whole? config' k).filter (0 < ·)
  routes : ∀ k, (k, .routes) ∈ kind.optional →
    routes config k = if key = k then [] else routes config' k

theorem lacks_of_missing {reading : Reading} (hoptional : (key, reading) ∈ kind.optional)
    (hmissing : reading.Missing config key)
    (hothers : ∀ other ≠ key, config.get? other = config'.get? other) :
    Lacks kind key config config' := by
  have hreading : ∀ {k : String} {r : Reading}, (k, r) ∈ kind.optional → key = k →
      r.Missing config k := by
    rintro k r hk rfl
    have hsame : reading = r := kind.reading_unique _ hoptional _ hk rfl
    exact hsame ▸ hmissing
  have hread : ∀ {α : Type} {x x' none : α} {k : String}, (key = k → x = none) →
      (config.get? k = config'.get? k → x = x') → x = if key = k then none else x' := by
    intro α x x' none k hnone hsame
    split
    next hk => exact hnone hk
    next hk => exact hsame (hothers k (Ne.symm hk))
  refine ⟨?_, ?_, ?_, ?_, ?_, ?_⟩
  · intro k hk
    have hne : k ≠ key := by
      rintro rfl
      exact kind.required_not_optional _ hoptional hk
    rw [text?, hothers k hne, text?]
  · intro k hk
    apply hread fun h => (hreading hk h).text?_eq
    intro h
    rw [text?, h, text?]
  · intro k hk
    apply hread fun h => (hreading hk h).number?_eq
    intro h
    rw [number?, h, number?]
  · intro k hk
    apply hread fun h => (hreading hk h).whole?_eq
    intro h
    rw [whole?, number?, h, whole?, number?]
  · intro k hk
    apply hread fun h => (hreading hk h).filter_whole?_eq
    intro h
    rw [whole?, number?, h, whole?, number?]
  · intro k hk
    apply hread fun h => (hreading hk h).routes_eq
    intro h
    rw [routes, h, routes]

theorem getD_ite_none {α : Type} (p : Prop) [Decidable p] (x : Option α) (d : α) :
    (if p then none else x).getD d = if p then d else x.getD d := by
  split <;> rfl

/-- A setting that is missing has its default, and what another config holds for it makes no
difference to the other settings. -/
theorem ofConfig_missing (options : Options) (h : Lacks kind key config config') :
    (ofConfig kind config).spelledOut options =
      ((ofConfig kind config').spelledOut options).withDefault options key := by
  have hvoicing : ("voice", .text) ∈ kind.optional → ("language", .text) ∈ kind.optional →
      Voicing.spelledOut options ⟨text? config "voice", text? config "language"⟩ =
      (Voicing.spelledOut options ⟨text? config' "voice", text? config' "language"⟩).withDefault
        options key := by
    intro hvoice hlanguage
    rw [Voicing.spelledOut, h.text _ hvoice, h.text _ hlanguage, getD_ite_none, getD_ite_none,
      apply_ite some, apply_ite some]
    rfl
  cases kind with
  | say =>
    rw [ofConfig, spelledOut, hvoicing (by decide) (by decide), h.required "text" rfl,
      h.number "speed" (by decide), getD_ite_none, apply_ite clampSpeed, clampSpeed_one]
    rfl
  | gather =>
    rw [ofConfig, spelledOut, hvoicing (by decide) (by decide), h.required "prompt" rfl,
      h.positiveCount "numDigits" (by decide), h.count "timeout" (by decide),
      h.routes "routes" (by decide), getD_ite_none, getD_ite_none]
    rfl
  | forward =>
    rw [ofConfig, spelledOut, h.required "number" rfl, h.count "timeout" (by decide),
      h.text "holdMusicUrl" (by decide), h.count "holdMusicLoop" (by decide), getD_ite_none,
      getD_ite_none]
    rfl
  | record =>
    rw [ofConfig, spelledOut, hvoicing (by decide) (by decide), h.text "prompt" (by decide),
      h.count "maxLength" (by decide), h.text "finishOnKey" (by decide), getD_ite_none,
      getD_ite_none]
    rfl
  | pause =>
    rw [ofConfig, spelledOut, h.count "duration" (by decide), getD_ite_none]
    rfl
  | play =>
    rw [ofConfig, spelledOut, h.required "url" rfl, h.count "loop" (by decide)]
    rfl
  | sms =>
    rw [ofConfig, spelledOut, h.required "message" rfl, h.text "to" (by decide)]
    rfl
  | hangup => rfl

end Missing

/-! Verbs. -/

section Fragment
open Config
variable (blockId : String) (options : Options) (config : Json.Fields)

theorem fragment_eq_nil_iff (kind : BlockKind) :
    (ofConfig kind config).fragment blockId options = [] ↔
      ∃ key, kind.required? = some key ∧ ¬ config.HoldsText key := by
  have hrequired : ∀ {key : String}, kind.required? = some key →
      ((∃ key, kind.required? = some key ∧ ¬ config.HoldsText key) ↔ text? config key = none) := by
    intro key hkey
    rw [text?_eq_none_iff, hkey]
    simp
  have hnever : kind.required? = none →
      ¬ ∃ key, kind.required? = some key ∧ ¬ config.HoldsText key := by
    rintro hnone ⟨key, hkey, -⟩
    rw [hnone] at hkey
    cases hkey
  cases kind with
  | say =>
    rw [hrequired rfl, ofConfig]
    cases text? config "text" <;> simp [fragment]
  | gather =>
    rw [hrequired rfl, ofConfig]
    cases text? config "prompt" <;> simp [fragment]
  | forward =>
    rw [hrequired rfl, ofConfig]
    cases text? config "number" <;> simp [fragment]
  | play =>
    rw [hrequired rfl, ofConfig]
    cases text? config "url" <;> simp [fragment]
  | sms =>
    rw [hrequired rfl, ofConfig]
    cases text? config "message" <;> simp [fragment]
  | record => exact iff_of_false (List.append_ne_nil_of_right_ne_nil _ (by simp)) (hnever rfl)
  | pause => exact iff_of_false (List.cons_ne_nil _ _) (hnever rfl)
  | hangup => exact iff_of_false (List.cons_ne_nil _ _) (hnever rfl)

theorem tags_fragment {kind : BlockKind}
    (hfilled : (ofConfig kind config).fragment blockId options ≠ []) :
    ((ofConfig kind config).fragment blockId options).map Verb.tag =
      (if kind = .record ∧ text? config "prompt" ≠ none then ["Say"] else []) ++ kind.tags := by
  have hsome : ∀ {key : String}, kind.required? = some key →
      ∃ text, text? config key = some text := by
    intro key hkey
    apply Option.ne_none_iff_exists'.mp
    intro hnone
    apply hfilled
    apply (fragment_eq_nil_iff blockId options config kind).mpr
    exact ⟨key, hkey, (text?_eq_none_iff config key).mp hnone⟩
  cases kind with
  | say =>
    obtain ⟨text, htext⟩ := hsome rfl
    rw [ofConfig, htext]
    rfl
  | gather =>
    obtain ⟨prompt, hprompt⟩ := hsome rfl
    rw [ofConfig, hprompt]
    rfl
  | forward =>
    obtain ⟨number, hnumber⟩ := hsome rfl
    rw [ofConfig, hnumber]
    rfl
  | play =>
    obtain ⟨url, hurl⟩ := hsome rfl
    rw [ofConfig, hurl]
    rfl
  | sms =>
    obtain ⟨message, hmessage⟩ := hsome rfl
    rw [ofConfig, hmessage]
    rfl
  | record =>
    rw [ofConfig]
    cases text? config "prompt" <;> rfl
  | pause => rfl
  | hangup => rfl

end Fragment

theorem continuation_eq_terminate_iff (kind : BlockKind) :
    kind.continuation = .terminate ↔ kind = .hangup := by
  cases kind <;> decide

theorem continuation_eq_awaitInput_iff (kind : BlockKind) :
    kind.continuation = .awaitInput ↔ kind = .gather := by
  cases kind <;> decide

end Action

/-- A block whose kind is known always has an action. How the flow goes on depends on the kind alone;
there are verbs unless the kind requires a setting that holds no text; and a setting that is missing
or unusable has its default, with all the others as they would be beside any value for it. -/
theorem Registry.step_of_block {registry : Registry} {block : Block} {kind : BlockKind}
    (hkind : registry.resolve? block.kindName = some kind) (options : Options) :
    ∃ action, registry.action block = .ok action ∧
      ((action.step block.id options).continuation = .terminate ↔ kind = .hangup) ∧
      ((action.step block.id options).continuation = .awaitInput ↔ kind = .gather) ∧
      ((action.step block.id options).fragment = [] ↔
        ∃ key, kind.required? = some key ∧ ¬ block.config.HoldsText key) ∧
      ((action.step block.id options).fragment ≠ [] →
        (kind = .record ∧ block.config.HoldsText "prompt" →
          (action.step block.id options).fragment.map Verb.tag = ["Say", "Record"]) ∧
        (¬ (kind = .record ∧ block.config.HoldsText "prompt") →
          (action.step block.id options).fragment.map Verb.tag = kind.tags)) ∧
      ((action.spelledOut options).step block.id options).fragment =
        (action.step block.id options).fragment ∧
      ∀ key reading, (key, reading) ∈ kind.optional → reading.Missing block.config key →
        ∀ config, (∀ other ≠ key, block.config.get? other = config.get? other) →
          ∃ action', registry.action { block with config } = .ok action' ∧
            action.spelledOut options = (action'.spelledOut options).withDefault options key := by
  have haction : ∀ config, registry.action { block with config } = .ok (.ofConfig kind config) := by
    intro config
    rw [Registry.action, hkind]
  have hcontinuation :
      ((Action.ofConfig kind block.config).step block.id options).continuation =
        kind.continuation := by
    rw [Action.step, Action.kind_ofConfig]
  refine ⟨.ofConfig kind block.config, haction block.config, ?_, ?_, ?_, ?_, ?_, ?_⟩
  · rw [hcontinuation]
    exact Action.continuation_eq_terminate_iff kind
  · rw [hcontinuation]
    exact Action.continuation_eq_awaitInput_iff kind
  · exact Action.fragment_eq_nil_iff block.id options block.config kind
  · intro hfilled
    have htags := Action.tags_fragment block.id options block.config hfilled
    have hprompt := Config.text?_eq_none_iff block.config "prompt"
    constructor
    · rintro ⟨rfl, hholds⟩
      rw [if_pos ⟨rfl, fun hnone => hprompt.mp hnone hholds⟩] at htags
      exact htags
    · intro hplain
      rw [if_neg fun h => hplain ⟨h.1, Classical.not_not.mp (mt hprompt.mpr h.2)⟩] at htags
      exact htags
  · exact Action.fragment_spelledOut block.id options _
  · intro key reading hoptional hmissing config hothers
    refine ⟨_, haction config, ?_⟩
    exact Action.ofConfig_missing options (Action.lacks_of_missing hoptional hmissing hothers)

/-- A count that spells no number beside a prompt that is one. -/
theorem Registry.step_of_block_record :
    ∃ block : Block, Registry.builtin.resolve? block.kindName = some .record ∧
      block.config.HoldsText "prompt" ∧
      ∃ action, Registry.builtin.action block = .ok action ∧
        (action.step block.id {}).continuation = .next ∧
        (action.step block.id {}).fragment.map Verb.tag = ["Say", "Record"] ∧
        ∃ action', Registry.builtin.action { block with config := [("prompt", .number (.int 7))] } =
            .ok action' ∧
          action.spelledOut {} = (action'.spelledOut {}).withDefault {} "maxLength" := by
  let block : Block :=
    ⟨"r", "record", [("maxLength", .string "soon"), ("prompt", .number (.int 7))], [], none⟩
  have hkind : Registry.builtin.resolve? block.kindName = some .record := by decide
  have hprompt : block.config.HoldsText "prompt" := ⟨_, rfl, .number (.int 7)⟩
  have hmissing : Config.Reading.count.Missing block.config "maxLength" := by
    intro v hv
    obtain rfl : Json.Value.string "soon" = v := Option.some.inj hv
    rintro ⟨n, hn⟩
    have hnone : (Config.usableNumber? (.string "soon")).bind Config.count? = none := by
      decide +kernel
    rw [hnone] at hn
    cases hn
  obtain ⟨action, haction, hterminate, hawait, hempty, htags, -, hdefault⟩ :=
    Registry.step_of_block hkind {}
  refine ⟨block, hkind, hprompt, action, haction, ?_, ?_, ?_⟩
  · cases hcontinuation : (action.step block.id {}).continuation with
    | next => rfl
    | terminate => exact absurd (hterminate.mp hcontinuation) (by decide)
    | awaitInput => exact absurd (hawait.mp hcontinuation) (by decide)
  · have hfilled : (action.step block.id {}).fragment ≠ [] := by
      intro hnil
      obtain ⟨key, hkey, -⟩ := hempty.mp hnil
      cases hkey
    exact (htags hfilled).1 ⟨rfl, hprompt⟩
  · apply hdefault "maxLength" .count (by decide) hmissing
    intro other hother
    have hne : (other == "maxLength") = false := beq_false_of_ne hother
    rw [Json.Fields.get?, List.lookup_cons, hne]
    rfl

end CallFlow
