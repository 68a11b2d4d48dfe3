import CallFlow.Proofs.Response.Spoken
import CallFlow.Proofs.Response.Sources

/-!
# Sections of the older format

Each section contributes what it would contribute alone, and blanks at the ends of its texts make no
difference to that. A section whose texts are blank is silent, but for one: voicemail records
whatever it says first, so a flow of blank sections is silent exactly if it has no voicemail.
-/

namespace CallFlow
set_option autoImplicit false

namespace LegacyFlow

variable {options : Options} {flow flow' : LegacyFlow} {text text' : Option String}
  {target : String} {verb : Verb}

/-! Texts of sections. -/

/-- A text with something in it, and what is left of it without its blank ends. -/
def TrimsTo (text : Option String) (target : String) : Prop :=
  ∃ raw, text = some raw ∧ Text.Filled raw ∧ target = Text.trim raw

def Unfilled (text : Option String) : Prop := ∀ raw, text = some raw → Text.blank raw = true

theorem filled?_eq_some_iff : filled? text = some target ↔ TrimsTo text target := by
  constructor
  · intro h
    obtain ⟨raw, hraw, rfl, hfilled⟩ := filled?_eq_some h
    exact ⟨raw, hraw, Text.filled_trim_iff.mp hfilled, rfl⟩
  · rintro ⟨raw, rfl, hfilled, rfl⟩
    have hkept : (Text.trim raw).isEmpty = false := by
      rw [Text.isEmpty_trim, Text.blank_eq_false_iff]
      exact hfilled
    rw [filled?, Option.map_some, Option.filter_some, hkept]
    rfl

theorem filled?_eq_none_iff : filled? text = none ↔ Unfilled text := by
  rw [Option.eq_none_iff_forall_ne_some]
  constructor
  · intro h raw hraw
    by_contra hblank
    exact h (Text.trim raw) (filled?_eq_some_iff.mpr
      ⟨raw, hraw, Text.blank_eq_false_iff.mp (Bool.eq_false_iff.mpr hblank), rfl⟩)
  · intro h target htarget
    obtain ⟨raw, hraw, hfilled, -⟩ := filled?_eq_some_iff.mp htarget
    rw [← Text.blank_eq_false_iff, h raw hraw] at hfilled
    cases hfilled

instance decidableUnfilled : Decidable (Unfilled text) :=
  decidable_of_iff _ filled?_eq_none_iff

theorem TrimsTo.filled (h : TrimsTo text target) : Text.Filled target := by
  obtain ⟨raw, -, hfilled, rfl⟩ := h
  exact Text.filled_trim_iff.mpr hfilled

def callbackOr (usual : Callback) (text : Option String) : Callback :=
  ((filled? text).map .custom).getD usual

theorem callbackOr_eq_custom_iff {usual : Callback} (husual : ∀ target, usual ≠ .custom target) :
    callbackOr usual text = .custom target ↔ TrimsTo text target := by
  rw [callbackOr, ← filled?_eq_some_iff]
  cases filled? text with
  | none => exact iff_of_false (husual target) nofun
  | some s =>
    rw [Option.map_some, Option.getD_some, Callback.custom.injEq, Option.some.injEq]

/-! What each section contributes. -/

theorem mem_greetingVerbs_iff {greeting : Option String} :
    verb ∈ greetingVerbs options greeting ↔
      ∃ s, TrimsTo greeting s ∧ verb = .say (options.plainSpeech s) := by
  simp only [← filled?_eq_some_iff]
  cases h : filled? greeting <;> simp [greetingVerbs, h]

theorem mem_menuVerbs_iff {menu : LegacyMenu} :
    verb ∈ menuVerbs options menu ↔
      ∃ prompt, TrimsTo menu.prompt prompt ∧
        verb = .gather ⟨Action.defaultGatherDigits, Action.defaultGatherTimeout,
          callbackOr .menu menu.action, some (options.plainSpeech prompt)⟩ := by
  simp only [← filled?_eq_some_iff]
  cases h : filled? menu.prompt <;> cases haction : filled? menu.action <;>
    simp [menuVerbs, callbackOr, h, haction]

theorem voicemailVerbs_eq (options : Options) (voicemail : LegacyVoicemail) :
    voicemailVerbs options voicemail = greetingVerbs options voicemail.prompt ++
      [.record ⟨Action.defaultRecordMaxLength, Action.defaultFinishOnKey, true,
        callbackOr .recordingStatus voicemail.callback⟩] := by
  cases h : filled? voicemail.callback <;> simp [voicemailVerbs, callbackOr, h]

theorem mem_forwardVerbs_iff {forward : LegacyForward} :
    verb ∈ forwardVerbs forward ↔
      ∃ number, TrimsTo forward.number number ∧
        verb = .dial ⟨number, Action.defaultForwardTimeout, none, .dialStatus⟩ := by
  simp only [← filled?_eq_some_iff]
  cases h : filled? forward.number <;> simp [forwardVerbs, h]

/-! The sections of a flow. -/

def greetingAlone (flow : LegacyFlow) : LegacyFlow := ⟨flow.greeting, none, none, none⟩

def menuAlone (flow : LegacyFlow) : LegacyFlow := ⟨none, flow.menu, none, none⟩

def voicemailAlone (flow : LegacyFlow) : LegacyFlow := ⟨none, none, flow.voicemail, none⟩

def forwardAlone (flow : LegacyFlow) : LegacyFlow := ⟨none, none, none, flow.forward⟩

theorem verbs_eq_append (options : Options) (flow : LegacyFlow) :
    flow.verbs options = flow.greetingAlone.verbs options ++ flow.menuAlone.verbs options ++
      flow.voicemailAlone.verbs options ++ flow.forwardAlone.verbs options := by
  have hnone : greetingVerbs options none = [] := rfl
  simp [verbs, greetingAlone, menuAlone, voicemailAlone, forwardAlone, hnone]

theorem mem_getD_map_iff {α : Type} {section? : Option α} {emit : α → List Verb} :
    verb ∈ (section?.map emit).getD [] ↔ ∃ s, section? = some s ∧ verb ∈ emit s := by
  cases section? <;> simp

theorem mem_verbs_iff :
    verb ∈ flow.verbs options ↔
      verb ∈ greetingVerbs options flow.greeting ∨
      (∃ menu, flow.menu = some menu ∧ verb ∈ menuVerbs options menu) ∨
      (∃ voicemail, flow.voicemail = some voicemail ∧ verb ∈ voicemailVerbs options voicemail) ∨
      ∃ forward, flow.forward = some forward ∧ verb ∈ forwardVerbs forward := by
  simp only [verbs, List.mem_append, mem_getD_map_iff, or_assoc]

theorem gather_mem_verbs_iff {g : Gather} :
    .gather g ∈ flow.verbs options ↔
      ∃ menu, flow.menu = some menu ∧ .gather g ∈ menuVerbs options menu := by
  simp [mem_verbs_iff, mem_greetingVerbs_iff, voicemailVerbs_eq, mem_forwardVerbs_iff]

theorem record_mem_verbs_iff {r : Recording} :
    .record r ∈ flow.verbs options ↔ ∃ voicemail, flow.voicemail = some voicemail ∧
      r = ⟨Action.defaultRecordMaxLength, Action.defaultFinishOnKey, true,
        callbackOr .recordingStatus voicemail.callback⟩ := by
  simp [mem_verbs_iff, mem_greetingVerbs_iff, mem_menuVerbs_iff, voicemailVerbs_eq,
    mem_forwardVerbs_iff]

/-! Texts that are tidied up. -/

/-- A text may lose its blank ends, and be left out if it has nothing else. -/
inductive Tidies : Option String → Option String → Prop
  | same (text : Option String) : Tidies text text
  | trimmed (s : String) : Tidies (some s) (some (Text.trim s))
  | dropped {s : String} : Text.blank s = true → Tidies (some s) none

theorem Tidies.filled?_eq (h : Tidies text text') : filled? text' = filled? text := by
  cases h with
  | same => rfl
  | trimmed s => rw [filled?, filled?, Option.map_some, Option.map_some, Text.trim_trim]
  | dropped hblank =>
    refine (filled?_eq_none_iff.mpr ?_).symm
    rintro raw hraw
    exact Option.some.inj hraw ▸ hblank

/-- Any texts of a flow may be tidied up. What a menu offers is not looked at. -/
structure Tidied (flow flow' : LegacyFlow) : Prop where
  greeting : Tidies flow.greeting flow'.greeting
  menu : Option.Rel (fun m m' => Tidies m.prompt m'.prompt ∧ Tidies m.action m'.action)
    flow.menu flow'.menu
  voicemail : Option.Rel (fun v v' => Tidies v.prompt v'.prompt ∧ Tidies v.callback v'.callback)
    flow.voicemail flow'.voicemail
  forward : Option.Rel (fun f f' => Tidies f.number f'.number) flow.forward flow'.forward

theorem greetingVerbs_tidied (options : Options) (h : Tidies text text') :
    greetingVerbs options text' = greetingVerbs options text := by
  rw [greetingVerbs, greetingVerbs, h.filled?_eq]

theorem map_eq_of_rel {α β : Type} {R : α → α → Prop} {x y : Option α} {f : α → β}
    (h : Option.Rel R x y) (hf : ∀ {a b}, R a b → f b = f a) : y.map f = x.map f := by
  cases h with
  | none => rfl
  | some hab => rw [Option.map_some, Option.map_some, hf hab]

theorem Tidied.verbs_eq (h : flow.Tidied flow') (options : Options) :
    flow'.verbs options = flow.verbs options := by
  have hmenu : flow'.menu.map (menuVerbs options) = flow.menu.map (menuVerbs options) := by
    refine map_eq_of_rel h.menu ?_
    rintro menu menu' ⟨hprompt, haction⟩
    rw [menuVerbs, menuVerbs, hprompt.filled?_eq, haction.filled?_eq]
  have hvoicemail : flow'.voicemail.map (voicemailVerbs options) =
      flow.voicemail.map (voicemailVerbs options) := by
    refine map_eq_of_rel h.voicemail ?_
    rintro voicemail voicemail' ⟨hprompt, hcallback⟩
    rw [voicemailVerbs, voicemailVerbs, greetingVerbs_tidied options hprompt,
      hcallback.filled?_eq]
  have hforward : flow'.forward.map forwardVerbs = flow.forward.map forwardVerbs := by
    refine map_eq_of_rel h.forward ?_
    intro forward forward' hnumber
    rw [forwardVerbs, forwardVerbs, hnumber.filled?_eq]
  rw [verbs, verbs, greetingVerbs_tidied options h.greeting, hmenu, hvoicemail, hforward]

/-! The order of a flow's verbs. -/

theorem tags_greetingVerbs (options : Options) (greeting : Option String) :
    ((greetingVerbs options greeting).map Verb.tag).Sublist ["Say"] := by
  cases h : filled? greeting <;> simp [greetingVerbs, h, Verb.tag]

theorem tags_menuVerbs (options : Options) (menu : LegacyMenu) :
    ((menuVerbs options menu).map Verb.tag).Sublist ["Gather"] := by
  cases h : filled? menu.prompt <;> simp [menuVerbs, h, Verb.tag]

theorem tags_voicemailVerbs (options : Options) (voicemail : LegacyVoicemail) :
    ((voicemailVerbs options voicemail).map Verb.tag).Sublist ["Say", "Record"] := by
  rw [voicemailVerbs_eq, List.map_append]
  exact (tags_greetingVerbs options voicemail.prompt).append (List.Sublist.refl ["Record"])

theorem tags_forwardVerbs (forward : LegacyForward) :
    ((forwardVerbs forward).map Verb.tag).Sublist ["Dial"] := by
  cases h : filled? forward.number <;> simp [forwardVerbs, h, Verb.tag]

theorem tags_getD_map {α : Type} {section? : Option α} {emit : α → List Verb} {tags : List String}
    (h : ∀ s, ((emit s).map Verb.tag).Sublist tags) :
    (((section?.map emit).getD []).map Verb.tag).Sublist tags := by
  cases section? with
  | none => exact List.nil_sublist tags
  | some s => exact h s

theorem tags_verbs (options : Options) (flow : LegacyFlow) :
    ((flow.verbs options).map Verb.tag).Sublist ["Say", "Gather", "Say", "Record", "Dial"] := by
  rw [verbs, List.map_append, List.map_append, List.map_append]
  exact (((tags_greetingVerbs options flow.greeting).append
    (tags_getD_map (tags_menuVerbs options))).append
    (tags_getD_map (tags_voicemailVerbs options))).append (tags_getD_map tags_forwardVerbs)

theorem hangup_not_mem_verbs (options : Options) (flow : LegacyFlow) :
    .hangup ∉ flow.verbs options := by
  intro h
  have htag := (tags_verbs options flow).subset (List.mem_map_of_mem h)
  exact absurd htag (by decide)

/-! Callbacks of a flow. -/

theorem exists_gather_custom_iff :
    (∃ g, .gather g ∈ flow.verbs options ∧ g.action = .custom target) ↔
      (∃ g, .gather g ∈ flow.menuAlone.verbs options) ∧
        TrimsTo (flow.menu.bind (·.action)) target := by
  simp only [gather_mem_verbs_iff, mem_menuVerbs_iff, menuAlone]
  cases flow.menu with
  | none => simp
  | some menu =>
    have husual : ∀ target, Callback.menu ≠ .custom target := nofun
    simp [callbackOr_eq_custom_iff husual]

theorem exists_record_custom_iff :
    (∃ r, .record r ∈ flow.verbs options ∧ r.callback = .custom target) ↔
      (∃ r, .record r ∈ flow.voicemailAlone.verbs options) ∧
        TrimsTo (flow.voicemail.bind (·.callback)) target := by
  simp only [record_mem_verbs_iff, voicemailAlone]
  cases flow.voicemail with
  | none => simp
  | some voicemail =>
    have husual : ∀ target, Callback.recordingStatus ≠ .custom target := nofun
    simp [callbackOr_eq_custom_iff husual]

/-! Flows with nothing in their texts. -/

def texts (flow : LegacyFlow) : List (Option String) :=
  flow.spoken ++ [flow.menu.bind (·.action), flow.voicemail.bind (·.callback)]

theorem greetingVerbs_eq_nil_iff {greeting : Option String} :
    greetingVerbs options greeting = [] ↔ Unfilled greeting := by
  rw [← filled?_eq_none_iff]
  cases h : filled? greeting <;> simp [greetingVerbs, h]

theorem unfilled_none : Unfilled none := nofun

theorem menu_eq_nil_iff {menu? : Option LegacyMenu} :
    (menu?.map (menuVerbs options)).getD [] = [] ↔ Unfilled (menu?.bind (·.prompt)) := by
  cases menu? with
  | none => exact iff_of_true rfl unfilled_none
  | some menu =>
    rw [Option.bind_some, ← filled?_eq_none_iff]
    cases h : filled? menu.prompt <;> simp [menuVerbs, h]

theorem forward_eq_nil_iff {forward? : Option LegacyForward} :
    (forward?.map forwardVerbs).getD [] = [] ↔ Unfilled (forward?.bind (·.number)) := by
  cases forward? with
  | none => exact iff_of_true rfl unfilled_none
  | some forward =>
    rw [Option.bind_some, ← filled?_eq_none_iff]
    cases h : filled? forward.number <;> simp [forwardVerbs, h]

theorem voicemail_eq_nil_iff {voicemail? : Option LegacyVoicemail} :
    (voicemail?.map (voicemailVerbs options)).getD [] = [] ↔ voicemail? = none := by
  cases voicemail? <;> simp [voicemailVerbs_eq]

theorem verbs_eq_nil_iff :
    flow.verbs options = [] ↔ flow.voicemail = none ∧ ∀ text ∈ flow.spoken, Unfilled text := by
  rw [verbs, List.append_eq_nil_iff, List.append_eq_nil_iff, List.append_eq_nil_iff,
    greetingVerbs_eq_nil_iff, menu_eq_nil_iff, voicemail_eq_nil_iff, forward_eq_nil_iff]
  constructor
  · rintro ⟨⟨⟨hgreeting, hprompt⟩, hnone⟩, hnumber⟩
    simp [spoken, hgreeting, hprompt, hnone, hnumber, unfilled_none]
  · rintro ⟨hnone, hspoken⟩
    simp only [spoken, List.forall_mem_cons] at hspoken
    exact ⟨⟨⟨hspoken.1, hspoken.2.1⟩, hnone⟩, hspoken.2.2.2.1⟩

def plainRecording : Verb :=
  .record ⟨Action.defaultRecordMaxLength, Action.defaultFinishOnKey, true, .recordingStatus⟩

theorem voicemail_of_unfilled {voicemail? : Option LegacyVoicemail}
    (hprompt : Unfilled (voicemail?.bind (·.prompt)))
    (hcallback : Unfilled (voicemail?.bind (·.callback))) :
    (voicemail?.map (voicemailVerbs options)).getD [] =
      voicemail?.toList.map fun _ => plainRecording := by
  cases voicemail? with
  | none => rfl
  | some voicemail =>
    rw [Option.bind_some] at hprompt hcallback
    rw [Option.map_some, Option.getD_some, voicemailVerbs_eq, greetingVerbs_eq_nil_iff.mpr hprompt,
      callbackOr, filled?_eq_none_iff.mpr hcallback]
    rfl

theorem verbs_of_unfilled (h : ∀ text ∈ flow.texts, Unfilled text) :
    flow.verbs options = flow.voicemail.toList.map fun _ => plainRecording := by
  simp only [texts, spoken, List.forall_mem_append, List.forall_mem_cons] at h
  obtain ⟨⟨hgreeting, hmenu, hprompt, hnumber, -⟩, -, hcallback, -⟩ := h
  rw [verbs, greetingVerbs_eq_nil_iff.mpr hgreeting, menu_eq_nil_iff.mpr hmenu,
    forward_eq_nil_iff.mpr hnumber, voicemail_of_unfilled hprompt hcallback, List.append_nil]
  rfl

end LegacyFlow

namespace Compiler

open LegacyFlow (TrimsTo Unfilled)

variable {compiler : Compiler} {context : CallContext} {source : FlowSource} {flow : LegacyFlow}

/-- A flow's verbs are those of its sections, greeting before menu before voicemail before forward.
Tidying its texts up and offering something else in its menu leaves the script as it is. At most the
greeting, the menu, what voicemail says, its recording and the forwarding are there, in this order
and with something in their texts. The action of a menu and the callback of voicemail, without blank
ends, are those of the verbs exactly if the section has that verb and there is something in the
text. -/
theorem compileLegacy_by_section (compiler : Compiler) (flow : LegacyFlow) :
    (compiler.compileLegacy flow).verbs =
      (compiler.compileLegacy flow.greetingAlone).verbs ++
        (compiler.compileLegacy flow.menuAlone).verbs ++
        (compiler.compileLegacy flow.voicemailAlone).verbs ++
        (compiler.compileLegacy flow.forwardAlone).verbs ∧
    (∀ flow', flow.Tidied flow' → compiler.compileLegacy flow' = compiler.compileLegacy flow) ∧
    ((compiler.compileLegacy flow).verbs.map Verb.tag).Sublist
      ["Say", "Gather", "Say", "Record", "Dial"] ∧
    .hangup ∉ (compiler.compileLegacy flow).verbs ∧
    (∀ verb ∈ (compiler.compileLegacy flow).verbs, ∀ text, verb.text? = some text →
      Text.Filled text) ∧
    (∀ target,
      (∃ g, .gather g ∈ (compiler.compileLegacy flow).verbs ∧ g.action = .custom target) ↔
        (∃ g, .gather g ∈ (compiler.compileLegacy flow.menuAlone).verbs) ∧
          TrimsTo (flow.menu.bind (·.action)) target) ∧
    (∀ target,
      (∃ r, .record r ∈ (compiler.compileLegacy flow).verbs ∧ r.callback = .custom target) ↔
        (∃ r, .record r ∈ (compiler.compileLegacy flow.voicemailAlone).verbs) ∧
          TrimsTo (flow.voicemail.bind (·.callback)) target) := by
  refine ⟨LegacyFlow.verbs_eq_append compiler.options flow, ?_,
    LegacyFlow.tags_verbs compiler.options flow,
    LegacyFlow.hangup_not_mem_verbs compiler.options flow, ?_, ?_, ?_⟩
  · intro flow' htidied
    rw [compileLegacy, compileLegacy, htidied.verbs_eq]
  · intro verb hverb text htext
    obtain ⟨section?, -, hsection⟩ := LegacyFlow.text?_of_mem_verbs hverb htext
    exact (LegacyFlow.filled?_eq_some_iff.mp hsection).filled
  · exact fun target => LegacyFlow.exists_gather_custom_iff
  · exact fun target => LegacyFlow.exists_record_custom_iff

def paddedFlow : LegacyFlow where
  greeting := some "  "
  menu := some ⟨some " Press 1. ", .null, some "/menu\n"⟩
  voicemail := some ⟨some "\t", some " "⟩
  forward := some ⟨some "+15550001111 "⟩

def tidyFlow : LegacyFlow where
  greeting := none
  menu := some ⟨some "Press 1.", .array [.string "1"], some "/menu"⟩
  voicemail := some ⟨none, some " "⟩
  forward := some ⟨some "+15550001111"⟩

theorem tidied_paddedFlow : paddedFlow.Tidied tidyFlow where
  greeting := .dropped (by decide)
  menu := .some ⟨.trimmed " Press 1. ", .trimmed "/menu\n"⟩
  voicemail := .some ⟨.dropped (by decide), .same _⟩
  forward := .some (.trimmed "+15550001111 ")

/-- The padded flow offers its menu, records and dials, as the tidy one does. -/
theorem compileLegacy_by_section_padded :
    paddedFlow.Tidied tidyFlow ∧
    (ofOptions {}).compileLegacy tidyFlow = (ofOptions {}).compileLegacy paddedFlow ∧
    ((ofOptions {}).compileLegacy paddedFlow).verbs.map Verb.tag = ["Gather", "Record", "Dial"] ∧
    (∃ g, .gather g ∈ ((ofOptions {}).compileLegacy paddedFlow).verbs ∧
      g.action = .custom "/menu") ∧
    ¬ (∃ r target, .record r ∈ ((ofOptions {}).compileLegacy paddedFlow).verbs ∧
      r.callback = .custom target) ∧
    Text.Filled "+15550001111" := by
  obtain ⟨-, htidied, -, -, hfilled, haction, hcallback⟩ :=
    compileLegacy_by_section (ofOptions {}) paddedFlow
  have hgather : ∃ g, .gather g ∈ ((ofOptions {}).compileLegacy paddedFlow.menuAlone).verbs :=
    ⟨⟨1, 10, .custom "/menu", some ⟨"Press 1.", "alice", "en-US", none⟩⟩, by decide +kernel⟩
  have hdial : .dial ⟨"+15550001111", 30, none, .dialStatus⟩ ∈
      ((ofOptions {}).compileLegacy paddedFlow).verbs := by
    decide +kernel
  refine ⟨tidied_paddedFlow, htidied _ tidied_paddedFlow, by decide +kernel, ?_, ?_,
    hfilled _ hdial _ rfl⟩
  · refine (haction "/menu").mpr ⟨hgather, "/menu\n", rfl, ⟨'m', by decide, by decide⟩, ?_⟩
    decide +kernel
  · rintro ⟨r, target, hr⟩
    obtain ⟨-, raw, hraw, ⟨c, hc, hkept⟩, -⟩ := (hcallback target).mp ⟨r, hr⟩
    cases hraw
    obtain rfl : c = ' ' := List.mem_singleton.mp hc
    exact absurd hkept (by decide)

theorem compileSource_legacy (hsource : source.flow = .ok (.legacy flow)) :
    compiler.compileSource source = .ok (compiler.compileLegacy flow) := by
  rw [compileSource, flowOf, hsource]
  rfl

theorem respond_of_silent (hsource : source.flow = .ok (.legacy flow))
    (hverbs : (compiler.compileLegacy flow).verbs = []) :
    compiler.respond (some source) context = compiler.greet context := by
  have hempty : (compiler.compileLegacy flow).isEmpty = true := List.isEmpty_iff.mpr hverbs
  rw [respond, compileSource_legacy hsource, answer, if_pos hempty]

theorem respond_compiled_iff (hsource : source.flow = .ok (.legacy flow)) :
    (compiler.respond (some source) context).outcome = .compiled ↔
      (compiler.compileLegacy flow).verbs ≠ [] := by
  rw [((respond_failSafe compiler context).1 (some source)).compiled_iff, Option.map_some,
    compileSource_legacy hsource]
  constructor
  · rintro ⟨script, hscript, hverbs⟩
    cases hscript
    exact hverbs
  · exact fun hverbs => ⟨_, rfl, hverbs⟩

theorem respond_greets_iff (hsource : source.flow = .ok (.legacy flow)) :
    compiler.respond (some source) context = compiler.greet context ↔
      (compiler.compileLegacy flow).verbs = [] := by
  constructor
  · intro hgreet
    by_contra hverbs
    have hcompiled : (compiler.respond (some source) context).outcome = .compiled :=
      (respond_compiled_iff hsource).mpr hverbs
    rw [hgreet] at hcompiled
    cases hcompiled
  · exact respond_of_silent hsource

/-- A flow of sections makes no verbs, and a call is greeted as if there were no flow, exactly if
there is no voicemail and nothing to say, to ask or to dial. Sections without anything in their
texts are silent, whichever are there and whatever a menu offers, but for voicemail: with it the
call is recorded. -/
theorem respond_unfilled (compiler : Compiler) (context : CallContext) (flow : LegacyFlow)
    (source : FlowSource) (hsource : source.flow = .ok (.legacy flow)) :
    ((compiler.compileLegacy flow).verbs = [] ↔
      flow.voicemail = none ∧ ∀ text ∈ flow.spoken, Unfilled text) ∧
    (compiler.respond (some source) context = compiler.greet context ↔
      flow.voicemail = none ∧ ∀ text ∈ flow.spoken, Unfilled text) ∧
    ((∀ text ∈ flow.texts, Unfilled text) →
      (compiler.compileLegacy flow).verbs =
        flow.voicemail.toList.map (fun _ => LegacyFlow.plainRecording) ∧
      (compiler.respond (some source) context = compiler.greet context ↔ flow.voicemail = none) ∧
      ((compiler.respond (some source) context).outcome = .compiled ↔ flow.voicemail ≠ none)) := by
  have hsilent : (compiler.compileLegacy flow).verbs = [] ↔
      flow.voicemail = none ∧ ∀ text ∈ flow.spoken, Unfilled text := LegacyFlow.verbs_eq_nil_iff
  refine ⟨hsilent, (respond_greets_iff hsource).trans hsilent, ?_⟩
  intro htexts
  have hverbs : (compiler.compileLegacy flow).verbs =
      flow.voicemail.toList.map (fun _ => LegacyFlow.plainRecording) :=
    LegacyFlow.verbs_of_unfilled htexts
  have hnil : (compiler.compileLegacy flow).verbs = [] ↔ flow.voicemail = none := by
    rw [hverbs, List.map_eq_nil_iff, Option.toList_eq_nil_iff]
  exact ⟨hverbs, (respond_greets_iff hsource).trans hnil,
    (respond_compiled_iff hsource).trans hnil.not⟩

def blankFlow : LegacyFlow where
  greeting := some " "
  menu := some ⟨none, .array [.string "1"], some "\t"⟩
  voicemail := none
  forward := some ⟨some "\n"⟩

/-- Greeting, menu and forward are silent together. -/
theorem respond_unfilled_blank :
    ((ofOptions {}).compileLegacy blankFlow).verbs = [] ∧
    (ofOptions {}).respond (some (.ready (.legacy blankFlow))) anyCall =
      (ofOptions {}).greet anyCall := by
  have htexts : ∀ text ∈ blankFlow.texts, Unfilled text := by decide +kernel
  obtain ⟨-, -, hunfilled⟩ :=
    respond_unfilled (ofOptions {}) anyCall blankFlow (.ready (.legacy blankFlow)) rfl
  obtain ⟨hverbs, hgreets, -⟩ := hunfilled htexts
  exact ⟨hverbs, hgreets.mpr rfl⟩

def emptyVoicemail : LegacyFlow := ⟨none, none, some ⟨none, none⟩, none⟩

/-- Voicemail alone, without any text, makes the answer a recording. -/
theorem respond_records_emptyVoicemail :
    (∀ text ∈ emptyVoicemail.texts, Unfilled text) ∧
    ((ofOptions {}).compileLegacy emptyVoicemail).verbs = [LegacyFlow.plainRecording] ∧
    ((ofOptions {}).respond (some (.ready (.legacy emptyVoicemail))) anyCall).outcome = .compiled ∧
    (ofOptions {}).respond (some (.ready (.legacy emptyVoicemail))) anyCall ≠
      (ofOptions {}).greet anyCall := by
  have hcompiled : ((ofOptions {}).respond (some (.ready (.legacy emptyVoicemail)))
      anyCall).outcome = .compiled := by
    decide +kernel
  refine ⟨by decide +kernel, by decide +kernel, hcompiled, ?_⟩
  intro hgreet
  rw [hgreet] at hcompiled
  cases hcompiled

end Compiler
end CallFlow
