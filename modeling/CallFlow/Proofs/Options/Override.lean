import CallFlow.Options
import CallFlow.Proofs.Json.Given
import CallFlow.Proofs.Json.Printed

/-!
# Options that override the defaults

A document of options may hold any of the fields, in any order and with others between them: what it
holds is set, and everything else has its default. It is refused if it is no JSON text, if a field
comes twice or has a value of another type, or if the name of some field is not a text.
-/

namespace CallFlow.Options
set_option autoImplicit false

open Json (Entry Fields IsJson IsObject Makes Member OpensObject Shape Slot Value Writes)

def names : List String := ["voice", "language", "defaultGreeting", "noInputMessage",
  "configurationErrorMessage", "apologyMessage", "gatherPath", "statusPath", "recordingPath",
  "menuPath", "pretty"]

def fields (o : Options) : Fields := [
  ("voice", .string o.voice),
  ("language", .string o.language),
  ("defaultGreeting", .string o.defaultGreeting),
  ("noInputMessage", .string o.noInputMessage),
  ("configurationErrorMessage", .string o.configurationErrorMessage),
  ("apologyMessage", .string o.apologyMessage),
  ("gatherPath", .string o.gatherPath),
  ("statusPath", .string o.statusPath),
  ("recordingPath", .string o.recordingPath),
  ("menuPath", .string o.menuPath),
  ("pretty", .bool o.pretty)]

theorem toJson_eq (o : Options) : o.toJson = .object o.fields := rfl

def source (o : Options) (kept : List String) (name : String) : Options :=
  if name ∈ kept then o else {}

/-- The given options in the fields that are kept, and the defaults elsewhere. -/
def keeping (o : Options) (kept : List String) : Options where
  voice := (o.source kept "voice").voice
  language := (o.source kept "language").language
  defaultGreeting := (o.source kept "defaultGreeting").defaultGreeting
  noInputMessage := (o.source kept "noInputMessage").noInputMessage
  configurationErrorMessage :=
    (o.source kept "configurationErrorMessage").configurationErrorMessage
  apologyMessage := (o.source kept "apologyMessage").apologyMessage
  gatherPath := (o.source kept "gatherPath").gatherPath
  statusPath := (o.source kept "statusPath").statusPath
  recordingPath := (o.source kept "recordingPath").recordingPath
  menuPath := (o.source kept "menuPath").menuPath
  pretty := (o.source kept "pretty").pretty

def OfType (name : String) (v : Value) : Prop :=
  if name = "pretty" then ∃ b, v = .bool b else ∃ s, v = .string s

/-- The field of an object is one of the options, under its name. -/
def Holds (o : Options) (e : Entry) (name : String) : Prop :=
  e.Spells name ∧ ∃ v, o.fields.get? name = some v ∧ Writes v e.value.core

/-- The fields of an object are the named ones of the options, in any order, and others between them
whose names no options have. -/
def GivesPart (o : Options) (kept : List String) (entries : List Entry) : Prop :=
  ∃ known unknown, entries.Perm (known ++ unknown) ∧ List.Forall₂ o.Holds known kept ∧
    ∀ e ∈ unknown, ∃ name, e.Spells name ∧ name ∉ names

inductive Faulty (entries : List Entry) : Prop
  | noText {e : Entry} : e ∈ entries → (∀ name, ¬ e.Spells name) → Faulty entries
  | twice {e e' : Entry} {name : String} : [e, e'].Sublist entries → name ∈ names →
      e.Spells name → e'.Spells name → Faulty entries
  | wrongType {e : Entry} {name : String} : e ∈ entries → name ∈ names → e.Spells name →
      (∀ v, OfType name v → ¬ Writes v e.value.core) → Faulty entries

/-! The parts of options. -/

def textSlot (name : String) (get : Options → String) (put : String → Options → Options) :
    Slot Options :=
  ⟨name, .defaulted, Value.asString, get, put⟩

def slots : List (Slot Options) := [
  textSlot "voice" (·.voice) fun v o => { o with voice := v },
  textSlot "language" (·.language) fun v o => { o with language := v },
  textSlot "defaultGreeting" (·.defaultGreeting) fun v o => { o with defaultGreeting := v },
  textSlot "noInputMessage" (·.noInputMessage) fun v o => { o with noInputMessage := v },
  textSlot "configurationErrorMessage" (·.configurationErrorMessage)
    fun v o => { o with configurationErrorMessage := v },
  textSlot "apologyMessage" (·.apologyMessage) fun v o => { o with apologyMessage := v },
  textSlot "gatherPath" (·.gatherPath) fun v o => { o with gatherPath := v },
  textSlot "statusPath" (·.statusPath) fun v o => { o with statusPath := v },
  textSlot "recordingPath" (·.recordingPath) fun v o => { o with recordingPath := v },
  textSlot "menuPath" (·.menuPath) fun v o => { o with menuPath := v },
  ⟨"pretty", .defaulted, Value.asBool, (·.pretty), fun v o => { o with pretty := v }⟩]

theorem names_slots : slots.map (·.name) = names := rfl

theorem madeOf : shape.MadeOf slots where
  fills := .cons Member.fills_scalar (.cons Member.fills_scalar (.cons Member.fills_scalar
    (.cons Member.fills_scalar (.cons Member.fills_scalar (.cons Member.fills_scalar
    (.cons Member.fills_scalar (.cons Member.fills_scalar (.cons Member.fills_scalar
    (.cons Member.fills_scalar (.cons Member.fills_scalar .nil))))))))))
  distinct := by decide
  get_put := by simp [slots, textSlot]
  get_put_of_ne := by simp [slots, textSlot]
  ext o p h := by
    simp only [slots, textSlot, List.forall_mem_cons, List.not_mem_nil, false_imp_iff,
      implies_true] at h
    obtain ⟨_, _, _, _, _, _, _, _, _, _, _, -⟩ := h
    cases o
    cases p
    congr

theorem defaulted_slots : ∀ s ∈ slots, s.presence ≠ .required := by
  simp [slots, textSlot]

theorem mem_names_iff {name : String} : name ∈ names ↔ ∃ s ∈ slots, s.name = name := by
  rw [← names_slots, List.mem_map]

/-! Members. -/

theorem isScalar_of_asString {head : Json.Head} {s : String} (h : head.asString = .ok s) :
    head.IsScalar := by
  cases head with
  | array => cases h
  | object => cases h
  | _ => exact ⟨nofun, nofun⟩

theorem isScalar_of_asBool {head : Json.Head} {b : Bool} (h : head.asBool = .ok b) :
    head.IsScalar := by
  cases head with
  | array => cases h
  | object => cases h
  | _ => exact ⟨nofun, nofun⟩

theorem refusesBrackets : ∀ f ∈ shape.fields, f.RefusesBrackets := by
  simp only [shape, textField, List.forall_mem_cons, List.not_mem_nil, false_imp_iff,
    implies_true, and_true]
  have htext (name : String) (put : String → Options → Options) :
      (Member.scalar name .defaulted Json.Head.asString put).RefusesBrackets :=
    Member.refusesBrackets_scalar fun _ _ => isScalar_of_asString
  refine ⟨htext _ _, htext _ _, htext _ _, htext _ _, htext _ _, htext _ _, htext _ _, htext _ _,
    htext _ _, htext _ _, ?_⟩
  exact Member.refusesBrackets_scalar fun _ _ => isScalar_of_asBool

theorem takesScalar : ∀ f ∈ shape.fields, f.TakesScalar := by
  simp [shape, textField, Member.takesScalar_scalar]

/-! Reading a part. -/

theorem exists_asString_iff {v : Value} : (∃ s, v.asString = .ok s) ↔ ∃ s, v = .string s := by
  constructor
  · rintro ⟨s, h⟩
    cases v <;> cases h
    exact ⟨_, rfl⟩
  · rintro ⟨s, rfl⟩
    exact ⟨s, rfl⟩

theorem exists_asBool_iff {v : Value} : (∃ b, v.asBool = .ok b) ↔ ∃ b, v = .bool b := by
  constructor
  · rintro ⟨b, h⟩
    cases v <;> cases h
    exact ⟨_, rfl⟩
  · rintro ⟨b, rfl⟩
    exact ⟨b, rfl⟩

theorem exists_read_iff {v : Value} :
    ∀ s ∈ slots, (∃ a, s.read v = .ok a) ↔ OfType s.name v := by
  have htext (name : String) (hname : name ≠ "pretty") :
      (∃ s, v.asString = .ok s) ↔ OfType name v := by
    rw [exists_asString_iff, OfType, if_neg hname]
  have hflag : (∃ b, v.asBool = .ok b) ↔ OfType "pretty" v := by
    rw [exists_asBool_iff, OfType, if_pos rfl]
  simp only [slots, textSlot, List.forall_mem_cons, List.not_mem_nil, false_imp_iff, implies_true,
    and_true]
  exact ⟨htext _ (by decide), htext _ (by decide), htext _ (by decide), htext _ (by decide),
    htext _ (by decide), htext _ (by decide), htext _ (by decide), htext _ (by decide),
    htext _ (by decide), htext _ (by decide), hflag⟩

theorem read_field (o : Options) :
    ∀ s ∈ slots, ∀ v, o.fields.get? s.name = some v → s.read v = .ok (s.get o) := by
  simp only [slots, textSlot, List.forall_mem_cons, List.not_mem_nil, false_imp_iff, implies_true,
    and_true]
  refine ⟨?_, ?_, ?_, ?_, ?_, ?_, ?_, ?_, ?_, ?_, ?_⟩ <;> · rintro v ⟨⟩; rfl

theorem get_keeping (o : Options) (kept : List String) :
    ∀ s ∈ slots, s.get (o.keeping kept) = s.get (o.source kept s.name) := by
  simp [slots, textSlot, keeping]

theorem source_of_mem {o : Options} {kept : List String} {name : String} (h : name ∈ kept) :
    o.source kept name = o := if_pos h

theorem source_of_not_mem {o : Options} {kept : List String} {name : String} (h : name ∉ kept) :
    o.source kept name = {} := if_neg h

theorem keeping_names (o : Options) : o.keeping names = o := by
  refine madeOf.ext _ _ fun s hs => ?_
  rw [get_keeping o names s hs, source_of_mem (mem_names_iff.mpr ⟨s, hs, rfl⟩)]

/-! What a document makes of options. -/

section Makes
variable {o : Options} {kept : List String} {entries known unknown : List Entry} {e : Entry}

theorem exists_kept (hknown : List.Forall₂ o.Holds known kept) (he : e ∈ known) :
    ∃ name ∈ kept, o.Holds e name :=
  Json.exists_of_mem_forall₂ hknown he

theorem exists_known (hknown : List.Forall₂ o.Holds known kept) {name : String}
    (hname : name ∈ kept) : ∃ e ∈ known, e.Spells name := by
  obtain ⟨e, he, hholds⟩ := Json.exists_of_mem_forall₂ hknown.flip hname
  exact ⟨e, he, hholds.1⟩

theorem known_once (hknown : List.Forall₂ o.Holds known kept) (hnodup : kept.Nodup) :
    known.Pairwise fun e e' => ∀ name, e.Spells name → ¬ e'.Spells name := by
  induction hknown with
  | nil => exact .nil
  | cons hfirst hothers ih =>
    obtain ⟨hnew, hnodup⟩ := List.nodup_cons.mp hnodup
    refine List.pairwise_cons.mpr ⟨fun e' he' name hspells hspells' => ?_, ih hnodup⟩
    obtain ⟨name', hname', hholds'⟩ := exists_kept hothers he'
    obtain rfl := hspells.unique hfirst.1
    obtain rfl := hspells'.unique hholds'.1
    exact hnew hname'

/-- A document with some fields of the options makes those that keep them. -/
theorem GivesPart.makes (h : o.GivesPart kept entries) (hkept : kept.Sublist names) :
    Makes slots shape.start entries (o.keeping kept) := by
  obtain ⟨known, unknown, hperm, hknown, hunknown⟩ := h
  have hforeign : ∀ e ∈ unknown, ∀ s ∈ slots, ¬ e.Spells s.name := by
    intro e he s hs hspells
    obtain ⟨name, hname, hnot⟩ := hunknown e he
    obtain rfl := hspells.unique hname
    exact hnot (mem_names_iff.mpr ⟨s, hs, rfl⟩)
  have hmem (e : Entry) : e ∈ entries ↔ e ∈ known ∨ e ∈ unknown := by
    rw [hperm.mem_iff, List.mem_append]
  refine ⟨fun e he => ?_, ?_, fun s hs e he hspells => ?_, fun s hs hnone => ?_⟩
  · rcases (hmem e).mp he with he | he
    · obtain ⟨name, -, hholds⟩ := exists_kept hknown he
      exact ⟨name, hholds.1⟩
    · obtain ⟨name, hname, -⟩ := hunknown e he
      exact ⟨name, hname⟩
  · refine (hperm.pairwise_iff fun hnot s hs h h' => hnot s hs h' h).mpr ?_
    refine List.pairwise_append.mpr ⟨?_, ?_, fun e _ e' he' s hs _ => hforeign e' he' s hs⟩
    · have hnodup : names.Nodup := by decide
      exact (known_once hknown (hnodup.sublist hkept)).imp fun hnot (s : Slot Options) _ =>
        hnot s.name
    · exact List.pairwise_of_forall_mem_list fun e he e' _ s hs h => absurd h (hforeign e he s hs)
  · rcases (hmem e).mp he with he | he
    · obtain ⟨name, hname, hname', v, hget, hv⟩ := exists_kept hknown he
      obtain rfl := hspells.unique hname'
      refine ⟨v, hv, ?_⟩
      rw [get_keeping o kept s hs, source_of_mem hname]
      exact read_field o s hs v hget
    · exact absurd hspells (hforeign e he s hs)
  · have hnot : s.name ∉ kept := fun hname => by
      obtain ⟨e, he, hspells⟩ := exists_known hknown hname
      exact hnone e ((hmem e).mpr (.inl he)) hspells
    rw [get_keeping o kept s hs, source_of_not_mem hnot]
    rfl

theorem faulty_iff : Faulty entries ↔ ¬ ∃ o, Makes slots shape.start entries o := by
  rw [madeOf.exists_makes_iff]
  constructor
  · rintro hfaulty ⟨hnamed, honce, hread⟩
    cases hfaulty with
    | noText he hnone =>
      obtain ⟨name, hname⟩ := hnamed _ he
      exact hnone name hname
    | twice hsub hname hspells hspells' =>
      obtain ⟨s, hs, rfl⟩ := mem_names_iff.mp hname
      exact List.pairwise_iff_forall_sublist.mp honce hsub s hs hspells hspells'
    | wrongType he hname hspells hnone =>
      obtain ⟨s, hs, rfl⟩ := mem_names_iff.mp hname
      obtain ⟨v, hv, hok⟩ := hread s hs _ he hspells
      exact hnone v ((exists_read_iff s hs).mp hok) hv
  · intro hnot
    by_contra hfair
    refine hnot ⟨fun e he => ?_, ?_, fun s hs e he hspells => ?_⟩
    · by_contra hnone
      exact hfair (.noText he (not_exists.mp hnone))
    · refine List.pairwise_iff_forall_sublist.mpr fun hsub s hs hspells hspells' => ?_
      exact hfair (.twice hsub (mem_names_iff.mpr ⟨s, hs, rfl⟩) hspells hspells')
    · by_contra hnone
      refine hfair (.wrongType he (mem_names_iff.mpr ⟨s, hs, rfl⟩) hspells fun v hv hwrites => ?_)
      exact hnone ⟨v, hwrites, (exists_read_iff s hs).mpr hv⟩

end Makes

/-! Documents. -/

section Documents
variable {text : String} {o : Options} {entries : List Entry}

theorem ofText_eq_ok_iff :
    ofText text = .ok o ↔ Json.readText (shape.read Json.maxNesting) text = .ok o := by
  rw [ofText]
  cases Json.readText (shape.read Json.maxNesting) text <;> simp

theorem ofText_object_iff (h : IsObject entries text) :
    ofText text = .ok o ↔ Makes slots shape.start entries o := by
  rw [ofText_eq_ok_iff]
  exact madeOf.readText_eq_ok_iff refusesBrackets takesScalar defaulted_slots h

theorem isObject_of_ofText (hopens : OpensObject text) (h : ofText text = .ok o) :
    ∃ entries, IsObject entries text := by
  obtain ⟨entries, -, hobject, -⟩ :=
    Shape.readText_sound refusesBrackets takesScalar hopens (ofText_eq_ok_iff.mp h)
  exact ⟨entries, hobject⟩

theorem exists_error_iff : (∃ error, ofText text = .error error) ↔ ¬ ∃ o, ofText text = .ok o := by
  cases ofText text <;> simp

theorem ofText_error_iff (hopens : OpensObject text) :
    (∃ error, ofText text = .error error) ↔
      ¬ IsJson text ∨ ∃ entries, IsObject entries text ∧ Faulty entries := by
  rw [exists_error_iff]
  constructor
  · intro hnone
    refine or_iff_not_imp_left.mpr fun hjson => ?_
    obtain ⟨entries, hobject⟩ := (not_not.mp hjson).exists_isObject hopens
    refine ⟨entries, hobject, faulty_iff.mpr ?_⟩
    rintro ⟨o, hmakes⟩
    exact hnone ⟨o, (ofText_object_iff hobject).mpr hmakes⟩
  · rintro hfault ⟨o, hok⟩
    rcases hfault with hjson | ⟨entries, hobject, hfaulty⟩
    · obtain ⟨entries, hobject⟩ := isObject_of_ofText hopens hok
      exact hjson hobject.isJson
    · exact faulty_iff.mp hfaulty ⟨o, (ofText_object_iff hobject).mp hok⟩

end Documents

theorem fields_printable (o : Options) : ∀ p ∈ o.fields, p.2.Printable 0 := by
  simp [fields, Value.Printable.string, Value.Printable.bool]

theorem isObject_fields (o : Options) :
    IsObject (o.fields.map Json.printedField) o.toJson.toText :=
  Json.isObject_toText fun p hp => (o.fields_printable p hp).writes.valueText

theorem givesPart_fields (o : Options) :
    o.GivesPart names (o.fields.map Json.printedField) := by
  refine ⟨o.fields.map Json.printedField, [], by rw [List.append_nil], ?_, nofun⟩
  have hnames : o.fields.map Prod.fst = names := rfl
  have hdistinct : o.fields.Distinct := Fields.distinct_of_names hnames (by decide)
  rw [← hnames, List.forall₂_map_left_iff, List.forall₂_map_right_iff, List.forall₂_same]
  exact fun p hp => ⟨Json.spells_escaped _, p.2, Fields.get?_of_mem hdistinct hp,
    (o.fields_printable p hp).writes⟩

/-- Options read from a document keep what it gives and have defaults elsewhere, so they are read
back from their own text; and when a document is refused. -/
theorem ofText_override :
    (∀ (o : Options) (kept : List String) (entries : List Entry) (text : String),
      kept.Sublist names → IsObject entries text → o.GivesPart kept entries →
      ofText text = .ok (o.keeping kept)) ∧
    (∀ o : Options, ofText o.toJson.toText = .ok o) ∧
    ∀ text, OpensObject text → ((∃ error, ofText text = .error error) ↔
      ¬ IsJson text ∨ ∃ entries, IsObject entries text ∧ Faulty entries) := by
  have hpart (o : Options) (kept : List String) (entries : List Entry) (text : String)
      (hkept : kept.Sublist names) (hobject : IsObject entries text)
      (hgives : o.GivesPart kept entries) : ofText text = .ok (o.keeping kept) :=
    (ofText_object_iff hobject).mpr (hgives.makes hkept)
  refine ⟨hpart, fun o => ?_, fun text => ofText_error_iff⟩
  have hwhole := hpart o names _ _ (List.Sublist.refl _) o.isObject_fields o.givesPart_fields
  rwa [keeping_names] at hwhole

/-- A document with one field and an unknown one, and a document that has null for a text. -/
theorem ofText_override_pretty :
    ofText "\x7b\"extra\":null,\"pretty\":true\x7d" = .ok { pretty := true } ∧
    ∃ error, ofText "\x7b\"voice\":null\x7d" = .error error := by
  let flag : String × Value := ("pretty", .bool true)
  let extra : String × Value := ("extra", .null)
  let voice : String × Value := ("voice", .null)
  constructor
  · have hobject : IsObject ([extra, flag].map Json.printedField)
        "\x7b\"extra\":null,\"pretty\":true\x7d" := by
      refine Json.isObject_toText ?_
      exact List.forall_mem_cons.mpr ⟨.null, List.forall_mem_singleton.mpr (.bool true)⟩
    have hgives : ({ pretty := true } : Options).GivesPart ["pretty"]
        ([extra, flag].map Json.printedField) := by
      refine ⟨[Json.printedField flag], [Json.printedField extra], .swap _ _ _, ?_, ?_⟩
      · exact .cons ⟨Json.spells_escaped _, .bool true, rfl, .bool true⟩ .nil
      · exact List.forall_mem_singleton.mpr ⟨"extra", Json.spells_escaped _, by decide⟩
    exact ofText_override.1 { pretty := true } ["pretty"] _ _ (by decide) hobject hgives
  · have hobject : IsObject ([voice].map Json.printedField) "\x7b\"voice\":null\x7d" :=
      Json.isObject_toText (List.forall_mem_singleton.mpr .null)
    have hnull : ∀ v, OfType "voice" v → ¬ Writes v (Json.printedField voice).value.core := by
      rintro v ⟨s, rfl⟩ hwrites
      generalize hcore : (Json.printedField voice).value.core = core at hwrites
      cases hwrites
      cases hcore
    have hfaulty : Faulty ([voice].map Json.printedField) :=
      .wrongType List.mem_cons_self (by decide) (Json.spells_escaped _) hnull
    exact (ofText_override.2.2 _ hobject.opensObject).mpr (.inr ⟨_, hobject, hfaulty⟩)

/-- The name of a field may be half a surrogate pair, which is no text: none of these fields is one
of options, and still the document is refused. -/
theorem ofText_lone_surrogate :
    IsJson "\x7b\"\\uDEAD\":1\x7d" ∧ OpensObject "\x7b\"\\uDEAD\":1\x7d" ∧
    (∀ entries, IsObject entries "\x7b\"\\uDEAD\":1\x7d" →
      ∀ e ∈ entries, ∀ name ∈ names, ¬ e.Spells name) ∧
    ∃ error, ofText "\x7b\"\\uDEAD\":1\x7d" = .error error := by
  let half : Entry := ⟨⟨[], "\\uDEAD".toList, []⟩, ⟨[], ['1'], []⟩⟩
  have hdigits : Json.Digits ['1'] :=
    ⟨List.cons_ne_nil _ _, List.forall_mem_singleton.mpr rfl⟩
  have hnumeral : Json.NumeralText ⟨['1'], [], none⟩ (['1'] ++ ([] ++ [])) :=
    .intro ⟨hdigits, nofun⟩ .absent .absent
  have hobject : IsObject [half] "\x7b\"\\uDEAD\":1\x7d" := by
    refine ⟨⟨[], "\x7b\"\\uDEAD\":1\x7d".toList, []⟩, ⟨nofun, nofun⟩, ⟨_, .parts _ _, ?_, rfl⟩, ?_, ?_⟩
    · exact List.forall_mem_singleton.mpr ⟨⟨_, .cons (.code rfl) .nil⟩, ⟨nofun, nofun⟩, ⟨nofun, nofun⟩⟩
    · exact List.forall_mem_singleton.mpr (.number ⟨false, _, _, hnumeral, rfl⟩)
    · rw [Json.Padded.text, List.append_nil, List.nil_append]
  have hnone (name : String) : ¬ half.Spells name := by
    intro hspells
    have hread := Json.gives_takeString hspells []
    have herror : Json.takeString ("\\uDEAD".toList ++ ['"']) = Json.fail .loneSurrogate := by
      unfold Json.takeString Json.takeChars
      rfl
    rw [herror] at hread
    exact Json.not_gives_error hread
  have hfaulty : Faulty [half] := .noText List.mem_cons_self hnone
  refine ⟨hobject.isJson, hobject.opensObject, fun entries h e he name _ => ?_,
    (ofText_error_iff hobject.opensObject).mpr (.inr ⟨_, hobject, hfaulty⟩)⟩
  obtain rfl := hobject.entries_unique h
  obtain rfl := List.mem_singleton.mp he
  exact hnone name

end CallFlow.Options
