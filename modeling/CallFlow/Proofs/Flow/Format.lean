import CallFlow.Flow.Source
import CallFlow.Proofs.Flow.Stored

/-!
# Two formats

A list of blocks with something in it makes a definition a graph, whatever else it says. Without one
it is a flow of sections, which are all that is looked at. Anything else is refused, for the blocks
if there are some.
-/

namespace CallFlow
set_option autoImplicit false

open Json (Fields Parts Value)

namespace Stored

/-- Three ways to give nothing: no value, null, or the empty value of its kind. -/
inductive Missing (empty : Value) : Option Value → Prop
  | absent : Missing empty none
  | null : Missing empty (some .null)
  | empty : Missing empty (some empty)

/-- What is given for the blocks is neither nothing nor a list of blocks. -/
inductive BadBlocks : Option Value → Prop
  | notList {v : Value} : v ≠ .null → (∀ items, v ≠ .array items) → BadBlocks (some v)
  | unreadable {items : List Value} {item : Value} : item ∈ items →
      (∀ b, ¬ Block.StoredAs item b) → BadBlocks (some (.array items))

/-- The same value, or two objects that have the same under these names. -/
inductive SameUpTo (names : List String) : Option Value → Option Value → Prop
  | same (v : Option Value) : SameUpTo names v v
  | objects {fields fields' : Fields} : (∀ name ∈ names, fields.get? name = fields'.get? name) →
      SameUpTo names (some (.object fields)) (some (.object fields'))

def Alike (empty : Value) (v w : Option Value) : Prop := v = w ∨ Missing empty v ∧ Missing empty w

structure SameSections (fields fields' : Fields) : Prop where
  greeting : fields.get? "greeting" = fields'.get? "greeting"
  menu : SameUpTo LegacyMenu.names (fields.get? "menu") (fields'.get? "menu")
  voicemail : SameUpTo LegacyVoicemail.names (fields.get? "voicemail") (fields'.get? "voicemail")
  forward : SameUpTo LegacyForward.names (fields.get? "forward") (fields'.get? "forward")

/-- The same block up to the way in which settings and connections are left out. -/
structure AlikeBlocks (parts parts' : Fields) : Prop where
  id : parts.get? "id" = parts'.get? "id"
  kindName : parts.get? "type" = parts'.get? "type"
  config : Alike (.object []) (parts.get? "config") (parts'.get? "config")
  connections : Alike (.array []) (parts.get? "connections") (parts'.get? "connections")
  position : parts.get? "position" = parts'.get? "position"

end Stored

open Stored

/-! Nothing in different ways. -/

section Alike
variable {α : Type} {R : Value → α → Prop} {empty : Value} {default : α} {v w : Option Value}

theorem Stored.Alike.symm (h : Alike empty v w) : Alike empty w v := h.imp Eq.symm And.symm

theorem Stored.defaulted_of_missing (hempty : R empty default) (h : Missing empty v) :
    Defaulted R default v default := by
  cases h with
  | absent => exact ⟨none, .absent, rfl⟩
  | null => exact ⟨none, .null, rfl⟩
  | empty => exact ⟨some default, .present hempty, rfl⟩

theorem Stored.eq_of_missing (hempty : ∀ a, R empty a → a = default) (hnull : ∀ a, ¬ R .null a)
    (h : Missing empty v) {a : α} (ha : Defaulted R default v a) : a = default := by
  obtain ⟨o, ho, rfl⟩ := ha
  cases ho with
  | absent => rfl
  | null => rfl
  | present hpresent =>
    cases h with
    | null => exact absurd hpresent (hnull _)
    | empty => exact hempty _ hpresent

theorem Stored.Defaulted.of_alike (hempty : ∀ a, R empty a ↔ a = default)
    (hnull : ∀ a, ¬ R .null a) (halike : Alike empty v w) {a : α} (h : Defaulted R default v a) :
    Defaulted R default w a := by
  rcases halike with rfl | ⟨hv, hw⟩
  · exact h
  · rw [eq_of_missing (fun a => (hempty a).mp) hnull hv h]
    exact defaulted_of_missing ((hempty default).mpr rfl) hw

end Alike

theorem Stored.object_nil_iff (fields : Fields) : Object (.object []) fields ↔ fields = [] := by
  constructor
  · rintro ⟨⟩
    rfl
  · rintro rfl
    exact .object []

theorem Stored.texts_nil_iff (texts : List String) : Texts (.array []) texts ↔ texts = [] := by
  constructor
  · intro h
    generalize hv : Value.array [] = v at h
    cases h
    exact List.map_eq_nil_iff.mp (Value.array.inj hv).symm
  · rintro rfl
    exact .list []

theorem Block.In.of_alike {parts parts' : Fields} (h : AlikeBlocks parts parts') {b : Block}
    (hb : Block.In parts b) : Block.In parts' b where
  id := h.id ▸ hb.id
  kindName := h.kindName ▸ hb.kindName
  config := hb.config.of_alike object_nil_iff nofun h.config
  connections := hb.connections.of_alike texts_nil_iff nofun h.connections
  position := h.position ▸ hb.position

theorem Stored.AlikeBlocks.symm {parts parts' : Fields} (h : AlikeBlocks parts parts') :
    AlikeBlocks parts' parts :=
  ⟨h.id.symm, h.kindName.symm, h.config.symm, h.connections.symm, h.position.symm⟩

theorem Block.StoredAs.of_alike {v w : Value} {parts parts' : Fields}
    (hparts : Parts Block.names v parts) (hparts' : Parts Block.names w parts')
    (h : AlikeBlocks parts parts') {b : Block} (hb : Block.StoredAs v b) : Block.StoredAs w b := by
  obtain ⟨p, hp, hin⟩ := hb
  obtain rfl := hp.unique hparts
  exact ⟨parts', hparts', hin.of_alike h⟩

/-- Settings and connections that are absent, null or empty are read alike. -/
theorem Block.ofJson_alike {v w : Value} {parts parts' : Fields} (hv : v.Distinct)
    (hw : w.Distinct) (hparts : Parts Block.names v parts) (hparts' : Parts Block.names w parts')
    (h : AlikeBlocks parts parts') (b : Block) :
    Block.ofJson v = .ok b ↔ Block.ofJson w = .ok b := by
  rw [Block.ofJson_eq_ok_iff hv, Block.ofJson_eq_ok_iff hw]
  exact ⟨.of_alike hparts hparts' h, .of_alike hparts' hparts h.symm⟩

/-! Sections with other names in them. -/

theorem LegacyMenu.In.congr {parts parts' : Fields} {m : LegacyMenu}
    (h : ∀ name ∈ LegacyMenu.names, parts.get? name = parts'.get? name)
    (hm : LegacyMenu.In parts m) : LegacyMenu.In parts' m where
  prompt := h "prompt" (by decide) ▸ hm.prompt
  options := h "options" (by decide) ▸ hm.options
  action := h "action" (by decide) ▸ hm.action

theorem LegacyVoicemail.In.congr {parts parts' : Fields} {m : LegacyVoicemail}
    (h : ∀ name ∈ LegacyVoicemail.names, parts.get? name = parts'.get? name)
    (hm : LegacyVoicemail.In parts m) : LegacyVoicemail.In parts' m where
  prompt := h "prompt" (by decide) ▸ hm.prompt
  callback := h "callback" (by decide) ▸ hm.callback

theorem LegacyForward.In.congr {parts parts' : Fields} {f : LegacyForward}
    (h : ∀ name ∈ LegacyForward.names, parts.get? name = parts'.get? name)
    (hf : LegacyForward.In parts f) : LegacyForward.In parts' f where
  number := h "number" (by decide) ▸ hf.number

theorem Stored.Optional.of_same {α : Type} {names : List String} {R : Fields → α → Prop}
    {v w : Option Value} {o : Option α}
    (hcongr : ∀ {parts parts' : Fields} {a : α},
      (∀ name ∈ names, parts.get? name = parts'.get? name) → R parts a → R parts' a)
    (hsame : SameUpTo names v w) (h : Optional (Record names R) v o) :
    Optional (Record names R) w o := by
  cases hsame with
  | same => exact h
  | objects hget =>
    cases h with
    | present hrecord =>
      obtain ⟨parts, ⟨⟩, hparts⟩ := hrecord
      exact .present ⟨_, .object _, hcongr hget hparts⟩

theorem LegacyFlow.In.of_same {fields fields' : Fields} (h : SameSections fields fields')
    {f : LegacyFlow} (hf : LegacyFlow.In fields f) : LegacyFlow.In fields' f where
  greeting := h.greeting ▸ hf.greeting
  menu := hf.menu.of_same LegacyMenu.In.congr h.menu
  voicemail := hf.voicemail.of_same LegacyVoicemail.In.congr h.voicemail
  forward := hf.forward.of_same LegacyForward.In.congr h.forward

theorem Stored.SameUpTo.symm {names : List String} {v w : Option Value} (h : SameUpTo names v w) :
    SameUpTo names w v := by
  cases h with
  | same => exact .same _
  | objects hget => exact .objects fun name hname => (hget name hname).symm

theorem Stored.SameSections.symm {fields fields' : Fields} (h : SameSections fields fields') :
    SameSections fields' fields :=
  ⟨h.greeting.symm, h.menu.symm, h.voicemail.symm, h.forward.symm⟩

/-! Telling the format. -/

namespace Flow

variable {v : Option Value} {fields : Fields} {items : List Value} {blocks : List Block}
variable {flow : LegacyFlow}

theorem blocks_cases (v : Option Value) :
    Missing (.array []) v ∨ (∃ items, items ≠ [] ∧ v = some (.array items)) ∨
      ∃ w, v = some w ∧ w ≠ .null ∧ ∀ items, w ≠ .array items := by
  cases v with
  | none => exact .inl .absent
  | some v =>
    cases v with
    | null => exact .inl .null
    | array items =>
      cases items with
      | nil => exact .inl .empty
      | cons item items => exact .inr (.inl ⟨item :: items, by simp, rfl⟩)
    | bool b => exact .inr (.inr ⟨_, rfl, by simp, by simp⟩)
    | number n => exact .inr (.inr ⟨_, rfl, by simp, by simp⟩)
    | string s => exact .inr (.inr ⟨_, rfl, by simp, by simp⟩)
    | object fields => exact .inr (.inr ⟨_, rfl, by simp, by simp⟩)

theorem ofFields_of_missing (h : Missing (.array []) (fields.get? "blocks")) :
    ofFields fields = asLegacy fields := by
  unfold ofFields
  generalize fields.get? "blocks" = v at h
  cases h <;> rfl

theorem ofFields_of_items (h : fields.get? "blocks" = some (.array items)) (hitems : items ≠ []) :
    ofFields fields = asGraph items := by
  unfold ofFields
  rw [h]
  cases items with
  | nil => contradiction
  | cons item items => rfl

theorem ofFields_of_notList {v : Value} (h : fields.get? "blocks" = some v) (hnull : v ≠ .null)
    (hlist : ∀ items, v ≠ .array items) :
    ofFields fields = .error (.blocks (.notList v.kind)) := by
  unfold ofFields
  rw [h]
  cases v with
  | null => contradiction
  | array items => exact absurd rfl (hlist items)
  | _ => rfl

theorem exists_forall₂_iff {α β : Type} {R : α → β → Prop} {as : List α} :
    (∃ bs, List.Forall₂ R as bs) ↔ ∀ a ∈ as, ∃ b, R a b := by
  induction as with
  | nil => simp
  | cons a as ih =>
    rw [List.forall_mem_cons, ← ih]
    constructor
    · rintro ⟨_, hfirst | ⟨hfirst, hrest⟩⟩
      exact ⟨⟨_, hfirst⟩, _, hrest⟩
    · rintro ⟨⟨b, hfirst⟩, bs, hrest⟩
      exact ⟨b :: bs, .cons hfirst hrest⟩

theorem mapM_ofJson_iff (h : ∀ item ∈ items, item.Distinct) :
    items.mapM Block.ofJson = .ok blocks ↔ List.Forall₂ Block.StoredAs items blocks := by
  rw [mapM_eq_ok_iff]
  induction items generalizing blocks with
  | nil => simp
  | cons item items ih =>
    obtain ⟨hitem, hitems⟩ := List.forall_mem_cons.mp h
    simp only [List.forall₂_cons_left_iff, Block.ofJson_eq_ok_iff hitem, ih hitems]

theorem asGraph_eq_ok_iff (h : ∀ item ∈ items, item.Distinct) {f : Flow} :
    asGraph items = .ok f ↔
      ∃ blocks, f = .graph blocks ∧ List.Forall₂ Block.StoredAs items blocks := by
  simp only [← mapM_ofJson_iff h]
  unfold asGraph
  cases items.mapM Block.ofJson with
  | error cause => simp
  | ok blocks => simp [eq_comm]

theorem exists_asGraph_eq_error_iff (h : ∀ item ∈ items, item.Distinct) :
    (∃ cause, asGraph items = .error (.blocks cause)) ↔
      ∃ item ∈ items, ∀ b, ¬ Block.StoredAs item b := by
  have hreadable : (∃ blocks, items.mapM Block.ofJson = .ok blocks) ↔
      ∀ item ∈ items, ∃ b, Block.StoredAs item b := by
    simp only [mapM_ofJson_iff h, exists_forall₂_iff]
  unfold asGraph
  cases hread : items.mapM Block.ofJson with
  | error cause =>
    rw [hread] at hreadable
    simpa using hreadable
  | ok blocks =>
    rw [hread] at hreadable
    simpa using hreadable

theorem asLegacy_eq_ok_iff (h : (Value.object fields).Distinct) {f : Flow} :
    asLegacy fields = .ok f ↔ ∃ flow, f = .legacy flow ∧ LegacyFlow.In fields flow := by
  simp only [← LegacyFlow.ofFields_eq_ok_iff h]
  unfold asLegacy
  cases LegacyFlow.shape.ofFields fields with
  | error cause => simp
  | ok flow => simp [eq_comm]

theorem exists_asLegacy_eq_error_iff (h : (Value.object fields).Distinct) :
    (∃ cause, asLegacy fields = .error (.legacy cause)) ↔ ∀ flow, ¬ LegacyFlow.In fields flow := by
  simp only [← LegacyFlow.ofFields_eq_ok_iff h]
  unfold asLegacy
  cases LegacyFlow.shape.ofFields fields with
  | error cause => simp
  | ok flow => simp

theorem eq_blocks_of_asGraph {e : ParseError} (h : asGraph items = .error e) :
    ∃ cause, e = .blocks cause := by
  unfold asGraph at h
  split at h <;> cases h
  exact ⟨_, rfl⟩

theorem eq_legacy_of_asLegacy {e : ParseError} (h : asLegacy fields = .error e) :
    ∃ cause, e = .legacy cause := by
  unfold asLegacy at h
  split at h <;> cases h
  exact ⟨_, rfl⟩

/-! What comes of an object, by what it gives for the blocks. -/

theorem eq_nil_of_missing (h : Missing (.array []) (some (.array items))) : items = [] := by
  cases h
  rfl

theorem not_missing {v : Value} (hnull : v ≠ .null) (hlist : ∀ items, v ≠ .array items) :
    ¬ Missing (.array []) (some v) := by
  rintro (_ | _ | _)
  · exact hnull rfl
  · exact hlist [] rfl

theorem badBlocks_array_iff :
    BadBlocks (some (.array items)) ↔ ∃ item ∈ items, ∀ b, ¬ Block.StoredAs item b := by
  constructor
  · rintro (⟨-, hlist⟩ | ⟨hitem, hnone⟩)
    · exact absurd rfl (hlist items)
    · exact ⟨_, hitem, hnone⟩
  · rintro ⟨item, hitem, hnone⟩
    exact .unreadable hitem hnone

theorem not_badBlocks (h : Missing (.array []) v) : ¬ BadBlocks v := by
  rintro (⟨hnull, hlist⟩ | ⟨hitem, -⟩)
  · exact not_missing hnull hlist h
  · rw [eq_nil_of_missing h] at hitem
    cases hitem

section Outcomes
variable (h : (Value.object fields).Distinct)
include h

theorem distinct_items (hget : fields.get? "blocks" = some (.array items)) :
    ∀ item ∈ items, item.Distinct :=
  fun _ hitem => (h.get? hget).mem hitem

theorem ofFields_eq_graph_iff :
    ofFields fields = .ok (.graph blocks) ↔
      ∃ items, fields.get? "blocks" = some (.array items) ∧ items ≠ [] ∧
        List.Forall₂ Block.StoredAs items blocks := by
  rcases blocks_cases (fields.get? "blocks") with
    hmissing | ⟨items, hitems, hget⟩ | ⟨v, hget, hnull, hlist⟩
  · rw [ofFields_of_missing hmissing, asLegacy_eq_ok_iff h]
    refine iff_of_false (by simp) ?_
    rintro ⟨items, hget, hitems, -⟩
    exact hitems (eq_nil_of_missing (hget ▸ hmissing))
  · rw [ofFields_of_items hget hitems, asGraph_eq_ok_iff (distinct_items h hget)]
    simp [hget, hitems]
  · rw [ofFields_of_notList hget hnull hlist]
    simp [hget, hlist]

theorem ofFields_eq_legacy_iff :
    ofFields fields = .ok (.legacy flow) ↔
      Missing (.array []) (fields.get? "blocks") ∧ LegacyFlow.In fields flow := by
  rcases blocks_cases (fields.get? "blocks") with
    hmissing | ⟨items, hitems, hget⟩ | ⟨v, hget, hnull, hlist⟩
  · rw [ofFields_of_missing hmissing, asLegacy_eq_ok_iff h]
    simp [hmissing]
  · rw [ofFields_of_items hget hitems, asGraph_eq_ok_iff (distinct_items h hget), hget]
    refine iff_of_false (by simp) fun hmissing => hitems (eq_nil_of_missing hmissing.1)
  · rw [ofFields_of_notList hget hnull hlist, hget]
    exact iff_of_false nofun fun hmissing => not_missing hnull hlist hmissing.1

theorem exists_ofFields_eq_blocks_error_iff :
    (∃ cause, ofFields fields = .error (.blocks cause)) ↔ BadBlocks (fields.get? "blocks") := by
  rcases blocks_cases (fields.get? "blocks") with
    hmissing | ⟨items, hitems, hget⟩ | ⟨v, hget, hnull, hlist⟩
  · rw [ofFields_of_missing hmissing]
    refine iff_of_false ?_ (not_badBlocks hmissing)
    rintro ⟨cause, herror⟩
    obtain ⟨_, hcause⟩ := eq_legacy_of_asLegacy herror
    cases hcause
  · rw [ofFields_of_items hget hitems, exists_asGraph_eq_error_iff (distinct_items h hget), hget,
      badBlocks_array_iff]
  · rw [ofFields_of_notList hget hnull hlist, hget]
    exact iff_of_true ⟨_, rfl⟩ (.notList hnull hlist)

theorem exists_ofFields_eq_legacy_error_iff :
    (∃ cause, ofFields fields = .error (.legacy cause)) ↔
      Missing (.array []) (fields.get? "blocks") ∧ ∀ flow, ¬ LegacyFlow.In fields flow := by
  rcases blocks_cases (fields.get? "blocks") with
    hmissing | ⟨items, hitems, hget⟩ | ⟨v, hget, hnull, hlist⟩
  · rw [ofFields_of_missing hmissing, exists_asLegacy_eq_error_iff h, and_iff_right hmissing]
  · rw [ofFields_of_items hget hitems, hget]
    refine iff_of_false ?_ fun hmissing => hitems (eq_nil_of_missing hmissing.1)
    rintro ⟨cause, herror⟩
    obtain ⟨_, hcause⟩ := eq_blocks_of_asGraph herror
    cases hcause
  · rw [ofFields_of_notList hget hnull hlist, hget]
    exact iff_of_false (by simp) fun hmissing => not_missing hnull hlist hmissing.1

end Outcomes

theorem ofFields_error_cases {e : ParseError} (herror : ofFields fields = .error e) :
    (∃ cause, e = .blocks cause) ∨ ∃ cause, e = .legacy cause := by
  rcases blocks_cases (fields.get? "blocks") with
    hmissing | ⟨items, hitems, hget⟩ | ⟨v, hget, hnull, hlist⟩
  · exact .inr (eq_legacy_of_asLegacy (ofFields_of_missing hmissing ▸ herror))
  · exact .inl (eq_blocks_of_asGraph (ofFields_of_items hget hitems ▸ herror))
  · rw [ofFields_of_notList hget hnull hlist] at herror
    cases herror
    exact .inl ⟨_, rfl⟩

theorem ofFields_of_sameSections {fields' : Fields} (h : (Value.object fields).Distinct)
    (h' : (Value.object fields').Distinct) (hmissing : Missing (.array []) (fields.get? "blocks"))
    (hmissing' : Missing (.array []) (fields'.get? "blocks"))
    (hsame : SameSections fields fields') {f : Flow} (hflow : ofFields fields = .ok f) :
    ofFields fields' = .ok f := by
  rw [ofFields_of_missing hmissing, asLegacy_eq_ok_iff h] at hflow
  obtain ⟨flow, rfl, hin⟩ := hflow
  exact (ofFields_eq_legacy_iff h').mpr ⟨hmissing', hin.of_same hsame⟩

/-- An object is a graph exactly if it has a list of blocks with something in it, all of which can
be read. It is a flow of sections exactly if it has none and the sections can be read; then nothing
matters but what the sections know of. A failure is put down to the blocks exactly if they are
neither nothing nor a list of blocks. Settings and connections of a block that are absent, null or
empty are read alike. -/
theorem ofValue_object_outcome (fields : Fields) (h : (Value.object fields).Distinct) :
    (∀ blocks, ofValue (.object fields) = .ok (.graph blocks) ↔
      ∃ items, fields.get? "blocks" = some (.array items) ∧ items ≠ [] ∧
        List.Forall₂ Block.StoredAs items blocks) ∧
    (∀ flow, ofValue (.object fields) = .ok (.legacy flow) ↔
      Missing (.array []) (fields.get? "blocks") ∧ LegacyFlow.In fields flow) ∧
    ((∃ cause, ofValue (.object fields) = .error (.blocks cause)) ↔
      BadBlocks (fields.get? "blocks")) ∧
    ((∃ cause, ofValue (.object fields) = .error (.legacy cause)) ↔
      Missing (.array []) (fields.get? "blocks") ∧ ∀ flow, ¬ LegacyFlow.In fields flow) ∧
    (∀ e, ofValue (.object fields) = .error e →
      (∃ cause, e = .blocks cause) ∨ ∃ cause, e = .legacy cause) ∧
    (∀ fields' : Fields, (Value.object fields').Distinct →
      Missing (.array []) (fields.get? "blocks") → Missing (.array []) (fields'.get? "blocks") →
      SameSections fields fields' →
      ∀ f, ofValue (.object fields) = .ok f ↔ ofValue (.object fields') = .ok f) ∧
    (∀ v w parts parts', v.Distinct → w.Distinct →
      Parts Block.names v parts → Parts Block.names w parts' → AlikeBlocks parts parts' →
      ∀ b, Block.ofJson v = .ok b ↔ Block.ofJson w = .ok b) := by
  refine ⟨fun blocks => ofFields_eq_graph_iff h, fun flow => ofFields_eq_legacy_iff h,
    exists_ofFields_eq_blocks_error_iff h, exists_ofFields_eq_legacy_error_iff h,
    fun e => ofFields_error_cases, fun fields' h' hmissing hmissing' hsame f => ?_,
    fun v w parts parts' => Block.ofJson_alike⟩
  exact ⟨ofFields_of_sameSections h h' hmissing hmissing' hsame,
    ofFields_of_sameSections h' h hmissing' hmissing hsame.symm⟩

def mixed : Fields := [
  ("blocks", .array [.object [("config", .null), ("id", .string "a"), ("type", .string "say")]]),
  ("menu", .number (.int 5))]

theorem ofValue_object_outcome_mixed :
    (Value.object mixed).Distinct ∧
      ofValue (.object mixed) = .ok (.graph [⟨"a", "say", [], [], none⟩]) := by
  have hdistinct : (Value.object mixed).Distinct := by
    have hblock : (Value.object
        [("config", .null), ("id", .string "a"), ("type", .string "say")]).Distinct :=
      .object (by decide) (by simp [Value.Throughout.null, Value.Throughout.string])
    exact .object (by decide) (List.forall_mem_cons.mpr
      ⟨.array (List.forall_mem_singleton.mpr hblock), List.forall_mem_singleton.mpr (.number _)⟩)
  refine ⟨hdistinct, ((ofValue_object_outcome mixed hdistinct).1 _).mpr
    ⟨_, rfl, by simp, .cons ⟨_, .object _, ?_⟩ .nil⟩⟩
  exact ⟨.present (.text _), .present (.text _), ⟨none, .null, rfl⟩, ⟨none, .absent, rfl⟩, .absent⟩

end Flow
end CallFlow
