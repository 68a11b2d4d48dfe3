import CallFlow.Flow.Json
import CallFlow.Proofs.Json.Record

/-!
# What a stored definition says

Blocks and sections are read leniently: null stands for a part that is left out, a number for its
text, a list for a record. This module says what a value stands for without the reader, and that the
reader accepts exactly the values that stand for something, as long as no object has a name twice.
-/

namespace CallFlow
set_option autoImplicit false

open Json (Fields Member Mismatch Number Parts Shape Slot Value)

namespace Stored

inductive Text : Value → String → Prop
  | text (s : String) : Text (.string s) s

/-- A number stands for its text. -/
inductive TextOrNumber : Value → String → Prop
  | text (s : String) : TextOrNumber (.string s) s
  | number (n : Number) : TextOrNumber (.number n) (String.ofList n.text)

inductive Texts : Value → List String → Prop
  | list (texts : List String) : Texts (.array (texts.map .string)) texts

inductive Real : Value → Binary64 → Prop
  | number {n : Number} {x : Binary64} : n.toBinary64? = some x → Real (.number n) x

inductive Object : Value → Fields → Prop
  | object (fields : Fields) : Object (.object fields) fields

variable {α : Type}

inductive Required (R : Value → α → Prop) : Option Value → α → Prop
  | present {v : Value} {a : α} : R v a → Required R (some v) a

inductive Optional (R : Value → α → Prop) : Option Value → Option α → Prop
  | absent : Optional R none none
  | null : Optional R (some .null) none
  | present {v : Value} {a : α} : R v a → Optional R (some v) (some a)

/-- What stands for something of its own where it is left out. -/
def Defaulted (R : Value → α → Prop) (default : α) (v : Option Value) (a : α) : Prop :=
  ∃ o, Optional R v o ∧ a = o.getD default

def Record (names : List String) (R : Fields → α → Prop) (v : Value) (a : α) : Prop :=
  ∃ parts, Parts names v parts ∧ R parts a

end Stored

open Stored

structure Position.In (parts : Fields) (p : Position) : Prop where
  x : Required Real (parts.get? "x") p.x
  y : Required Real (parts.get? "y") p.y

def Position.names : List String := ["x", "y"]

def Position.StoredAs : Value → Position → Prop := Record Position.names Position.In

structure Block.In (parts : Fields) (b : Block) : Prop where
  id : Required Text (parts.get? "id") b.id
  kindName : Required Text (parts.get? "type") b.kindName
  config : Defaulted Object [] (parts.get? "config") b.config
  connections : Defaulted Texts [] (parts.get? "connections") b.connections
  position : Optional Position.StoredAs (parts.get? "position") b.position

def Block.names : List String := ["id", "type", "config", "connections", "position"]

def Block.StoredAs : Value → Block → Prop := Record Block.names Block.In

structure LegacyMenu.In (parts : Fields) (m : LegacyMenu) : Prop where
  prompt : Optional TextOrNumber (parts.get? "prompt") m.prompt
  options : m.options = (parts.get? "options").getD .null
  action : Optional Text (parts.get? "action") m.action

def LegacyMenu.names : List String := ["prompt", "options", "action"]

def LegacyMenu.StoredAs : Value → LegacyMenu → Prop := Record LegacyMenu.names LegacyMenu.In

structure LegacyVoicemail.In (parts : Fields) (m : LegacyVoicemail) : Prop where
  prompt : Optional TextOrNumber (parts.get? "prompt") m.prompt
  callback : Optional Text (parts.get? "callback") m.callback

def LegacyVoicemail.names : List String := ["prompt", "callback"]

def LegacyVoicemail.StoredAs : Value → LegacyVoicemail → Prop :=
  Record LegacyVoicemail.names LegacyVoicemail.In

structure LegacyForward.In (parts : Fields) (f : LegacyForward) : Prop where
  number : Optional TextOrNumber (parts.get? "number") f.number

def LegacyForward.names : List String := ["number"]

def LegacyForward.StoredAs : Value → LegacyForward → Prop :=
  Record LegacyForward.names LegacyForward.In

structure LegacyFlow.In (parts : Fields) (f : LegacyFlow) : Prop where
  greeting : Optional TextOrNumber (parts.get? "greeting") f.greeting
  menu : Optional LegacyMenu.StoredAs (parts.get? "menu") f.menu
  voicemail : Optional LegacyVoicemail.StoredAs (parts.get? "voicemail") f.voicemail
  forward : Optional LegacyForward.StoredAs (parts.get? "forward") f.forward

/-! Reading values. -/

section Values
variable {α : Type} {R : Value → α → Prop} {v : Value}

theorem mapM_eq_ok_iff {β ε : Type} {f : β → Except ε α} {bs : List β} {as : List α} :
    bs.mapM f = .ok as ↔ List.Forall₂ (fun b a => f b = .ok a) bs as := by
  induction bs generalizing as with
  | nil => simp [pure, Except.pure, eq_comm]
  | cons b bs ih =>
    rw [List.mapM_cons, List.forall₂_cons_left_iff]
    cases hb : f b with
    | error e => simp [bind, Except.bind]
    | ok a =>
      cases hbs : bs.mapM f with
      | error e =>
        have hnone : ∀ as, ¬ List.Forall₂ (fun b a => f b = .ok a) bs as :=
          fun as has => by simp [ih.mpr has] at hbs
        simp [bind, Except.bind, hnone]
      | ok rest =>
        have hrest (tail : List α) :
            List.Forall₂ (fun b a => f b = .ok a) bs tail ↔ rest = tail := by
          rw [← ih, hbs, Except.ok.injEq]
        simp [bind, Except.bind, pure, Except.pure, hrest, eq_comm]

theorem asString_eq_ok_iff {s : String} : v.asString = .ok s ↔ Text v s := by
  constructor
  · intro h
    cases v <;> cases h
    exact .text _
  · rintro ⟨s⟩
    rfl

theorem asReal_eq_ok_iff {x : Binary64} : v.asReal = .ok x ↔ Real v x := by
  constructor
  · intro h
    cases v with
    | number n =>
      simp only [Value.asReal, Value.head, Json.Head.asReal] at h
      split at h
      next y hy =>
        cases h
        exact .number hy
      next => cases h
    | _ => cases h
  · rintro ⟨hx⟩
    simp only [Value.asReal, Value.head, Json.Head.asReal, hx]

theorem asFields_eq_ok_iff {fields : Fields} : v.asFields = .ok fields ↔ Object v fields := by
  constructor
  · intro h
    cases v <;> cases h
    exact .object _
  · rintro ⟨fields⟩
    rfl

theorem asTexts_eq_ok_iff {texts : List String} :
    v.asList Value.asString = .ok texts ↔ Texts v texts := by
  constructor
  · intro h
    cases v with
    | array items =>
      have hall := (mapM_eq_ok_iff.mp h).imp fun _ _ => asString_eq_ok_iff.mp
      have hitems : items = texts.map .string := by
        clear h
        induction hall with
        | nil => rfl
        | cons hfirst _ ih =>
          cases hfirst
          rw [ih, List.map_cons]
      rw [hitems]
      exact .list texts
    | _ => cases h
  · rintro ⟨texts⟩
    refine mapM_eq_ok_iff.mpr (List.forall₂_map_left_iff.mpr ?_)
    exact List.forall₂_same.mpr fun _ _ => rfl

theorem asOptionalText_eq_ok_iff {o : Option String} :
    asOptionalText v = .ok o ↔ Optional TextOrNumber (some v) o := by
  constructor
  · intro h
    cases v with
    | null =>
      cases h
      exact .null
    | string s =>
      cases h
      exact .present (.text s)
    | number n =>
      cases h
      exact .present (.number n)
    | _ => cases h
  · rintro (_ | _ | ⟨⟨⟩⟩) <;> rfl

theorem orNull_eq_ok_iff {read : Value → Except Mismatch α} (hnull : ∀ a, ¬ R .null a)
    (hread : ∀ a, read v = .ok a ↔ R v a) {o : Option α} :
    Value.orNull read v = .ok o ↔ Optional R (some v) o := by
  by_cases hv : v = .null
  · subst hv
    constructor
    · rintro ⟨⟩
      exact .null
    · rintro (_ | _ | h)
      · rfl
      · exact absurd h (hnull _)
  · have hpresent : Value.orNull read v = (read v).map some := by
      cases v <;> first | rfl | contradiction
    rw [hpresent]
    constructor
    · intro h
      cases ha : read v with
      | error e => simp [ha, Except.map] at h
      | ok a =>
        rw [ha] at h
        cases h
        exact .present ((hread a).mp ha)
    · rintro (_ | _ | h)
      · exact absurd rfl hv
      · rw [(hread _).mpr h]
        rfl

end Values

/-! Parts of a record. -/

section Holding
variable {α σ : Type} {R : Value → α → Prop} {v : Option Value} {name : String} {start r : σ}
variable {put : α → σ → σ}

theorem holds_required_iff {read : Value → Except Mismatch α} {get : σ → α}
    (hread : ∀ w, v = some w → ∀ a, read w = .ok a ↔ R w a) :
    Slot.Holds ⟨name, .required, read, get, put⟩ start v r ↔ Required R v (get r) := by
  cases v with
  | none => exact iff_of_false (fun h => h.1 rfl) nofun
  | some w =>
    refine (hread w rfl _).trans ⟨.present, ?_⟩
    rintro ⟨h⟩
    exact h

theorem holds_optional_iff {read : Value → Except Mismatch (Option α)} {get : σ → Option α}
    {put : Option α → σ → σ} (hstart : get start = none)
    (hread : ∀ w, v = some w → ∀ o, read w = .ok o ↔ Optional R (some w) o) :
    Slot.Holds ⟨name, .defaulted, read, get, put⟩ start v r ↔ Optional R v (get r) := by
  cases v with
  | none =>
    simp only [Slot.Holds, hstart, ne_eq, reduceCtorEq, not_false_eq_true, true_and]
    generalize get r = o
    constructor
    · rintro rfl
      exact .absent
    · rintro ⟨⟩
      rfl
  | some w => exact hread w rfl _

theorem holds_defaulted_iff (default : α) {read : Value → Except Mismatch (Option α)}
    {get : σ → α} (hstart : get start = default)
    (hread : ∀ w, v = some w → ∀ o, read w = .ok o ↔ Optional R (some w) o) :
    Slot.Holds ⟨name, .defaulted, fun w => (read w).map (·.getD default), get, put⟩ start v r ↔
      Defaulted R default v (get r) := by
  cases v with
  | none =>
    constructor
    · exact fun h => ⟨none, .absent, h.2.trans hstart⟩
    · rintro ⟨o, ⟨⟩, h⟩
      exact ⟨nofun, h.trans hstart.symm⟩
  | some w =>
    have hsome := hread w rfl
    constructor
    · intro h
      cases ho : read w with
      | error e => simp [Slot.Holds, ho, Except.map] at h
      | ok o =>
        simp only [Slot.Holds, ho, Except.map, Except.ok.injEq] at h
        exact ⟨o, (hsome o).mp ho, h.symm⟩
    · rintro ⟨o, ho, h⟩
      simp only [Slot.Holds, (hsome o).mpr ho, Except.map, h]

end Holding

theorem not_record_null {α : Type} {names : List String} {R : Fields → α → Prop} (a : α) :
    ¬ Record names R .null a := by
  rintro ⟨parts, ⟨⟩, -⟩

theorem Json.Parts.throughout {P : Fields → Prop} {names : List String} {v : Value}
    {parts : Fields} (h : Parts names v parts) (hv : v.Throughout P) {name : String} {w : Value}
    (hget : parts.get? name = some w) : w.Throughout P := by
  cases h with
  | object fields => exact hv.get? hget
  | list items hlength => exact hv.mem (List.of_mem_zip (Fields.mem_of_get? hget)).2

/-! Records. -/

variable {v : Value} {parts fields : Fields}

/-- A record is read from what its parts are read from. -/
theorem Json.Shape.MadeOf.ofValue_record_iff {σ : Type} {shape : Shape σ} {slots : List (Slot σ)}
    {R : Fields → σ → Prop} {r : σ} (h : shape.MadeOf slots)
    (hlisted : ∀ s ∈ slots, s.presence ≠ .nullable) (hv : v.Distinct)
    (hholds : ∀ parts, (∀ name w, parts.get? name = some w → w.Distinct) →
      ((∀ s ∈ slots, s.Holds shape.start (parts.get? s.name) r) ↔ R parts r)) :
    shape.ofValue v = .ok r ↔ Record (slots.map (·.name)) R v r := by
  rw [h.ofValue_eq_ok_iff hlisted fun fields hfields => (hfields ▸ hv).here]
  exact exists_congr fun parts => and_congr_right fun hparts =>
    hholds parts fun name w => hparts.throughout hv

namespace Position

def slots : List (Slot Position) := [
  ⟨"x", .required, Value.asReal, (·.x), fun x p => { p with x := x }⟩,
  ⟨"y", .required, Value.asReal, (·.y), fun y p => { p with y := y }⟩]

theorem madeOf : Position.shape.MadeOf slots where
  fills := .cons Member.fills_scalar (.cons Member.fills_scalar .nil)
  distinct := by decide
  get_put := by simp [slots]
  get_put_of_ne := by simp [slots]
  ext p q h := by
    simp only [slots, List.forall_mem_cons, List.not_mem_nil, false_imp_iff, implies_true] at h
    obtain ⟨hx, hy, -⟩ := h
    cases p
    cases q
    congr

theorem ofValue_eq_ok_iff {p : Position} (hv : v.Distinct) :
    Position.shape.ofValue v = .ok p ↔ Position.StoredAs v p := by
  refine madeOf.ofValue_record_iff (by simp [slots]) hv fun parts _ => ?_
  simp only [slots, List.forall_mem_cons, List.not_mem_nil, false_imp_iff, implies_true, and_true]
  rw [holds_required_iff fun _ _ _ => asReal_eq_ok_iff,
    holds_required_iff fun _ _ _ => asReal_eq_ok_iff]
  exact ⟨fun ⟨hx, hy⟩ => ⟨hx, hy⟩, fun h => ⟨h.x, h.y⟩⟩

end Position

namespace Block

def slots : List (Slot Block) := [
  ⟨"id", .required, Value.asString, (·.id), fun s b => { b with id := s }⟩,
  ⟨"type", .required, Value.asString, (·.kindName), fun s b => { b with kindName := s }⟩,
  ⟨"config", .defaulted, fun v => (Value.orNull Value.asFields v).map (·.getD []), (·.config),
    fun fields b => { b with config := fields }⟩,
  ⟨"connections", .defaulted,
    fun v => (Value.orNull (Value.asList Value.asString) v).map (·.getD []), (·.connections),
    fun ids b => { b with connections := ids }⟩,
  ⟨"position", .defaulted, Value.orNull Position.shape.ofValue, (·.position),
    fun p b => { b with position := p }⟩]

theorem madeOf : Block.shape.MadeOf slots where
  fills := .cons Member.fills_scalar (.cons Member.fills_scalar
    (.cons (Member.fills_default fun fields (b : Block) => { b with config := fields })
    (.cons (Member.fills_default fun ids (b : Block) => { b with connections := ids })
    (.cons Member.fills_whole .nil))))
  distinct := by decide
  get_put := by simp [slots]
  get_put_of_ne := by simp [slots]
  ext b c h := by
    simp only [slots, List.forall_mem_cons, List.not_mem_nil, false_imp_iff, implies_true] at h
    obtain ⟨hid, hkind, hconfig, hconnections, hposition, -⟩ := h
    cases b
    cases c
    congr

theorem ofJson_eq_ok_iff {b : Block} (hv : v.Distinct) :
    Block.ofJson v = .ok b ↔ Block.StoredAs v b := by
  refine madeOf.ofValue_record_iff (by simp [slots]) hv fun parts hparts => ?_
  simp only [slots, List.forall_mem_cons, List.not_mem_nil, false_imp_iff, implies_true, and_true]
  rw [holds_required_iff fun _ _ _ => asString_eq_ok_iff,
    holds_required_iff fun _ _ _ => asString_eq_ok_iff,
    holds_defaulted_iff [] rfl fun _ _ _ => orNull_eq_ok_iff nofun fun _ => asFields_eq_ok_iff,
    holds_defaulted_iff [] rfl fun _ _ _ => orNull_eq_ok_iff nofun fun _ => asTexts_eq_ok_iff,
    holds_optional_iff rfl fun w hw _ => orNull_eq_ok_iff not_record_null fun _ =>
      Position.ofValue_eq_ok_iff (hparts _ w hw)]
  exact ⟨fun ⟨hid, hkind, hconfig, hconnections, hposition⟩ =>
    ⟨hid, hkind, hconfig, hconnections, hposition⟩,
    fun h => ⟨h.id, h.kindName, h.config, h.connections, h.position⟩⟩

end Block

namespace LegacyMenu

def slots : List (Slot LegacyMenu) := [
  ⟨"prompt", .defaulted, asOptionalText, (·.prompt), fun s m => { m with prompt := s }⟩,
  ⟨"options", .defaulted, pure, (·.options), fun v m => { m with options := v }⟩,
  ⟨"action", .defaulted, Value.orNull Value.asString, (·.action),
    fun s m => { m with action := s }⟩]

theorem madeOf : LegacyMenu.shape.MadeOf slots where
  fills := .cons Member.fills_whole (.cons Member.fills_whole (.cons Member.fills_whole .nil))
  distinct := by decide
  get_put := by simp [slots]
  get_put_of_ne := by simp [slots]
  ext m n h := by
    simp only [slots, List.forall_mem_cons, List.not_mem_nil, false_imp_iff, implies_true] at h
    obtain ⟨hprompt, hoptions, haction, -⟩ := h
    cases m
    cases n
    congr

theorem holds_options_iff {v : Option Value} {put : Value → LegacyMenu → LegacyMenu}
    {m : LegacyMenu} :
    Slot.Holds ⟨"options", .defaulted, pure, (·.options), put⟩ LegacyMenu.shape.start v m ↔
      m.options = v.getD .null := by
  cases v with
  | none => exact and_iff_right nofun
  | some w => exact Except.ok.injEq .. ▸ eq_comm

theorem ofValue_eq_ok_iff {m : LegacyMenu} (hv : v.Distinct) :
    LegacyMenu.shape.ofValue v = .ok m ↔ LegacyMenu.StoredAs v m := by
  refine madeOf.ofValue_record_iff (by simp [slots]) hv fun parts _ => ?_
  simp only [slots, List.forall_mem_cons, List.not_mem_nil, false_imp_iff, implies_true, and_true]
  rw [holds_optional_iff rfl fun _ _ _ => asOptionalText_eq_ok_iff, holds_options_iff,
    holds_optional_iff rfl fun _ _ _ => orNull_eq_ok_iff nofun fun _ => asString_eq_ok_iff]
  exact ⟨fun ⟨hprompt, hoptions, haction⟩ => ⟨hprompt, hoptions, haction⟩,
    fun h => ⟨h.prompt, h.options, h.action⟩⟩

end LegacyMenu

namespace LegacyVoicemail

def slots : List (Slot LegacyVoicemail) := [
  ⟨"prompt", .defaulted, asOptionalText, (·.prompt), fun s m => { m with prompt := s }⟩,
  ⟨"callback", .defaulted, Value.orNull Value.asString, (·.callback),
    fun s m => { m with callback := s }⟩]

theorem madeOf : LegacyVoicemail.shape.MadeOf slots where
  fills := .cons Member.fills_whole (.cons Member.fills_whole .nil)
  distinct := by decide
  get_put := by simp [slots]
  get_put_of_ne := by simp [slots]
  ext m n h := by
    simp only [slots, List.forall_mem_cons, List.not_mem_nil, false_imp_iff, implies_true] at h
    obtain ⟨hprompt, hcallback, -⟩ := h
    cases m
    cases n
    congr

theorem ofValue_eq_ok_iff {m : LegacyVoicemail} (hv : v.Distinct) :
    LegacyVoicemail.shape.ofValue v = .ok m ↔ LegacyVoicemail.StoredAs v m := by
  refine madeOf.ofValue_record_iff (by simp [slots]) hv fun parts _ => ?_
  simp only [slots, List.forall_mem_cons, List.not_mem_nil, false_imp_iff, implies_true, and_true]
  rw [holds_optional_iff rfl fun _ _ _ => asOptionalText_eq_ok_iff,
    holds_optional_iff rfl fun _ _ _ => orNull_eq_ok_iff nofun fun _ => asString_eq_ok_iff]
  exact ⟨fun ⟨hprompt, hcallback⟩ => ⟨hprompt, hcallback⟩, fun h => ⟨h.prompt, h.callback⟩⟩

end LegacyVoicemail

namespace LegacyForward

def slots : List (Slot LegacyForward) := [
  ⟨"number", .defaulted, asOptionalText, (·.number), fun s f => { f with number := s }⟩]

theorem madeOf : LegacyForward.shape.MadeOf slots where
  fills := .cons Member.fills_whole .nil
  distinct := by decide
  get_put := by simp [slots]
  get_put_of_ne := by simp [slots]
  ext f g h := by
    simp only [slots, List.forall_mem_cons, List.not_mem_nil, false_imp_iff, implies_true] at h
    obtain ⟨hnumber, -⟩ := h
    cases f
    cases g
    congr

theorem ofValue_eq_ok_iff {f : LegacyForward} (hv : v.Distinct) :
    LegacyForward.shape.ofValue v = .ok f ↔ LegacyForward.StoredAs v f := by
  refine madeOf.ofValue_record_iff (by simp [slots]) hv fun parts _ => ?_
  simp only [slots, List.forall_mem_cons, List.not_mem_nil, false_imp_iff, implies_true, and_true]
  rw [holds_optional_iff rfl fun _ _ _ => asOptionalText_eq_ok_iff]
  exact ⟨fun hnumber => ⟨hnumber⟩, fun h => h.number⟩

end LegacyForward

namespace LegacyFlow

def slots : List (Slot LegacyFlow) := [
  ⟨"greeting", .defaulted, asOptionalText, (·.greeting), fun s f => { f with greeting := s }⟩,
  ⟨"menu", .defaulted, Value.orNull LegacyMenu.shape.ofValue, (·.menu),
    fun m f => { f with menu := m }⟩,
  ⟨"voicemail", .defaulted, Value.orNull LegacyVoicemail.shape.ofValue, (·.voicemail),
    fun m f => { f with voicemail := m }⟩,
  ⟨"forward", .defaulted, Value.orNull LegacyForward.shape.ofValue, (·.forward),
    fun g f => { f with forward := g }⟩]

theorem madeOf : LegacyFlow.shape.MadeOf slots where
  fills := .cons Member.fills_whole (.cons Member.fills_whole (.cons Member.fills_whole
    (.cons Member.fills_whole .nil)))
  distinct := by decide
  get_put := by simp [slots]
  get_put_of_ne := by simp [slots]
  ext f g h := by
    simp only [slots, List.forall_mem_cons, List.not_mem_nil, false_imp_iff, implies_true] at h
    obtain ⟨hgreeting, hmenu, hvoicemail, hforward, -⟩ := h
    cases f
    cases g
    congr

theorem ofFields_eq_ok_iff {f : LegacyFlow} (hv : (Value.object fields).Distinct) :
    LegacyFlow.shape.ofFields fields = .ok f ↔ LegacyFlow.In fields f := by
  rw [madeOf.ofFields_eq_ok_iff hv.here]
  simp only [slots, List.forall_mem_cons, List.not_mem_nil, false_imp_iff, implies_true, and_true]
  rw [holds_optional_iff rfl fun _ _ _ => asOptionalText_eq_ok_iff,
    holds_optional_iff rfl fun _ hw _ => orNull_eq_ok_iff not_record_null fun _ =>
      LegacyMenu.ofValue_eq_ok_iff (hv.get? hw),
    holds_optional_iff rfl fun _ hw _ => orNull_eq_ok_iff not_record_null fun _ =>
      LegacyVoicemail.ofValue_eq_ok_iff (hv.get? hw),
    holds_optional_iff rfl fun _ hw _ => orNull_eq_ok_iff not_record_null fun _ =>
      LegacyForward.ofValue_eq_ok_iff (hv.get? hw)]
  exact ⟨fun ⟨hgreeting, hmenu, hvoicemail, hforward⟩ =>
    ⟨hgreeting, hmenu, hvoicemail, hforward⟩,
    fun h => ⟨h.greeting, h.menu, h.voicemail, h.forward⟩⟩

end LegacyFlow
end CallFlow
