import CallFlow.Proofs.Json.Ordered
import Mathlib.Data.List.Nodup
import Mathlib.Data.List.Forall2

/-!
# Records by their parts

A record is filled in the order in which its values come, but what it is filled with does not depend
on that order: each part is what is read of the value of its name, or stays as it is at the start if
there is no such value. A list of values is read like the object that has them behind the names of
the record.
-/

namespace CallFlow.Json
set_option autoImplicit false

structure Slot (σ : Type) where
  name : String
  presence : Presence
  {α : Type}
  read : Value → Except Mismatch α
  get : σ → α
  put : α → σ → σ

/-- What a record says of a part whose value is there or missing. -/
def Slot.Holds {σ : Type} (s : Slot σ) (start : σ) : Option Value → σ → Prop
  | some v, r => s.read v = .ok (s.get r)
  | none, r => s.presence ≠ .required ∧ s.get r = s.get start

structure Member.Fills {σ : Type} (f : Member σ) (s : Slot σ) : Prop where
  name : f.name = s.name
  presence : f.presence = s.presence
  aliases : f.aliases = []
  ofValue : ∀ v r, f.ofValue v r = (s.read v).map (s.put · r)

theorem Member.fills_scalar {σ α : Type} {name : String} {presence : Presence}
    {read : Head → Except Mismatch α} {get : σ → α} {put : α → σ → σ} :
    (Member.scalar name presence read put).Fills
      ⟨name, presence, fun v => read v.head, get, put⟩ :=
  ⟨rfl, rfl, rfl, fun _ _ => rfl⟩

theorem Member.fills_whole {σ α : Type} {name : String} {presence : Presence}
    {read : Value → Except Mismatch α} {get : σ → α} {put : α → σ → σ} :
    (Member.whole name presence read put).Fills ⟨name, presence, read, get, put⟩ :=
  ⟨rfl, rfl, rfl, fun _ _ => rfl⟩

/-- A member that stands for something of its own where null is read. -/
theorem Member.fills_default {σ α : Type} {name : String} {presence : Presence} {default : α}
    {read : Value → Except Mismatch (Option α)} {get : σ → α} (put : α → σ → σ) :
    (Member.whole name presence read fun o => put (o.getD default)).Fills
      ⟨name, presence, fun v => (read v).map (·.getD default), get, put⟩ := by
  refine ⟨rfl, rfl, rfl, fun v r => ?_⟩
  change (read v).map _ = ((read v).map _).map _
  cases read v <;> rfl

/-- The members of a record fill parts that make it up and do not touch one another. -/
structure Shape.MadeOf {σ : Type} (shape : Shape σ) (slots : List (Slot σ)) : Prop where
  fills : List.Forall₂ Member.Fills shape.fields slots
  distinct : (slots.map (·.name)).Nodup
  get_put : ∀ s ∈ slots, ∀ a r, s.get (s.put a r) = a
  get_put_of_ne : ∀ s ∈ slots, ∀ t ∈ slots, s.name ≠ t.name → ∀ a r, s.get (t.put a r) = s.get r
  ext : ∀ r r', (∀ s ∈ slots, s.get r = s.get r') → r = r'

/-- The values of a record by their names: the fields of an object, or the items of a list behind
the names in their order. -/
inductive Parts (names : List String) : Value → Fields → Prop
  | object (fields : Fields) : Parts names (.object fields) fields
  | list (items : List Value) : items.length ≤ names.length →
      Parts names (.array items) (names.zip items)

variable {σ : Type} {shape : Shape σ} {slots : List (Slot σ)} {fields : Fields}
variable {seen : List String} {name : String} {v : Value} {r r' : σ}

theorem exists_of_mem_forall₂ {α β : Type*} {R : α → β → Prop} {as : List α} {bs : List β}
    (h : List.Forall₂ R as bs) {a : α} (ha : a ∈ as) : ∃ b ∈ bs, R a b := by
  induction h with
  | nil => cases ha
  | cons hfirst _ ih =>
    rcases List.mem_cons.mp ha with rfl | ha
    · exact ⟨_, List.mem_cons_self, hfirst⟩
    · obtain ⟨b, hb, hab⟩ := ih ha
      exact ⟨b, List.mem_cons_of_mem _ hb, hab⟩

theorem sublist_map_fst_zip {α β : Type*} (as : List α) (bs : List β) :
    ((as.zip bs).map Prod.fst).Sublist as := by
  induction as generalizing bs with
  | nil => exact .slnil
  | cons a as ih =>
    cases bs with
    | nil => exact List.nil_sublist _
    | cons b bs => exact (ih bs).cons_cons a

theorem Parts.unique {names : List String} {parts parts' : Fields} (h : Parts names v parts)
    (h' : Parts names v parts') : parts = parts' := by
  cases h <;> cases h' <;> rfl

namespace Shape

theorem closeList_eq_ok_iff {index : Nat} {fs : List (Member σ)} :
    shape.closeList index r fs = .ok r' ↔ r = r' ∧ ∀ f ∈ fs, f.presence = .defaulted := by
  induction fs generalizing index with
  | nil => simp [closeList]
  | cons f fs ih =>
    rw [closeList, List.forall_mem_cons]
    split
    next h => rw [ih, and_iff_right h]
    next h => simp [h]

theorem finish_eq_ok_iff :
    shape.finish seen r = .ok r' ↔
      r = r' ∧ ∀ f ∈ shape.fields, f.presence = .required → f.name ∈ seen := by
  unfold finish
  split
  next f hf =>
    have hmissing := List.find?_some hf
    simp only [Bool.and_eq_true, beq_iff_eq, Bool.not_eq_true', List.contains_eq_mem,
      decide_eq_false_iff_not] at hmissing
    simp only [reduceCtorEq, false_iff, not_and]
    exact fun _ h => hmissing.2 (h f (List.mem_of_find?_eq_some hf) hmissing.1)
  next hnone =>
    simp only [Except.ok.injEq, iff_self_and]
    intro _ f hf hrequired
    simpa [hrequired] using List.find?_eq_none.mp hnone f hf

namespace MadeOf

variable (h : shape.MadeOf slots)
include h

/-! Members and parts. -/

theorem names_eq : shape.fields.map (·.name) = slots.map (·.name) := by
  rw [← List.forall₂_eq_eq_eq, List.forall₂_map_left_iff, List.forall₂_map_right_iff]
  exact h.fills.imp fun _ _ hfs => hfs.name

theorem eq_of_member_name {f g : Member σ} (hf : f ∈ shape.fields) (hg : g ∈ shape.fields)
    (hname : f.name = g.name) : f = g :=
  List.inj_on_of_nodup_map (h.names_eq ▸ h.distinct) hf hg hname

theorem exists_slot {f : Member σ} (hf : f ∈ shape.fields) : ∃ s ∈ slots, f.Fills s :=
  exists_of_mem_forall₂ h.fills hf

theorem eq_of_name {s t : Slot σ} (hs : s ∈ slots) (ht : t ∈ slots) (hname : s.name = t.name) :
    s = t :=
  List.inj_on_of_nodup_map h.distinct hs ht hname

theorem exists_member {s : Slot σ} (hs : s ∈ slots) : ∃ f ∈ shape.fields, f.Fills s := by
  have hname : s.name ∈ shape.fields.map (·.name) := h.names_eq ▸ List.mem_map_of_mem hs
  obtain ⟨f, hf, hfs⟩ := List.mem_map.mp hname
  obtain ⟨t, ht, hft⟩ := h.exists_slot hf
  obtain rfl := h.eq_of_name ht hs (hft.name.symm.trans hfs)
  exact ⟨f, hf, hft⟩

theorem answersTo_iff {f : Member σ} (hf : f ∈ shape.fields) :
    f.answersTo name = true ↔ f.name = name := by
  obtain ⟨s, -, hfs⟩ := h.exists_slot hf
  simp [Member.answersTo, hfs.aliases]

theorem field?_cases (name : String) :
    (shape.field? name = none ∧ ∀ s ∈ slots, s.name ≠ name) ∨
    ∃ f s, shape.field? name = some f ∧ s ∈ slots ∧ f.Fills s ∧ s.name = name := by
  cases hfield : shape.field? name with
  | none =>
    refine .inl ⟨rfl, fun s hs hname => ?_⟩
    obtain ⟨f, hf, hfs⟩ := h.exists_member hs
    exact List.find?_eq_none.mp hfield f hf ((h.answersTo_iff hf).mpr (hfs.name.trans hname))
  | some f =>
    have hf := List.mem_of_find?_eq_some hfield
    obtain ⟨s, hs, hfs⟩ := h.exists_slot hf
    have hanswers : f.answersTo name = true :=
      List.find?_some (p := fun f : Member σ => f.answersTo name) hfield
    have hname := (h.answersTo_iff hf).mp hanswers
    exact .inr ⟨f, s, rfl, hs, hfs, hfs.name.symm.trans hname⟩

theorem field?_eq_some {f : Member σ} (hf : f ∈ shape.fields) : shape.field? f.name = some f := by
  obtain ⟨s, hs, hfs⟩ := h.exists_slot hf
  rcases h.field?_cases f.name with ⟨-, hnone⟩ | ⟨g, t, hg, -, hgt, hname⟩
  · exact absurd hfs.name.symm (hnone s hs)
  · rw [hg, h.eq_of_member_name (List.mem_of_find?_eq_some hg) hf (hgt.name.trans hname)]

theorem finish_eq_ok_iff :
    shape.finish seen r = .ok r' ↔
      ∀ s ∈ slots, (s.presence = .required → s.name ∈ seen) ∧ s.get r' = s.get r := by
  rw [Shape.finish_eq_ok_iff]
  constructor
  · rintro ⟨rfl, hseen⟩ s hs
    obtain ⟨f, hf, hfs⟩ := h.exists_member hs
    refine ⟨fun hrequired => ?_, rfl⟩
    rw [← hfs.name]
    exact hseen f hf (hfs.presence.trans hrequired)
  · intro hall
    refine ⟨(h.ext r' r fun s hs => (hall s hs).2).symm, fun f hf hrequired => ?_⟩
    obtain ⟨s, hs, hfs⟩ := h.exists_slot hf
    rw [hfs.name]
    exact (hall s hs).1 (hfs.presence.symm.trans hrequired)

/-- What filling does: a part whose name comes is read, and the others stay as they are. -/
theorem fill_eq_ok_iff (hnames : fields.Distinct)
    (hnew : ∀ name ∈ fields.map Prod.fst, name ∉ seen) :
    shape.fill seen r fields = .ok r' ↔
      ∀ s ∈ slots, match fields.get? s.name with
        | some v => s.read v = .ok (s.get r')
        | none => (s.presence = .required → s.name ∈ seen) ∧ s.get r' = s.get r := by
  induction fields generalizing seen r with
  | nil => exact h.finish_eq_ok_iff
  | cons field rest ih =>
    obtain ⟨name, v⟩ := field
    obtain ⟨hname, hrest⟩ := List.nodup_cons.mp hnames
    obtain ⟨hfirst, hbehind⟩ := List.forall_mem_cons.mp hnew
    rw [fill]
    rcases h.field?_cases name with ⟨hnone, hother⟩ | ⟨f, s₀, hfield, hs₀, hfills, rfl⟩
    · rw [hnone]
      dsimp only
      rw [ih hrest hbehind]
      refine forall₂_congr fun s hs => ?_
      rw [Fields.get?_cons_of_ne (hother s hs)]
    · have hunseen : seen.contains f.name = false := by
        simpa [hfills.name] using hfirst
      rw [hfield]
      simp only [hunseen, hfills.ofValue, Bool.false_eq_true, if_false]
      cases hread : s₀.read v with
      | error e =>
        refine iff_of_false (by simp [Except.map, bind, Except.bind]) fun hall => ?_
        have hs := hall s₀ hs₀
        rw [Fields.get?_cons_self] at hs
        simp [hread] at hs
      | ok a =>
        have hstep : ((Except.ok a).map (s₀.put · r) >>= fun r =>
            shape.fill (f.name :: seen) r rest) = shape.fill (f.name :: seen) (s₀.put a r) rest :=
          rfl
        have hnew' : ∀ other ∈ rest.map Prod.fst, other ∉ f.name :: seen := by
          intro other hmem hseen
          rcases List.mem_cons.mp hseen with rfl | hseen
          · exact hname (hfills.name ▸ hmem)
          · exact hbehind other hmem hseen
        rw [hstep, ih hrest hnew']
        refine forall₂_congr fun s hs => ?_
        by_cases heq : s.name = s₀.name
        · obtain rfl := h.eq_of_name hs hs₀ heq
          rw [Fields.get?_eq_none hname, Fields.get?_cons_self]
          dsimp only
          rw [h.get_put s hs, hread, hfills.name]
          simp [eq_comm]
        · rw [Fields.get?_cons_of_ne heq, h.get_put_of_ne s hs s₀ hs₀ heq, hfills.name]
          simp only [List.mem_cons, heq, false_or]

theorem ofFields_eq_ok_iff (hnames : fields.Distinct) :
    shape.ofFields fields = .ok r ↔
      ∀ s ∈ slots, s.Holds shape.start (fields.get? s.name) r := by
  rw [ofFields, h.fill_eq_ok_iff hnames fun _ _ => List.not_mem_nil]
  refine forall₂_congr fun s _ => ?_
  cases fields.get? s.name <;> simp [Slot.Holds]

/-- A list is read like the object that names its items, as long as there are names. -/
theorem fillInOrder_eq_ok_iff {before fs : List (Member σ)} (hsplit : shape.fields = before ++ fs)
    (hlisted : ∀ s ∈ slots, s.presence ≠ .nullable)
    (hseen : ∀ f ∈ shape.fields, f.name ∈ seen ↔ f ∉ fs) (index : Nat) (items : List Value) :
    shape.fillInOrder index r fs items = .ok r' ↔
      items.length ≤ fs.length ∧
        shape.fill seen r ((fs.map (·.name)).zip items) = .ok r' := by
  induction fs generalizing before seen r index items with
  | nil =>
    cases items with
    | nil =>
      rw [List.map_nil, List.zip_nil_left, fill, Shape.finish_eq_ok_iff]
      simp only [fillInOrder, Except.ok.injEq, List.length_nil, le_refl, true_and, iff_self_and]
      exact fun _ f hf _ => (hseen f hf).mpr List.not_mem_nil
    | cons item items => simp [fillInOrder]
  | cons f fs ih =>
    have hf : f ∈ shape.fields := by simp [hsplit]
    cases items with
    | nil =>
      have hnil : shape.fillInOrder index r (f :: fs) [] = shape.closeList index r (f :: fs) := by
        simp [fillInOrder]
      rw [hnil, closeList_eq_ok_iff, List.zip_nil_right, fill, Shape.finish_eq_ok_iff]
      simp only [List.length_nil, Nat.zero_le, true_and]
      refine and_congr_right fun _ => ⟨fun hall g hg hrequired => ?_, fun hall g hg => ?_⟩
      · refine (hseen g hg).mpr fun hmem => ?_
        exact absurd (hrequired.symm.trans (hall g hmem)) (by decide)
      · have hmem : g ∈ shape.fields := hsplit ▸ List.mem_append_right before hg
        obtain ⟨s, hs, hgs⟩ := h.exists_slot hmem
        have hrequired : g.presence ≠ .required := fun hrequired =>
          (hseen g hmem).mp (hall g hmem hrequired) hg
        have hnullable : g.presence ≠ .nullable := hgs.presence ▸ hlisted s hs
        cases hpresence : g.presence <;> first | rfl | contradiction
    | cons item items =>
      have hunseen : seen.contains f.name = false := by
        have hnot : f.name ∉ seen := fun hmem => (hseen f hf).mp hmem List.mem_cons_self
        simpa using hnot
      have hbehind : f ∉ fs := by
        have hdistinct : (shape.fields.map (·.name)).Nodup := h.names_eq ▸ h.distinct
        have hnodup := hdistinct.of_map
        rw [hsplit] at hnodup
        exact (List.nodup_cons.mp hnodup.of_append_right).1
      rw [fillInOrder, List.map_cons, List.zip_cons_cons, fill, h.field?_eq_some hf]
      simp only [hunseen, Bool.false_eq_true, if_false, List.length_cons, Nat.succ_le_succ_iff]
      cases f.ofValue item r with
      | error e => simp [bind, Except.bind]
      | ok next =>
        have hbefore : shape.fields = (before ++ [f]) ++ fs := by rw [hsplit, List.append_cons]
        refine ih hbefore (fun g hg => ?_) (index + 1) items
        rw [List.mem_cons, hseen g hg, List.mem_cons, not_or]
        constructor
        · rintro (heq | ⟨-, hnot⟩)
          · rwa [h.eq_of_member_name hg hf heq]
          · exact hnot
        · intro hnot
          by_cases heq : g = f
          · exact .inl (congrArg Member.name heq)
          · exact .inr ⟨heq, hnot⟩

theorem ofItems_eq_ok_iff (hlisted : ∀ s ∈ slots, s.presence ≠ .nullable) (items : List Value) :
    shape.ofItems items = .ok r ↔
      items.length ≤ slots.length ∧
        shape.ofFields ((slots.map (·.name)).zip items) = .ok r := by
  have hseen : ∀ f ∈ shape.fields, f.name ∈ ([] : List String) ↔ f ∉ shape.fields :=
    fun f hf => iff_of_false List.not_mem_nil (not_not.mpr hf)
  rw [ofItems, h.fillInOrder_eq_ok_iff (List.nil_append _).symm hlisted hseen, h.names_eq,
    h.fills.length_eq]
  rfl

/-- A record is read from a value exactly if each part is what its value says. -/
theorem ofValue_eq_ok_iff (hlisted : ∀ s ∈ slots, s.presence ≠ .nullable)
    (hnames : ∀ fields, v = .object fields → Fields.Distinct fields) :
    shape.ofValue v = .ok r ↔ ∃ parts, Parts (slots.map (·.name)) v parts ∧
      ∀ s ∈ slots, s.Holds shape.start (parts.get? s.name) r := by
  cases v with
  | object fields =>
    rw [ofValue, h.ofFields_eq_ok_iff (hnames fields rfl)]
    constructor
    · exact fun hall => ⟨fields, .object fields, hall⟩
    · rintro ⟨parts, ⟨⟩, hall⟩
      exact hall
  | array items =>
    have hzip : Fields.Distinct ((slots.map (·.name)).zip items) :=
      h.distinct.sublist (sublist_map_fst_zip _ _)
    rw [ofValue, h.ofItems_eq_ok_iff hlisted, h.ofFields_eq_ok_iff hzip]
    constructor
    · rintro ⟨hlength, hall⟩
      exact ⟨_, .list items (by rwa [List.length_map]), hall⟩
    · rintro ⟨parts, ⟨⟩, hall⟩
      next hlength => exact ⟨by rwa [List.length_map] at hlength, hall⟩
  | null => exact iff_of_false nofun (by rintro ⟨parts, ⟨⟩, -⟩)
  | bool b => exact iff_of_false nofun (by rintro ⟨parts, ⟨⟩, -⟩)
  | number n => exact iff_of_false nofun (by rintro ⟨parts, ⟨⟩, -⟩)
  | string text => exact iff_of_false nofun (by rintro ⟨parts, ⟨⟩, -⟩)

end MadeOf
end Shape
end CallFlow.Json
