import CallFlow.Proofs.Json.Filled
import CallFlow.Proofs.Json.Unambiguous
import Mathlib.Data.List.Pairwise

/-!
# What a text makes of a record

A record of scalars that may all be left out is read from the text of an object exactly if each
part is given once at most, by a value of its type. What is not given stays as it is at the start.
-/

namespace CallFlow.Json
set_option autoImplicit false

variable {σ : Type} {shape : Shape σ} {slots : List (Slot σ)} {f : Member σ} {r r' : σ}
variable {seen : List String} {depth : Nat} {fields : Fields} {entries : List Entry} {e : Entry}
variable {name text : String} {v : Value}

def Entry.Spells (e : Entry) (name : String) : Prop := Json.Spells e.name.core name.toList

theorem Entry.Spells.unique {name' : String} (h : e.Spells name) (h' : e.Spells name') :
    name = name' :=
  Json.Spells.unique h h'

structure Makes (slots : List (Slot σ)) (start : σ) (entries : List Entry) (r : σ) : Prop where
  named : ∀ e ∈ entries, ∃ name, e.Spells name
  once : entries.Pairwise fun e e' => ∀ s ∈ slots, e.Spells s.name → ¬ e'.Spells s.name
  given : ∀ s ∈ slots, ∀ e ∈ entries, e.Spells s.name →
    ∃ v, Writes v e.value.core ∧ s.read v = .ok (s.get r)
  kept : ∀ s ∈ slots, (∀ e ∈ entries, ¬ e.Spells s.name) → s.get r = s.get start

/-! Fields and the entries that they are from. -/

namespace Shape.Gets
variable (h : shape.Gets entries fields)
include h

theorem named : ∀ e ∈ entries, ∃ name, e.Spells name := by
  induction h with
  | nil => exact nofun
  | known hname _ _ _ ih => exact List.forall_mem_cons.mpr ⟨⟨_, hname⟩, ih⟩
  | unknown hname _ _ ih => exact List.forall_mem_cons.mpr ⟨⟨_, hname⟩, ih⟩

theorem known_of_mem : ∀ p ∈ fields, ∃ f, shape.field? p.1 = some f := by
  induction h with
  | nil => exact nofun
  | known _ hfield _ _ ih => exact List.forall_mem_cons.mpr ⟨⟨_, hfield⟩, ih⟩
  | unknown _ _ _ ih => exact ih

theorem exists_value (he : e ∈ entries) (hname : e.Spells name)
    (hfield : shape.field? name = some f) : ∃ v, Writes v e.value.core ∧ (name, v) ∈ fields := by
  induction h with
  | nil => cases he
  | known hfirst _ hwrites _ ih =>
    rcases List.mem_cons.mp he with rfl | he
    · obtain rfl := hname.unique hfirst
      exact ⟨_, hwrites, List.mem_cons_self⟩
    · obtain ⟨v, hv, hmem⟩ := ih he
      exact ⟨v, hv, List.mem_cons_of_mem _ hmem⟩
  | unknown hfirst hnone _ ih =>
    rcases List.mem_cons.mp he with rfl | he
    · obtain rfl := hname.unique hfirst
      cases hnone.symm.trans hfield
    · exact ih he

theorem exists_entry (hname : name ∈ fields.map Prod.fst) : ∃ e ∈ entries, e.Spells name := by
  induction h with
  | nil => cases hname
  | known hfirst _ _ _ ih =>
    rcases List.mem_cons.mp hname with rfl | hname
    · exact ⟨_, List.mem_cons_self, hfirst⟩
    · obtain ⟨e, he, hspells⟩ := ih hname
      exact ⟨e, List.mem_cons_of_mem _ he, hspells⟩
  | unknown _ _ _ ih =>
    obtain ⟨e, he, hspells⟩ := ih hname
    exact ⟨e, List.mem_cons_of_mem _ he, hspells⟩

/-- A name comes twice among the fields exactly if two entries have it. -/
theorem distinct_iff : fields.Distinct ↔ entries.Pairwise fun e e' =>
    ∀ name f, shape.field? name = some f → e.Spells name → ¬ e'.Spells name := by
  induction h with
  | nil => exact iff_of_true List.nodup_nil .nil
  | @known e name f v entries fields hname hfield _ hgets ih =>
    have hfirst : name ∉ fields.map Prod.fst ↔ ∀ e' ∈ entries, ¬ e'.Spells name := by
      refine ⟨fun hnot e' he' hspells => ?_, fun hnot hmem => ?_⟩
      · obtain ⟨v, -, hv⟩ := hgets.exists_value he' hspells hfield
        exact hnot (List.mem_map_of_mem hv)
      · obtain ⟨e', he', hspells⟩ := hgets.exists_entry hmem
        exact hnot e' he' hspells
    have hname' : e.Spells name := hname
    rw [Fields.Distinct, List.map_cons, List.nodup_cons, List.pairwise_cons, hfirst]
    refine and_congr (forall₂_congr fun e' _ => ⟨fun hnot name' f' _ hspells => ?_, fun hall => ?_⟩) ih
    · rwa [hspells.unique hname']
    · exact hall name f hfield hname'
  | @unknown e name entries fields hname hnone _ ih =>
    rw [List.pairwise_cons, ih, iff_and_self]
    intro _ e' _ name' f hfield hspells
    rw [hspells.unique hname, hnone] at hfield
    cases hfield

end Shape.Gets

theorem Shape.exists_gets {P : String → Value → Prop}
    (h : ∀ e ∈ entries, ∃ name, e.Spells name ∧
      ∀ f, shape.field? name = some f → ∃ v, Writes v e.value.core ∧ P name v) :
    ∃ fields, shape.Gets entries fields ∧ ∀ p ∈ fields, P p.1 p.2 := by
  induction entries with
  | nil => exact ⟨[], .nil, nofun⟩
  | cons e entries ih =>
    obtain ⟨⟨name, hname, hvalue⟩, hothers⟩ := List.forall_mem_cons.mp h
    obtain ⟨fields, hgets, hfields⟩ := ih hothers
    cases hfield : shape.field? name with
    | none => exact ⟨fields, .unknown hname hfield hgets, hfields⟩
    | some f =>
      obtain ⟨v, hv, hP⟩ := hvalue f hfield
      exact ⟨(name, v) :: fields, .known hname hfield hv hgets,
        List.forall_mem_cons.mpr ⟨hP, hfields⟩⟩

/-! Scalars. -/

theorem Member.isScalar_of_ofValue (hf : f.RefusesBrackets) (hscalar : f.TakesScalar)
    (h : f.ofValue v r = .ok r') : v.head.IsScalar := by
  obtain ⟨read, htake⟩ := hscalar
  rw [ofValue, htake] at h
  exact hf read htake _ _ _ h

theorem Value.inOrder_of_isScalar (h : v.head.IsScalar) : v.inOrder = v := by
  cases v with
  | array items => exact absurd rfl h.1
  | object fields => exact absurd rfl h.2
  | _ => rfl

namespace Shape.MadeOf
variable (h : shape.MadeOf slots)
include h

theorem field?_eq_some_iff :
    shape.field? name = some f ↔ f ∈ shape.fields ∧ f.name = name := by
  constructor
  · intro hfield
    have hf := List.mem_of_find?_eq_some hfield
    have hanswers : f.answersTo name = true :=
      List.find?_some (p := fun f : Member σ => f.answersTo name) hfield
    exact ⟨hf, (h.answersTo_iff hf).mp hanswers⟩
  · rintro ⟨hf, rfl⟩
    exact h.field?_eq_some hf

theorem exists_record (part : (s : Slot σ) → s.α) : ∃ r, ∀ s ∈ slots, s.get r = part s := by
  have hsome : ∀ chosen : List (Slot σ), chosen ⊆ slots → (chosen.map (·.name)).Nodup →
      ∃ r, ∀ s ∈ chosen, s.get r = part s := by
    intro chosen hsub hnodup
    induction chosen with
    | nil => exact ⟨shape.start, nofun⟩
    | cons t chosen ih =>
      obtain ⟨ht, hsub⟩ := List.cons_subset.mp hsub
      obtain ⟨hnew, hnodup⟩ := List.nodup_cons.mp hnodup
      obtain ⟨r, hr⟩ := ih hsub hnodup
      refine ⟨t.put (part t) r, List.forall_mem_cons.mpr ⟨h.get_put t ht _ _, fun s hs => ?_⟩⟩
      have hne : s.name ≠ t.name := fun heq =>
        hnew (List.mem_map.mpr ⟨s, hs, heq⟩)
      rw [h.get_put_of_ne s (hsub hs) t ht hne, hr s hs]
  exact hsome slots (List.Subset.refl _) h.distinct

theorem distinct_of_fill (hknown : ∀ p ∈ fields, ∃ f, shape.field? p.1 = some f)
    (hfill : shape.fill seen r fields = .ok r') :
    fields.Distinct ∧ ∀ name ∈ fields.map Prod.fst, name ∉ seen := by
  induction fields generalizing seen r with
  | nil => exact ⟨List.nodup_nil, nofun⟩
  | cons field fields ih =>
    obtain ⟨name, v⟩ := field
    obtain ⟨⟨f, hfield⟩, hothers⟩ := List.forall_mem_cons.mp hknown
    obtain ⟨-, rfl⟩ := h.field?_eq_some_iff.mp hfield
    rw [fill, hfield] at hfill
    dsimp only at hfill
    split at hfill
    next => cases hfill
    next hseen =>
      cases hread : f.ofValue v r with
      | error m => simp [hread, bind, Except.bind] at hfill
      | ok r₁ =>
        rw [hread] at hfill
        obtain ⟨hdistinct, hunseen⟩ := ih hothers hfill
        have hnew : f.name ∉ fields.map Prod.fst := fun hmem =>
          hunseen _ hmem List.mem_cons_self
        refine ⟨List.nodup_cons.mpr ⟨hnew, hdistinct⟩, List.forall_mem_cons.mpr ⟨?_, ?_⟩⟩
        · simpa using hseen
        · exact fun name hname hmem => hunseen name hname (List.mem_cons_of_mem _ hmem)

theorem exists_field {s : Slot σ} (hs : s ∈ slots) :
    ∃ f, f.Fills s ∧ shape.field? s.name = some f := by
  obtain ⟨f, hf, hfs⟩ := h.exists_member hs
  exact ⟨f, hfs, h.field?_eq_some_iff.mpr ⟨hf, hfs.name⟩⟩

theorem exists_slot_of_field (hfield : shape.field? name = some f) :
    ∃ s ∈ slots, f.Fills s ∧ s.name = name := by
  obtain ⟨hf, rfl⟩ := h.field?_eq_some_iff.mp hfield
  obtain ⟨s, hs, hfs⟩ := h.exists_slot hf
  exact ⟨s, hs, hfs, hfs.name.symm⟩

theorem distinct_iff_once (hgets : shape.Gets entries fields) : fields.Distinct ↔
    entries.Pairwise fun e e' => ∀ s ∈ slots, e.Spells s.name → ¬ e'.Spells s.name := by
  rw [hgets.distinct_iff]
  constructor
  · refine List.Pairwise.imp fun hall s hs => ?_
    obtain ⟨f, -, hfield⟩ := h.exists_field hs
    exact hall _ f hfield
  · refine List.Pairwise.imp fun hall name f hfield => ?_
    obtain ⟨s, hs, -, rfl⟩ := h.exists_slot_of_field hfield
    exact hall s hs

theorem makes_of_gets (hgets : shape.Gets entries fields)
    (hfill : shape.ofFields fields = .ok r) : Makes slots shape.start entries r := by
  have hdistinct := (h.distinct_of_fill hgets.known_of_mem hfill).1
  rw [h.ofFields_eq_ok_iff hdistinct] at hfill
  refine ⟨hgets.named, (h.distinct_iff_once hgets).mp hdistinct, fun s hs e he hspells => ?_,
    fun s hs hnone => ?_⟩
  · obtain ⟨f, -, hfield⟩ := h.exists_field hs
    obtain ⟨v, hv, hmem⟩ := hgets.exists_value he hspells hfield
    have hholds := hfill s hs
    rw [Fields.get?_of_mem hdistinct hmem] at hholds
    exact ⟨v, hv, hholds⟩
  · have hget : fields.get? s.name = none := Fields.get?_eq_none fun hmem => by
      obtain ⟨e, he, hspells⟩ := hgets.exists_entry hmem
      exact hnone e he hspells
    have hholds := hfill s hs
    rw [hget] at hholds
    exact hholds.2

theorem exists_gets_of_makes (hlisted : ∀ s ∈ slots, s.presence ≠ .required)
    (hmakes : Makes slots shape.start entries r) :
    ∃ fields, shape.Gets entries fields ∧ shape.ofFields fields = .ok r ∧
      ∀ p ∈ fields, ∃ f, shape.field? p.1 = some f ∧ ∃ r', f.ofValue p.2 r = .ok r' := by
  have hgiven : ∀ e ∈ entries, ∃ name, e.Spells name ∧ ∀ f, shape.field? name = some f →
      ∃ v, Writes v e.value.core ∧ ∃ s ∈ slots, s.name = name ∧ s.read v = .ok (s.get r) := by
    intro e he
    obtain ⟨name, hname⟩ := hmakes.named e he
    refine ⟨name, hname, fun f hfield => ?_⟩
    obtain ⟨s, hs, -, rfl⟩ := h.exists_slot_of_field hfield
    obtain ⟨v, hv, hread⟩ := hmakes.given s hs e he hname
    exact ⟨v, hv, s, hs, rfl, hread⟩
  obtain ⟨fields, hgets, hfields⟩ := Shape.exists_gets
    (P := fun name v => ∃ s ∈ slots, s.name = name ∧ s.read v = .ok (s.get r)) hgiven
  have hdistinct := (h.distinct_iff_once hgets).mpr hmakes.once
  refine ⟨fields, hgets, (h.ofFields_eq_ok_iff hdistinct).mpr fun s hs => ?_, fun p hp => ?_⟩
  · cases hget : fields.get? s.name with
    | some v =>
      obtain ⟨t, ht, hname, hread⟩ := hfields _ (Fields.mem_of_get? hget)
      obtain rfl := h.eq_of_name ht hs hname
      exact hread
    | none =>
      refine ⟨hlisted s hs, hmakes.kept s hs fun e he hspells => ?_⟩
      obtain ⟨f, -, hfield⟩ := h.exists_field hs
      obtain ⟨v, -, hmem⟩ := hgets.exists_value he hspells hfield
      rw [Fields.get?_of_mem hdistinct hmem] at hget
      cases hget
  · obtain ⟨s, hs, hname, hread⟩ := hfields p hp
    obtain ⟨f, hfs, hfield⟩ := h.exists_field hs
    refine ⟨f, hname ▸ hfield, s.put (s.get r) r, ?_⟩
    rw [hfs.ofValue, hread]
    rfl

/-- Fields make a record if none of its parts is given twice and each can be read. -/
theorem exists_makes_iff : (∃ r, Makes slots shape.start entries r) ↔
    (∀ e ∈ entries, ∃ name, e.Spells name) ∧
    (entries.Pairwise fun e e' => ∀ s ∈ slots, e.Spells s.name → ¬ e'.Spells s.name) ∧
    ∀ s ∈ slots, ∀ e ∈ entries, e.Spells s.name →
      ∃ v, Writes v e.value.core ∧ ∃ a, s.read v = .ok a := by
  constructor
  · rintro ⟨r, hmakes⟩
    refine ⟨hmakes.named, hmakes.once, fun s hs e he hspells => ?_⟩
    obtain ⟨v, hv, hread⟩ := hmakes.given s hs e he hspells
    exact ⟨v, hv, _, hread⟩
  · rintro ⟨hnamed, honce, hread⟩
    have : Std.Symm fun e e' : Entry => ∀ s ∈ slots, e.Spells s.name → ¬ e'.Spells s.name :=
      ⟨fun e e' h s hs hspells hspells' => h s hs hspells' hspells⟩
    -- the value of a part, from the one entry that gives it if there is one
    have hpart : ∀ s : Slot σ, ∃ a : s.α, s ∈ slots →
        (∀ e ∈ entries, e.Spells s.name → ∃ v, Writes v e.value.core ∧ s.read v = .ok a) ∧
        ((∀ e ∈ entries, ¬ e.Spells s.name) → a = s.get shape.start) := by
      intro s
      by_cases hgiven : s ∈ slots ∧ ∃ e ∈ entries, e.Spells s.name
      · obtain ⟨hs, e, he, hspells⟩ := hgiven
        obtain ⟨v, hv, a, ha⟩ := hread s hs e he hspells
        refine ⟨a, fun _ => ⟨fun e' he' hspells' => ?_, fun hnone => absurd hspells (hnone e he)⟩⟩
        have heq : e' = e := by
          by_contra hne
          exact honce.forall he' he hne s hs hspells' hspells
        exact heq ▸ ⟨v, hv, ha⟩
      · refine ⟨s.get shape.start, fun hs => ⟨fun e he hspells => ?_, fun _ => rfl⟩⟩
        exact absurd ⟨hs, e, he, hspells⟩ hgiven
    choose part hpart using hpart
    obtain ⟨r, hr⟩ := h.exists_record part
    refine ⟨r, hnamed, honce, fun s hs e he hspells => ?_, fun s hs hnone => ?_⟩
    · rw [hr s hs]
      exact (hpart s hs).1 e he hspells
    · rw [hr s hs]
      exact (hpart s hs).2 hnone

/-- A record of scalars is read from the text of an object exactly if its fields make it. -/
theorem readText_eq_ok_iff (hmembers : ∀ f ∈ shape.fields, f.RefusesBrackets)
    (hscalar : ∀ f ∈ shape.fields, f.TakesScalar) (hlisted : ∀ s ∈ slots, s.presence ≠ .required)
    (hobject : IsObject entries text) :
    readText (shape.read (depth + 1)) text = .ok r ↔ Makes slots shape.start entries r := by
  constructor
  · intro hread
    obtain ⟨entries', fields, hobject', hgets, hfill⟩ :=
      readText_sound hmembers hscalar hobject.opensObject hread
    obtain rfl := hobject.entries_unique hobject'
    exact h.makes_of_gets hgets hfill
  · intro hmakes
    obtain ⟨fields, hgets, hfill, hvalues⟩ := h.exists_gets_of_makes hlisted hmakes
    have hscalars : ∀ p ∈ fields, p.2.head.IsScalar := by
      intro p hp
      obtain ⟨f, hfield, r', hread⟩ := hvalues p hp
      have hf := (h.field?_eq_some_iff.mp hfield).1
      exact Member.isScalar_of_ofValue (hmembers f hf) (hscalar f hf) hread
    have hsame : fieldsInOrder fields = fields := by
      rw [fieldsInOrder_eq_map]
      refine (List.map_congr_left fun p hp => ?_).trans (List.map_id _)
      rw [Value.inOrder_of_isScalar (hscalars p hp)]
      rfl
    have hstreams : ∀ p ∈ fields, ∀ f, shape.field? p.1 = some f → f.Streams depth p.2 := by
      intro p _ f hfield
      have hf := (h.field?_eq_some_iff.mp hfield).1
      exact Member.streams_of_scalar (hmembers f hf) (hscalar f hf)
    rw [← hsame] at hfill
    exact readText_of_gets hobject hgets hstreams hfill

end Shape.MadeOf
end CallFlow.Json
