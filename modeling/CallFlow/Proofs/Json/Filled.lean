import CallFlow.Proofs.Json.Record
import CallFlow.Proofs.Json.Written

/-!
# Records from texts

A record is filled from the text of an object as it is from the fields that the text gives to it: the
values of the names it knows. Other fields only have to be fields of the grammar.
-/

namespace CallFlow.Json
set_option autoImplicit false

variable {σ : Type} {shape : Shape σ} {f : Member σ} {r r' : σ} {seen : List String} {depth : Nat}
variable {s t rest blanks : List Char} {first : Bool} {v : Value} {fields : Fields}
variable {entries : List Entry}

theorem Value.head_inOrder (v : Value) : v.inOrder.head = v.head := by
  cases v <;> rfl

theorem gives_checked_iff {α β : Type} {n : Nat} {result : Except Error (Taken α n)}
    {read : α → Except Mismatch β} {b : β} :
    Gives (checked result read) b rest ↔ ∃ a, Gives result a rest ∧ read a = .ok b := by
  unfold checked
  cases result with
  | error e => simp [bind, Except.bind]
  | ok x =>
    cases hread : read x.value with
    | error m =>
      simp only [bind, Except.bind, hread, not_gives_error, gives_ok_iff, false_iff, not_exists]
      rintro a ⟨⟨rfl, -⟩, ha⟩
      rw [hread] at ha
      cases ha
    | ok b =>
      simp only [bind, Except.bind, hread, gives_ok_iff, Taken.map]
      constructor
      · rintro ⟨rfl, hrest⟩
        exact ⟨_, ⟨rfl, hrest⟩, hread⟩
      · rintro ⟨a, ⟨rfl, hrest⟩, ha⟩
        exact ⟨Except.ok.inj (hread.symm.trans ha), hrest⟩

namespace Takes
variable {α β : Type} {reader : Reader α} {a : α} (h : Takes reader t a)
include h

theorem checked {read : α → Except Mismatch β} {b : β} (hread : read a = .ok b) :
    Takes (fun s => Json.checked (reader s) read) t b :=
  fun blanks rest hblanks hrest => gives_checked_iff.mpr ⟨a, h blanks rest hblanks hrest, hread⟩

theorem map (f : α → β) : Takes (fun s => (reader s).map (·.map f)) t (f a) :=
  fun blanks rest hblanks hrest =>
    (gives_map_iff f fun _ => ⟨rfl, rfl⟩).mpr ⟨a, h blanks rest hblanks hrest, rfl⟩

end Takes

/-! Members. -/

namespace Member

/-- A member that looks at scalars alone takes nothing from a bracket. -/
def RefusesBrackets (f : Member σ) : Prop :=
  ∀ read, f.take = .scalar read → ∀ head r r', read head r = .ok r' → head.IsScalar

def TakesScalar (f : Member σ) : Prop := ∃ read, f.take = .scalar read

theorem refusesBrackets_scalar {α : Type} {name : String} {presence : Presence}
    {read : Head → Except Mismatch α} {put : α → σ → σ}
    (hread : ∀ head a, read head = .ok a → head.IsScalar) :
    (scalar name presence read put).RefusesBrackets := by
  rintro _ ⟨⟩ head r r' hok
  cases ha : read head with
  | error m => simp [ha, Except.map] at hok
  | ok a => exact hread head a ha

theorem takesScalar_scalar {α : Type} {name : String} {presence : Presence}
    {read : Head → Except Mismatch α} {put : α → σ → σ} :
    (scalar name presence read put).TakesScalar :=
  ⟨_, rfl⟩

theorem gives_ofText_scalar {read : Head → σ → Except Mismatch σ} (h : f.take = .scalar read) :
    Gives (f.ofText depth r s) r' rest ↔
      ∃ head, Gives (readHead s) head rest ∧ read head r = .ok r' := by
  unfold ofText
  rw [h]
  exact gives_checked_iff

/-- Every text of a value is taken for what the value, its names in order, is taken for. -/
def Streams (f : Member σ) (depth : Nat) (v : Value) : Prop :=
  ∀ t r r', Writes v t → f.ofValue v.inOrder r = .ok r' → Takes (f.ofText depth r) t r'

theorem streams_of_scalar (hf : f.RefusesBrackets) (hscalar : f.TakesScalar) :
    f.Streams depth v := by
  intro t r r' hv hread blanks rest hblanks hrest
  obtain ⟨read, htake⟩ := hscalar
  rw [ofValue, htake] at hread
  dsimp only at hread
  rw [Value.head_inOrder] at hread
  have hhead := hv.takes_readHead (hf read htake _ _ _ hread)
  exact (gives_ofText_scalar htake).mpr ⟨_, hhead blanks rest hblanks hrest, hread⟩

theorem ofText_sound (hf : f.RefusesBrackets) (hscalar : f.TakesScalar)
    (h : Gives (f.ofText depth r s) r' rest) :
    ∃ blanks v core, Blanks blanks ∧ Writes v core ∧ f.ofValue v r = .ok r' ∧
      s = blanks ++ (core ++ rest) := by
  obtain ⟨read, htake⟩ := hscalar
  obtain ⟨head, hhead, hread⟩ := (gives_ofText_scalar htake).mp h
  obtain ⟨blanks, v, core, hblanks, hcore, rfl, hs⟩ :=
    readHead_sound hhead (hf read htake _ _ _ hread)
  refine ⟨blanks, v, core, hblanks, hcore, ?_, hs⟩
  rw [ofValue, htake]
  exact hread

end Member

namespace Shape

/-- The fields that the text of an object gives to a record: those whose names it knows. -/
inductive Gets (shape : Shape σ) : List Entry → Fields → Prop
  | nil : Gets shape [] []
  | known {e : Entry} {name : String} {f : Member σ} {v : Value} {entries : List Entry}
      {fields : Fields} : Spells e.name.core name.toList → shape.field? name = some f →
      Writes v e.value.core → Gets shape entries fields →
      Gets shape (e :: entries) ((name, v) :: fields)
  | unknown {e : Entry} {name : String} {entries : List Entry} {fields : Fields} :
      Spells e.name.core name.toList → shape.field? name = none → Gets shape entries fields →
      Gets shape (e :: entries) fields

theorem gives_lift_iff {n : Nat} {h : t.length < n} {x : Except Mismatch σ} :
    Gives (lift t h x) r' rest ↔ x = .ok r' ∧ t = rest := by
  cases x with
  | error m => simp [lift]
  | ok r => simp [lift]

theorem gives_readFields_close (h : skipSpace s = '\x7d' :: rest)
    (hfinish : shape.finish seen r = .ok r') :
    Gives (shape.readFields depth first seen r s) r' rest := by
  obtain ⟨_, hclose⟩ : Closes (nextName first s) rest := nextName_close h
  unfold Shape.readFields
  rw [hclose]
  exact gives_lift_iff.mpr ⟨hfinish, rfl⟩

section Name
variable {name : String} {u tail : List Char} (hname : Names (nextName first s) name t)
  (hcolon : Gives (takeColon t) () u)
include hname hcolon

theorem gives_readFields_unknown (hfield : shape.field? name = none)
    (hvalue : Gives (passValue u) () tail)
    (htail : Gives (shape.readFields depth false seen r tail) r' rest) :
    Gives (shape.readFields depth first seen r s) r' rest := by
  obtain ⟨_, hname⟩ := hname
  obtain ⟨_, hcolon⟩ := hcolon
  obtain ⟨_, hvalue⟩ := hvalue
  unfold Shape.readFields
  rw [hname]
  simp only [hfield, hcolon, hvalue]
  exact gives_behind_behind_behind_iff.mpr htail

theorem gives_readFields_known {f : Member σ} {r₁ : σ} (hfield : shape.field? name = some f)
    (hseen : seen.contains f.name = false) (hvalue : Gives (f.ofText depth r u) r₁ tail)
    (htail : Gives (shape.readFields depth false (f.name :: seen) r₁ tail) r' rest) :
    Gives (shape.readFields depth first seen r s) r' rest := by
  obtain ⟨_, hname⟩ := hname
  obtain ⟨_, hcolon⟩ := hcolon
  obtain ⟨_, hvalue⟩ := hvalue
  unfold Shape.readFields
  rw [hname]
  simp only [hfield, hseen, hcolon, hvalue, Bool.false_eq_true, if_false]
  exact gives_behind_behind_behind_iff.mpr htail

end Name

theorem gives_readFields (hgets : shape.Gets entries fields)
    (hstreams : ∀ p ∈ fields, ∀ f, shape.field? p.1 = some f → f.Streams depth p.2)
    (hfill : shape.fill seen r (fieldsInOrder fields) = .ok r')
    (hentries : ∀ e ∈ entries, e.Named ∧ ValueText e.value.core)
    (h : GoesOn '\x7d' first (entries.map Entry.padded) s rest) :
    Gives (shape.readFields depth first seen r s) r' rest := by
  induction hgets generalizing first seen r s with
  | nil => exact gives_readFields_close (h.skipSpace_eq rfl) hfill
  | @known e name f v entries fields hname hfield hvalue _ ih =>
    obtain ⟨⟨he, -⟩, hentries⟩ := List.forall_mem_cons.mp hentries
    obtain ⟨hstream, hstreams⟩ := List.forall_mem_cons.mp hstreams
    obtain ⟨t, tail, hnext, hcolon, htail⟩ := h.names he hname
    rw [fieldsInOrder, fill, hfield] at hfill
    dsimp only at hfill
    split at hfill
    next => cases hfill
    next hseen =>
      cases hread : f.ofValue v.inOrder r with
      | error m => simp [hread, bind, Except.bind] at hfill
      | ok r₁ =>
        rw [hread] at hfill
        exact gives_readFields_known hnext hcolon hfield (Bool.eq_false_of_not_eq_true hseen)
          (hstream f hfield _ _ _ hvalue hread _ _ he.value.1 (htail.stops rfl))
          (ih hstreams hfill hentries htail)
  | unknown hname hfield _ ih =>
    obtain ⟨⟨he, hvalue⟩, hentries⟩ := List.forall_mem_cons.mp hentries
    obtain ⟨t, tail, hnext, hcolon, htail⟩ := h.names he hname
    exact gives_readFields_unknown hnext hcolon hfield
      (gives_passValue hvalue he.value.1 (htail.stops rfl)) (ih hstreams hfill hentries htail)

/-- Where a record of scalars is read, there are fields that give it what it is filled with. -/
theorem readFields_sound (hmembers : ∀ f ∈ shape.fields, f.RefusesBrackets)
    (hscalar : ∀ f ∈ shape.fields, f.TakesScalar)
    (h : Gives (shape.readFields depth first seen r s) r' rest) :
    ∃ entries fields, GoesOn '\x7d' first (entries.map Entry.padded) s rest ∧
      (∀ e ∈ entries, e.Named ∧ ValueText e.value.core) ∧ shape.Gets entries fields ∧
      shape.fill seen r fields = .ok r' := by
  fun_induction Shape.readFields shape depth first seen r s with
  | case1 => exact absurd h not_gives_error
  | case2 first seen r s rest' within hclose =>
    obtain ⟨hfinish, rfl⟩ := gives_lift_iff.mp h
    exact ⟨[], [], GoesOn.nil_iff.mpr (closes_sound ⟨within, hclose⟩), nofun, .nil, hfinish⟩
  | case3 => exact absurd h not_gives_error
  | case4 => exact absurd h not_gives_error
  | case5 first seen r s name t within hname hfield _ u within' hcolon _ tail within'' hvalue ih =>
    obtain ⟨entries, fields, htail, hentries, hgets, hfill⟩ :=
      ih (gives_behind_behind_behind_iff.mp h)
    obtain ⟨blanks, core, hblanks, hcore, hu⟩ := passValue_sound _ _ ⟨within'', hvalue⟩
    obtain ⟨e, he, hspells, rfl, hall⟩ :=
      GoesOn.exists_field ⟨within, hname⟩ ⟨within', hcolon⟩ hu hblanks htail
    exact ⟨e :: entries, fields, hall, List.forall_mem_cons.mpr ⟨⟨he, hcore⟩, hentries⟩,
      .unknown hspells hfield hgets, hfill⟩
  | case6 => exact absurd h not_gives_error
  | case7 => exact absurd h not_gives_error
  | case8 => exact absurd h not_gives_error
  | case9 first seen r s name t within hname f hfield hseen _ u within' hcolon r₁ tail within''
      hvalue ih =>
    obtain ⟨entries, fields, htail, hentries, hgets, hfill⟩ :=
      ih (gives_behind_behind_behind_iff.mp h)
    have hf := List.mem_of_find?_eq_some hfield
    obtain ⟨blanks, v, core, hblanks, hcore, hread, hu⟩ :=
      Member.ofText_sound (hmembers f hf) (hscalar f hf) ⟨within'', hvalue⟩
    obtain ⟨e, he, hspells, rfl, hall⟩ :=
      GoesOn.exists_field ⟨within, hname⟩ ⟨within', hcolon⟩ hu hblanks htail
    refine ⟨e :: entries, (name, v) :: fields, hall,
      List.forall_mem_cons.mpr ⟨⟨he, hcore.valueText⟩, hentries⟩, .known hspells hfield hcore hgets, ?_⟩
    rw [fill, hfield]
    simp only [hseen, hread]
    exact hfill

theorem gives_read_object_iff (hblanks : Blanks blanks) :
    Gives (shape.read (depth + 1) (blanks ++ '\x7b' :: t)) r rest ↔
      Gives (shape.readFields depth true [] shape.start t) r rest := by
  obtain ⟨within, hhead⟩ := gives_readHead_object hblanks t
  rw [Shape.read, hhead]
  exact gives_behind_iff

end Shape

/-! Whole texts. -/

theorem readText_eq_ok_iff {α : Type} {reader : Reader α} {text : String} {a : α} :
    readText reader text = .ok a ↔ ∃ rest, Gives (reader text.toList) a rest ∧ Blanks rest := by
  unfold readText
  cases hread : reader text.toList with
  | error e => simp [bind, Except.bind]
  | ok x =>
    have hblanks : (skipSpace x.rest).isEmpty = true ↔ Blanks x.rest := by
      rw [List.isEmpty_iff, skipSpace_eq_nil_iff]
    simp only [bind, Except.bind, gives_ok_iff]
    constructor
    · intro h
      split at h
      next hrest => exact ⟨x.rest, ⟨Except.ok.inj h, rfl⟩, hblanks.mp hrest⟩
      next => cases h
    · rintro ⟨_, ⟨rfl, rfl⟩, hrest⟩
      rw [if_pos (hblanks.mpr hrest)]

theorem isObject_iff {text : String} :
    IsObject entries text ↔ ∃ blanks s rest, Blanks blanks ∧ Blanks rest ∧
      text.toList = blanks ++ '\x7b' :: s ∧ GoesOn '\x7d' true (entries.map Entry.padded) s rest ∧
      ∀ e ∈ entries, e.Named ∧ ValueText e.value.core := by
  constructor
  · rintro ⟨p, hp, ⟨body, hbody, hnamed, hcore⟩, hvalues, htext⟩
    refine ⟨p.before, body ++ p.behind, p.behind, hp.1, hp.2, ?_, ⟨body, hbody, rfl⟩,
      fun e he => ⟨hnamed e he, hvalues e he⟩⟩
    rw [htext, Padded.text, hcore, List.cons_append]
  · rintro ⟨blanks, _, rest, hblanks, hrest, htext, ⟨body, hbody, rfl⟩, hentries⟩
    exact ⟨⟨blanks, '\x7b' :: body, rest⟩, ⟨hblanks, hrest⟩,
      ⟨body, hbody, fun e he => (hentries e he).1, rfl⟩, fun e he => (hentries e he).2, htext⟩

namespace Shape
variable {text : String}

theorem readText_of_gets (h : IsObject entries text) (hgets : shape.Gets entries fields)
    (hstreams : ∀ p ∈ fields, ∀ f, shape.field? p.1 = some f → f.Streams depth p.2)
    (hfill : shape.ofFields (fieldsInOrder fields) = .ok r) :
    readText (shape.read (depth + 1)) text = .ok r := by
  obtain ⟨blanks, s, rest, hblanks, hrest, htext, hgoes, hentries⟩ := isObject_iff.mp h
  rw [readText_eq_ok_iff, htext]
  refine ⟨rest, (gives_read_object_iff hblanks).mpr ?_, hrest⟩
  exact gives_readFields hgets hstreams hfill hentries hgoes

theorem readText_sound (hmembers : ∀ f ∈ shape.fields, f.RefusesBrackets)
    (hscalar : ∀ f ∈ shape.fields, f.TakesScalar) (hopens : OpensObject text)
    (h : readText (shape.read (depth + 1)) text = .ok r) :
    ∃ entries fields, IsObject entries text ∧ shape.Gets entries fields ∧
      shape.ofFields fields = .ok r := by
  obtain ⟨blanks, s, hblanks, htext⟩ := hopens
  obtain ⟨rest, hread, hrest⟩ := readText_eq_ok_iff.mp h
  rw [htext, gives_read_object_iff hblanks] at hread
  obtain ⟨entries, fields, hgoes, hentries, hgets, hfill⟩ :=
    readFields_sound hmembers hscalar hread
  exact ⟨entries, fields,
    isObject_iff.mpr ⟨blanks, s, rest, hblanks, hrest, htext, hgoes, hentries⟩, hgets, hfill⟩

end Shape
end CallFlow.Json
