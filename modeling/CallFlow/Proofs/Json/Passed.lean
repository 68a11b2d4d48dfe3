import CallFlow.Json.Passing
import CallFlow.Proofs.Json.Parts
import CallFlow.Proofs.Json.Quoted

/-!
# Passing over values

A value that nobody wants is passed over exactly if it is one of the grammar, whatever its numbers,
its nesting and the code points of its strings.
-/

namespace CallFlow.Json
set_option autoImplicit false

variable {s t rest : List Char} {c : Char}

/-! Parts. -/

section Parts
variable {part : Reader Unit} {ending : Ending} {P : List Char → Prop} {first : Bool}

theorem gives_passParts_close (h : skipSpace s = ending.close :: rest) :
    Gives (passParts part ending first s) () rest := by
  unfold passParts
  split
  next hnil => simp [h] at hnil
  next c tail hcons =>
    obtain ⟨rfl, rfl⟩ := List.cons.inj (h.symm.trans hcons)
    rw [if_pos rfl]
    exact gives_ok_iff.mpr ⟨rfl, rfl⟩

theorem gives_passParts_first (h : skipSpace s = c :: t) (hc : c ≠ ending.close) {tail : List Char}
    (hpart : Gives (part (skipSpace s)) () tail)
    (htail : Gives (passParts part ending false tail) () rest) :
    Gives (passParts part ending true s) () rest := by
  obtain ⟨within, hpart⟩ := hpart
  unfold passParts
  split
  next hnil => simp [h] at hnil
  next d tail hcons =>
    obtain ⟨rfl, rfl⟩ := List.cons.inj (h.symm.trans hcons)
    rw [if_neg hc, if_pos rfl, hpart]
    exact gives_behind_widen_iff.mpr htail

theorem gives_passParts_next (h : skipSpace s = ',' :: t) (hc : ',' ≠ ending.close)
    {tail : List Char} (hpart : Gives (part t) () tail)
    (htail : Gives (passParts part ending false tail) () rest) :
    Gives (passParts part ending false s) () rest := by
  obtain ⟨within, hpart⟩ := hpart
  unfold passParts
  split
  next hnil => simp [h] at hnil
  next d tail hcons =>
    obtain ⟨rfl, rfl⟩ := List.cons.inj (h.symm.trans hcons)
    rw [if_neg hc, if_neg Bool.false_ne_true, if_pos rfl, hpart]
    exact gives_behind_behind_iff.mpr htail

/-- What a reader of parts takes is a part of the grammar between blanks. -/
def Part.Sound (part : Reader Unit) (P : List Char → Prop) : Prop :=
  ∀ s rest, Gives (part s) () rest →
    ∃ blanks core, Blanks blanks ∧ P core ∧ s = blanks ++ (core ++ rest)

def Part.Complete (part : Reader Unit) (P : List Char → Prop) : Prop :=
  ∀ blanks core rest, Blanks blanks → P core → Stops ofNumber rest →
    Gives (part (blanks ++ (core ++ rest))) () rest

theorem passParts_sound (hpart : Part.Sound part P)
    (h : Gives (passParts part ending first s) () rest) :
    ∃ ps, GoesOn ending.close first ps s rest ∧ ∀ p ∈ ps, p.InBlanks ∧ P p.core := by
  fun_induction passParts part ending first s with
  | case1 => exact absurd h not_gives_fail
  | case2 first s tail hs =>
    obtain ⟨-, rfl⟩ := gives_ok_iff.mp h
    exact ⟨[], GoesOn.nil_iff.mpr (skipSpace_eq_cons_iff.mp hs).2, nofun⟩
  | case3 => exact absurd h not_gives_error
  | case4 s _ _ _ _ _ _ _ tail within hitem ih =>
    obtain ⟨gap, hgap, hs⟩ := exists_blanks s
    obtain ⟨ps, htail, hps⟩ := ih (gives_behind_widen_iff.mp h)
    obtain ⟨blanks, core, hblanks, hcore, heq⟩ := hpart _ _ ⟨within, hitem⟩
    obtain ⟨before, behind, hbefore, hbehind, hall⟩ :=
      htail.exists_cons (.first (hgap.append hblanks)) core
    rw [List.append_assoc, ← heq, ← hs] at hall
    exact ⟨_, hall, List.forall_mem_cons.mpr ⟨⟨⟨hbefore, hbehind⟩, hcore⟩, hps⟩⟩
  | case5 => exact absurd h not_gives_error
  | case6 first s _ hfirst _ tail within hitem hs _ _ ih =>
    obtain rfl := Bool.eq_false_of_not_eq_true hfirst
    obtain ⟨-, gap, hgap, rfl⟩ := skipSpace_eq_cons_iff.mp hs
    obtain ⟨ps, htail, hps⟩ := ih (gives_behind_behind_iff.mp h)
    obtain ⟨blanks, core, hblanks, hcore, rfl⟩ := hpart _ _ ⟨within, hitem⟩
    obtain ⟨before, behind, hbefore, hbehind, hall⟩ :=
      htail.exists_cons (.next hgap hblanks) core
    rw [List.append_assoc, List.cons_append] at hall
    exact ⟨_, hall, List.forall_mem_cons.mpr ⟨⟨⟨hbefore, hbehind⟩, hcore⟩, hps⟩⟩
  | case7 => exact absurd h not_gives_fail

/-- The bracket is none of the other characters that matter. -/
structure Ending.Plain (ending : Ending) : Prop where
  space : isSpace ending.close = false
  number : ofNumber ending.close = false
  comma : ',' ≠ ending.close
  starts : ∀ core, Starts core → ∃ c t, core = c :: t ∧ isSpace c = false ∧ c ≠ ending.close

theorem Ending.plain_list : Ending.list.Plain where
  space := rfl
  number := rfl
  comma := by decide
  starts := fun _ ⟨c, t, hcore, hc, hlist, _⟩ => ⟨c, t, hcore, hc, hlist⟩

theorem Ending.plain_object : Ending.object.Plain where
  space := rfl
  number := rfl
  comma := by decide
  starts := fun _ ⟨c, t, hcore, hc, _, hobject⟩ => ⟨c, t, hcore, hc, hobject⟩

theorem gives_passParts_lead (hending : ending.Plain) {lead core tail : List Char}
    (hlead : Leads first lead) (hcore : Starts core)
    (hpart : ∀ blanks, Blanks blanks → Gives (part (blanks ++ (core ++ tail))) () tail)
    (htail : Gives (passParts part ending false tail) () rest) :
    Gives (passParts part ending first (lead ++ (core ++ tail))) () rest := by
  obtain ⟨c, t, rfl, hc, hclose⟩ := hending.starts core hcore
  cases hlead with
  | first hblanks =>
    have hs : skipSpace (lead ++ (c :: t ++ tail)) = c :: t ++ tail :=
      skipSpace_append_cons hblanks hc
    have hfirst := hpart [] nofun
    rw [List.nil_append, ← hs] at hfirst
    exact gives_passParts_first hs hclose hfirst htail
  | @next gap blanks hgap hblanks =>
    have hs : skipSpace (gap ++ ',' :: blanks ++ (c :: t ++ tail)) =
        ',' :: (blanks ++ (c :: t ++ tail)) := by
      rw [List.append_assoc]
      exact skipSpace_append_cons hgap rfl
    exact gives_passParts_next hs hending.comma (hpart blanks hblanks) htail

theorem passParts_complete (hending : ending.Plain) (hpart : Part.Complete part P)
    (hstarts : ∀ core, P core → Starts core) {ps : List Padded}
    (h : GoesOn ending.close first ps s rest) (hps : ∀ p ∈ ps, p.InBlanks ∧ P p.core) :
    Gives (passParts part ending first s) () rest := by
  induction ps generalizing first s with
  | nil => exact gives_passParts_close (h.skipSpace_eq hending.space)
  | cons p ps ih =>
    obtain ⟨⟨hblanks, hp⟩, hps⟩ := List.forall_mem_cons.mp hps
    obtain ⟨lead, tail, hlead, htail, rfl⟩ := h.cons hblanks
    exact gives_passParts_lead hending hlead (hstarts _ hp)
      (fun blanks hgap => hpart _ _ _ hgap hp (htail.stops hending.number)) (ih htail hps)

end Parts

/-! Values. -/

def Opens : Opening → List Char → Prop
  | .scalar, core => ValueText core
  | .list, core => core = ['[']
  | .object, core => core = ['\x7b']

theorem passHead_sound {opening : Opening} (h : Gives (passHead s) opening rest) :
    ∃ blanks core, Blanks blanks ∧ Opens opening core ∧ s = blanks ++ (core ++ rest) := by
  unfold passHead at h
  split at h
  next => exact absurd h not_gives_fail
  next c tail hs =>
    obtain ⟨-, blanks, hblanks, heq⟩ := skipSpace_eq_cons_iff.mp hs
    refine ⟨blanks, ?_⟩
    suffices hcore : ∃ core, Opens opening core ∧ c :: tail = core ++ rest by
      obtain ⟨core, hcore, htail⟩ := hcore
      exact ⟨core, hblanks, hcore, heq.trans (congrArg _ htail)⟩
    split at h
    next hc =>
      obtain ⟨rfl, rfl⟩ := gives_takeWord_iff.mp (gives_widen_iff.mp h)
      exact ⟨_, .null, congrArg (· :: _) hc⟩
    split at h
    next hc =>
      obtain ⟨rfl, rfl⟩ := gives_takeWord_iff.mp (gives_widen_iff.mp h)
      exact ⟨_, .bool true, congrArg (· :: _) hc⟩
    split at h
    next hc =>
      obtain ⟨rfl, rfl⟩ := gives_takeWord_iff.mp (gives_widen_iff.mp h)
      exact ⟨_, .bool false, congrArg (· :: _) hc⟩
    split at h
    next hc =>
      obtain ⟨_, hstring, rfl⟩ := gives_map_behind_iff.mp h
      obtain ⟨body, hbody, rfl⟩ := gives_passString_iff.mp hstring
      exact ⟨_, .string hbody, by simp [hc]⟩
    split at h
    next hc =>
      obtain ⟨n, hnumeral, rfl⟩ := gives_map_behind_iff.mp h
      obtain ⟨t, ht, rfl⟩ := numeralText_of_gives hnumeral
      exact ⟨_, .number ⟨true, n, t, ht, rfl⟩, congrArg (· :: _) hc⟩
    split at h
    next hc =>
      obtain ⟨n, hnumeral, rfl⟩ := gives_map_widen_iff.mp h
      obtain ⟨t, ht, hrest⟩ := numeralText_of_gives hnumeral
      exact ⟨_, .number ⟨false, n, t, ht, rfl⟩, hs ▸ hrest⟩
    split at h
    next hc =>
      obtain ⟨rfl, rfl⟩ := gives_ok_iff.mp h
      exact ⟨_, rfl, congrArg (· :: tail) hc⟩
    split at h
    next hc =>
      obtain ⟨rfl, rfl⟩ := gives_ok_iff.mp h
      exact ⟨_, rfl, congrArg (· :: tail) hc⟩
    exact absurd h not_gives_fail

theorem gives_ite_iff {α : Type} {n : Nat} {p : Prop} [Decidable p] {value : α}
    {a b : Except Error (Taken α n)} :
    Gives (if p then a else b) value rest ↔ (p → Gives a value rest) ∧ (¬ p → Gives b value rest) := by
  split <;> simp [*]

theorem gives_passHead_congr {s' : List Char} {opening : Opening} (heq : skipSpace s = skipSpace s')
    (h : Gives (passHead s) opening rest) : Gives (passHead s') opening rest := by
  unfold passHead at h ⊢
  split at h
  next => exact absurd h not_gives_fail
  next c tail hs =>
    split
    next hnil => simp [← heq, hs] at hnil
    next c' tail' hs' =>
      obtain ⟨rfl, rfl⟩ := List.cons.inj ((hs.symm.trans heq).trans hs')
      simp only [gives_ite_iff, gives_widen_iff, gives_map_behind_iff, gives_map_widen_iff,
        gives_ok_iff, not_gives_fail] at h ⊢
      rwa [heq] at h

theorem gives_passHead_digit {n : Numeral} (hc : c.isDigit = true)
    (h : Gives (takeNumeral .invalidNumber (c :: t)) n rest) :
    Gives (passHead (c :: t)) .scalar rest := by
  have hs : skipSpace (c :: t) = c :: t := skipSpace_cons (not_isSpace_of_isDigit hc)
  unfold passHead
  split
  next hnil => simp [hs] at hnil
  next d tail hcons =>
    obtain ⟨rfl, rfl⟩ := List.cons.inj (hs.symm.trans hcons)
    have hother : ∀ d, d.isDigit = false → c ≠ d := by
      rintro d hd rfl
      exact Bool.false_ne_true (hd.symm.trans hc)
    rw [if_neg (hother _ rfl), if_neg (hother _ rfl), if_neg (hother _ rfl), if_neg (hother _ rfl),
      if_neg (hother _ rfl), if_pos hc, gives_map_widen_iff, hs]
    exact ⟨n, h, rfl⟩

/-- Each scalar is passed over where no number goes on behind it. -/
theorem ValueText.scalar_or (h : ValueText t) :
    (∀ rest, Stops ofNumber rest → Gives (passHead (t ++ rest)) .scalar rest) ∨
    (∃ items, ArrayText items t ∧ ∀ p ∈ items, ValueText p.core) ∨
    ∃ entries, ObjectText entries t ∧ ∀ e ∈ entries, ValueText e.value.core := by
  cases h with
  | null =>
    exact .inl fun rest _ =>
      gives_widen_iff.mpr (gives_takeWord Opening.scalar ['u', 'l', 'l'] rest)
  | bool b =>
    cases b with
    | true =>
      exact .inl fun rest _ =>
        gives_widen_iff.mpr (gives_takeWord Opening.scalar ['r', 'u', 'e'] rest)
    | false =>
      exact .inl fun rest _ =>
        gives_widen_iff.mpr (gives_takeWord Opening.scalar ['a', 'l', 's', 'e'] rest)
  | number h =>
    refine .inl fun rest hrest => ?_
    obtain ⟨negative, n, t', ht', rfl⟩ := h
    cases negative with
    | true =>
      exact gives_map_behind_iff.mpr ⟨n, gives_takeNumeral ht' hrest, rfl⟩
    | false =>
      obtain ⟨c, t, rfl, hc⟩ := ht'.exists_digit
      exact gives_passHead_digit hc (gives_takeNumeral ht' hrest)
  | @string body hbody =>
    refine .inl fun rest _ => ?_
    rw [List.cons_append, List.append_assoc]
    exact gives_map_behind_iff.mpr ⟨(), gives_passString hbody rest, rfl⟩
  | array h hitems => exact .inr (.inl ⟨_, h, hitems⟩)
  | object h hvalues => exact .inr (.inr ⟨_, h, hvalues⟩)

theorem ValueText.starts (h : ValueText t) : Starts t := by
  cases h with
  | null => exact ⟨'n', _, rfl, by decide⟩
  | bool b => cases b <;> exact ⟨_, _, rfl, by decide⟩
  | number h =>
    obtain ⟨negative, n, t', ht', rfl⟩ := h
    cases negative with
    | true => exact ⟨'-', _, rfl, by decide⟩
    | false =>
      obtain ⟨c, t, rfl, hc⟩ := ht'.exists_digit
      refine ⟨c, t, rfl, not_isSpace_of_isDigit hc, ?_, ?_⟩ <;> rintro rfl <;> cases hc
  | string => exact ⟨'"', _, rfl, by decide⟩
  | array h =>
    obtain ⟨body, -, -, rfl⟩ := h
    exact ⟨'[', _, rfl, by decide⟩
  | object h =>
    obtain ⟨body, -, -, rfl⟩ := h
    exact ⟨'\x7b', _, rfl, by decide⟩

theorem gives_passName_iff :
    Gives (passName s) () rest ↔ ∃ blanks name gap, Blanks blanks ∧ IsString name ∧ Blanks gap ∧
      s = blanks ++ '"' :: (name ++ '"' :: (gap ++ ':' :: rest)) := by
  constructor
  · intro h
    unfold passName at h
    split at h
    next => exact absurd h not_gives_fail
    next c tail hs =>
      obtain ⟨-, blanks, hblanks, rfl⟩ := skipSpace_eq_cons_iff.mp hs
      split at h
      next hc =>
        obtain ⟨_, middle, within, hstring, h⟩ := gives_bind_iff.mp h
        obtain ⟨_, behind, within', hcolon, h⟩ := gives_bind_iff.mp h
        obtain ⟨-, rfl⟩ := gives_ok_iff.mp h
        obtain ⟨name, hname, rfl⟩ := gives_passString_iff.mp hstring
        obtain ⟨gap, hgap, rfl⟩ := gives_takeColon_iff.mp hcolon
        exact ⟨blanks, name, gap, hblanks, hname, hgap, congrArg (blanks ++ · :: _) hc⟩
      next => exact absurd h not_gives_fail
  · rintro ⟨blanks, name, gap, hblanks, hname, hgap, rfl⟩
    have hs : skipSpace (blanks ++ '"' :: (name ++ '"' :: (gap ++ ':' :: rest))) =
        '"' :: (name ++ '"' :: (gap ++ ':' :: rest)) :=
      skipSpace_append_cons hblanks rfl
    unfold passName
    split
    next hnil => simp [hs] at hnil
    next c tail hcons =>
      obtain ⟨rfl, rfl⟩ := List.cons.inj (hs.symm.trans hcons)
      rw [if_pos rfl]
      refine (gives_passString hname (gap ++ ':' :: rest)).bind fun _ => ?_
      refine (gives_takeColon_iff.mpr ⟨gap, hgap, rfl⟩).bind fun _ => ?_
      exact gives_ok_iff.mpr ⟨rfl, rfl⟩

def passField (value : Reader Unit) : Reader Unit := fun s => do
  let ⟨_, rest, within⟩ ← passName s
  let value ← value rest
  .ok (value.behind within)

def FieldText (V : List Char → Prop) (core : List Char) : Prop :=
  ∃ name gap before value, IsString name ∧ Blanks gap ∧ Blanks before ∧ V value ∧
    core = '"' :: (name ++ '"' :: (gap ++ ':' :: (before ++ value)))

section Field
variable {value : Reader Unit} {V : List Char → Prop}

theorem passField_sound (h : Part.Sound value V) : Part.Sound (passField value) (FieldText V) := by
  intro s rest hgives
  obtain ⟨_, middle, within, hbegin, hgives⟩ := gives_bind_iff.mp hgives
  obtain ⟨_, behind, within', hvalue, hgives⟩ := gives_bind_iff.mp hgives
  obtain ⟨-, rfl⟩ := gives_ok_iff.mp hgives
  obtain ⟨before, core, hbefore, hcore, rfl⟩ := h _ _ hvalue
  obtain ⟨blanks, name, gap, hblanks, hname, hgap, rfl⟩ := gives_passName_iff.mp hbegin
  exact ⟨blanks, _, hblanks, ⟨name, gap, before, core, hname, hgap, hbefore, hcore, rfl⟩,
    by simp [Taken.behind, Taken.widen]⟩

theorem passField_complete (h : Part.Complete value V) :
    Part.Complete (passField value) (FieldText V) := by
  rintro blanks _ rest hblanks ⟨name, gap, before, core, hname, hgap, hbefore, hcore, rfl⟩ hrest
  have htext : blanks ++ ('"' :: (name ++ '"' :: (gap ++ ':' :: (before ++ core))) ++ rest) =
      blanks ++ '"' :: (name ++ '"' :: (gap ++ ':' :: (before ++ (core ++ rest)))) := by simp
  rw [htext]
  refine (gives_passName_iff.mpr ⟨blanks, name, gap, hblanks, hname, hgap, rfl⟩).bind fun _ => ?_
  exact (h before core rest hbefore hcore hrest).bind fun _ => gives_ok_iff.mpr ⟨rfl, rfl⟩

theorem FieldText.starts {core : List Char} (h : FieldText V core) : Starts core := by
  obtain ⟨name, gap, before, value, -, -, -, -, rfl⟩ := h
  exact ⟨'"', _, rfl, by decide⟩

theorem Entry.fieldText {e : Entry} (h : e.Named) (hvalue : V e.value.core) :
    FieldText V e.padded.core :=
  ⟨_, _, _, _, h.name, h.blanks.2, h.value.1, hvalue, rfl⟩

theorem Entry.length_value_lt (e : Entry) : e.value.core.length < e.padded.core.length := by
  simp only [padded, List.length_cons, List.length_append]
  omega

theorem exists_entry {p : Padded} (hp : p.InBlanks) (h : FieldText V p.core) :
    ∃ e : Entry, e.Named ∧ V e.value.core ∧ e.padded = p := by
  obtain ⟨name, gap, before, value, hname, hgap, hbefore, hvalue, hcore⟩ := h
  obtain ⟨blanks, core, behind⟩ := p
  subst hcore
  exact ⟨⟨⟨blanks, name, gap⟩, ⟨before, value, behind⟩⟩,
    ⟨hname, ⟨hp.1, hgap⟩, ⟨hbefore, hp.2⟩⟩, hvalue, rfl⟩

theorem exists_entries {ps : List Padded} (h : ∀ p ∈ ps, p.InBlanks ∧ FieldText V p.core) :
    ∃ entries : List Entry, (∀ e ∈ entries, e.Named) ∧ (∀ e ∈ entries, V e.value.core) ∧
      entries.map Entry.padded = ps := by
  induction ps with
  | nil => exact ⟨[], nofun, nofun, rfl⟩
  | cons p ps ih =>
    obtain ⟨⟨hp, hcore⟩, hps⟩ := List.forall_mem_cons.mp h
    obtain ⟨e, he, hvalue, rfl⟩ := exists_entry hp hcore
    obtain ⟨entries, hentries, hvalues, rfl⟩ := ih hps
    exact ⟨e :: entries, List.forall_mem_cons.mpr ⟨he, hentries⟩,
      List.forall_mem_cons.mpr ⟨hvalue, hvalues⟩, rfl⟩

end Field

/-! Nested values. -/

theorem passNested_sound (depth : Nat) : Part.Sound (passNested depth) ValueText := by
  induction depth with
  | zero =>
    intro s rest h
    unfold passNested at h
    split at h
    next => exact absurd h not_gives_error
    next rest' within hhead =>
      obtain ⟨-, rfl⟩ := gives_ok_iff.mp h
      exact passHead_sound ⟨within, hhead⟩
    next => exact absurd h not_gives_fail
    next => exact absurd h not_gives_fail
  | succ depth ih =>
    intro s rest h
    unfold passNested at h
    split at h
    next => exact absurd h not_gives_error
    next rest' within hhead =>
      obtain ⟨-, rfl⟩ := gives_ok_iff.mp h
      exact passHead_sound ⟨within, hhead⟩
    next rest' within hhead =>
      obtain ⟨blanks, _, hblanks, rfl, rfl⟩ := passHead_sound ⟨within, hhead⟩
      obtain ⟨ps, ⟨body, hbody, rfl⟩, hps⟩ := passParts_sound ih (gives_behind_iff.mp h)
      refine ⟨blanks, '[' :: body, hblanks, ?_, rfl⟩
      exact .array ⟨body, hbody, fun p hp => (hps p hp).1, rfl⟩ fun p hp => (hps p hp).2
    next rest' within hhead =>
      obtain ⟨blanks, _, hblanks, rfl, rfl⟩ := passHead_sound ⟨within, hhead⟩
      have hfields : Gives (passParts (passField (passNested depth)) .object true rest') () rest :=
        gives_behind_iff.mp h
      obtain ⟨ps, ⟨body, hbody, rfl⟩, hps⟩ := passParts_sound (passField_sound ih) hfields
      obtain ⟨entries, hnamed, hvalues, rfl⟩ := exists_entries hps
      exact ⟨blanks, '\x7b' :: body, hblanks, .object ⟨body, hbody, hnamed, rfl⟩ hvalues, rfl⟩

theorem Parted.length_core_lt {close : Char} {ps : List Padded} {body : List Char}
    (h : Parted close ps body) {p : Padded} (hp : p ∈ ps) : p.core.length < body.length := by
  have hcore : ∀ q : Padded, q.core.length ≤ q.text.length := by
    intro q
    simp only [Padded.text, List.length_append]
    omega
  cases h with
  | empty => cases hp
  | parts q ps =>
    rw [List.length_append, List.length_append, List.length_singleton]
    have hfirst := hcore q
    rcases List.mem_cons.mp hp with rfl | hp
    · omega
    · have hmem : (',' :: p.text).length ≤ (behindOthers ps).length :=
        (List.sublist_flatten_of_mem
          (List.mem_map_of_mem (f := fun q : Padded => ',' :: q.text) hp)).length_le
      have := hcore p
      rw [List.length_cons] at hmem
      omega

theorem gives_passNested_scalar {depth : Nat} (h : Gives (passHead s) .scalar rest) :
    Gives (passNested depth s) () rest := by
  obtain ⟨within, h⟩ := h
  unfold passNested
  rw [h]
  exact gives_ok_iff.mpr ⟨rfl, rfl⟩

theorem gives_passNested_list {depth : Nat} (h : Gives (passHead s) .list t)
    (hitems : Gives (passParts (passNested depth) .list true t) () rest) :
    Gives (passNested (depth + 1) s) () rest := by
  obtain ⟨within, h⟩ := h
  unfold passNested
  rw [h]
  exact gives_behind_iff.mpr hitems

theorem gives_passNested_object {depth : Nat} (h : Gives (passHead s) .object t)
    (hfields : Gives (passParts (passField (passNested depth)) .object true t) () rest) :
    Gives (passNested (depth + 1) s) () rest := by
  obtain ⟨within, h⟩ := h
  unfold passNested
  rw [h]
  exact gives_behind_iff.mpr hfields

theorem passNested_complete (depth : Nat) :
    Part.Complete (passNested depth) fun core => ValueText core ∧ core.length ≤ depth := by
  induction depth with
  | zero =>
    rintro blanks core rest - ⟨h, hlength⟩
    obtain ⟨c, t, rfl, -⟩ := h.starts
    cases hlength
  | succ depth ih =>
    rintro blanks core rest hblanks ⟨h, hlength⟩ hrest
    have hskip := (skipSpace_append hblanks (core ++ rest)).symm
    rcases h.scalar_or with hscalar | ⟨items, ⟨body, hbody, hitems, rfl⟩, hvalues⟩ |
      ⟨entries, ⟨body, hbody, hnamed, rfl⟩, hvalues⟩
    · exact gives_passNested_scalar (gives_passHead_congr hskip (hscalar rest hrest))
    · have hopen : Gives (passHead ('[' :: (body ++ rest))) .list (body ++ rest) :=
        gives_ok_iff.mpr ⟨rfl, rfl⟩
      refine gives_passNested_list (gives_passHead_congr hskip hopen) ?_
      refine passParts_complete Ending.plain_list ih (fun _ hcore => hcore.1.starts)
        ⟨body, hbody, rfl⟩ fun p hp => ?_
      have hshort := hbody.length_core_lt hp
      rw [List.length_cons] at hlength
      exact ⟨hitems p hp, hvalues p hp, by omega⟩
    · have hopen : Gives (passHead ('\x7b' :: (body ++ rest))) .object (body ++ rest) :=
        gives_ok_iff.mpr ⟨rfl, rfl⟩
      refine gives_passNested_object (gives_passHead_congr hskip hopen) ?_
      refine passParts_complete Ending.plain_object (passField_complete ih)
        (fun _ hcore => hcore.starts) ⟨body, hbody, rfl⟩ fun p hp => ?_
      have hshort := hbody.length_core_lt hp
      obtain ⟨e, he, rfl⟩ := List.mem_map.mp hp
      have hvalue := e.length_value_lt
      rw [List.length_cons] at hlength
      exact ⟨⟨(hnamed e he).blanks.1, (hnamed e he).value.2⟩,
        Entry.fieldText (hnamed e he) ⟨hvalues e he, by omega⟩⟩

/-- A value that nobody wants is passed over up to its end. -/
theorem gives_passValue (h : ValueText t) {blanks : List Char} (hblanks : Blanks blanks)
    (hrest : Stops ofNumber rest) : Gives (passValue (blanks ++ (t ++ rest))) () rest := by
  have hlength : t.length ≤ (blanks ++ (t ++ rest)).length := by
    simp only [List.length_append]
    omega
  exact passNested_complete _ blanks t rest hblanks ⟨h, hlength⟩ hrest

theorem passValue_sound : Part.Sound passValue ValueText := fun s =>
  passNested_sound s.length s

end CallFlow.Json
