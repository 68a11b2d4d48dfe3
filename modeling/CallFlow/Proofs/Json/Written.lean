import CallFlow.Proofs.Json.Ordered
import CallFlow.Proofs.Json.Passed

/-!
# Reading what was written

Every text of a value is read as this value, with the names of its objects in ascending order, as
long as its lists and objects are not nested too deep. The printed text is one of them.
-/

namespace CallFlow.Json
set_option autoImplicit false

/-- The texts of a value, its fields in the order of the value. -/
inductive Writes : Value → List Char → Prop
  | null : Writes .null "null".toList
  | bool (b : Bool) : Writes (.bool b) (if b then "true".toList else "false".toList)
  | number {negative : Bool} {n : Numeral} {k : Number} {t : List Char} : NumeralText n t →
      n.value negative = .ok k → Writes (.number k) (minus negative ++ t)
  | string {s : String} {body : List Char} : Spells body s.toList →
      Writes (.string s) ('"' :: (body ++ ['"']))
  | array {items : List (Value × Padded)} {t : List Char} : ArrayText (items.map Prod.snd) t →
      (∀ p ∈ items, Writes p.1 p.2.core) → Writes (.array (items.map Prod.fst)) t
  | object {fields : List ((String × Value) × Entry)} {t : List Char} :
      ObjectText (fields.map Prod.snd) t →
      (∀ p ∈ fields, Spells p.2.name.core p.1.1.toList) →
      (∀ p ∈ fields, Writes p.1.2 p.2.value.core) → Writes (.object (fields.map Prod.fst)) t

inductive Value.Nested : Nat → Value → Prop
  | null {depth : Nat} : Nested depth .null
  | bool {depth : Nat} (b : Bool) : Nested depth (.bool b)
  | number {depth : Nat} (n : Number) : Nested depth (.number n)
  | string {depth : Nat} (s : String) : Nested depth (.string s)
  | array {depth : Nat} {items : List Value} : (∀ v ∈ items, Nested depth v) →
      Nested (depth + 1) (.array items)
  | object {depth : Nat} {fields : Fields} : (∀ p ∈ fields, Nested depth p.2) →
      Nested (depth + 1) (.object fields)

theorem Spells.isString {body cs : List Char} (h : Spells body cs) : IsString body := ⟨_, h⟩

theorem Writes.valueText {v : Value} {t : List Char} (h : Writes v t) : ValueText t := by
  induction h with
  | null => exact .null
  | bool b => exact .bool b
  | number ht _ => exact .number ⟨_, _, _, ht, rfl⟩
  | string hbody => exact .string hbody.isString
  | array ht _ ih => exact .array ht (List.forall_mem_map.mpr ih)
  | object ht _ _ ih => exact .object ht (List.forall_mem_map.mpr ih)

variable {s t rest : List Char} {c : Char} {head : Head} {v : Value}

/-! Scalars. -/

def Head.IsScalar (head : Head) : Prop := head ≠ .array ∧ head ≠ .object

theorem Head.isScalar_string (s : String) : (Head.string s).IsScalar := ⟨nofun, nofun⟩

section Numbers
variable {m n : Nat} {result : Except Error (Taken Numeral m)} {negative : Bool}

theorem gives_number_behind_iff {h : m < n} :
    Gives (do
      let numeral ← result
      let number ← numeral.value.value negative
      .ok ((numeral.map fun _ => Head.number number).behind h)) head rest ↔
    ∃ numeral k, Gives result numeral rest ∧ numeral.value negative = .ok k ∧ .number k = head :=
  gives_valued_iff Head.number fun _ _ => ⟨rfl, rfl⟩

theorem gives_number_widen_iff {h : m ≤ n} :
    Gives (do
      let numeral ← result
      let number ← numeral.value.value negative
      .ok ((numeral.map fun _ => Head.number number).widen h)) head rest ↔
    ∃ numeral k, Gives result numeral rest ∧ numeral.value negative = .ok k ∧ .number k = head :=
  gives_valued_iff Head.number fun _ _ => ⟨rfl, rfl⟩

end Numbers

theorem gives_readHead_congr {s' : List Char} (heq : skipSpace s = skipSpace s')
    (h : Gives (readHead s) head rest) : Gives (readHead s') head rest := by
  unfold readHead at h ⊢
  split at h
  next => exact absurd h not_gives_fail
  next c tail hs =>
    split
    next hnil => simp [← heq, hs] at hnil
    next c' tail' hs' =>
      obtain ⟨rfl, rfl⟩ := List.cons.inj ((hs.symm.trans heq).trans hs')
      simp only [gives_ite_iff, gives_widen_iff, gives_map_behind_iff, gives_number_behind_iff,
        gives_number_widen_iff, gives_ok_iff, not_gives_fail] at h ⊢
      rwa [heq] at h

section Behind
variable {blanks : List Char} (hblanks : Blanks blanks)
include hblanks

theorem gives_readHead_append (h : Gives (readHead s) head rest) :
    Gives (readHead (blanks ++ s)) head rest :=
  gives_readHead_congr (skipSpace_append hblanks s).symm h

theorem gives_readHead_array (s : List Char) : Gives (readHead (blanks ++ '[' :: s)) .array s :=
  gives_readHead_append hblanks (gives_ok_iff.mpr ⟨rfl, rfl⟩)

theorem gives_readHead_object (s : List Char) :
    Gives (readHead (blanks ++ '\x7b' :: s)) .object s :=
  gives_readHead_append hblanks (gives_ok_iff.mpr ⟨rfl, rfl⟩)

end Behind

/-- What is read of a scalar is the value whose text it is. -/
theorem readHead_sound (h : Gives (readHead s) head rest) (hscalar : head.IsScalar) :
    ∃ blanks v core, Blanks blanks ∧ Writes v core ∧ v.head = head ∧
      s = blanks ++ (core ++ rest) := by
  unfold readHead at h
  split at h
  next => exact absurd h not_gives_fail
  next c tail hs =>
    obtain ⟨-, blanks, hblanks, heq⟩ := skipSpace_eq_cons_iff.mp hs
    suffices hcore : ∃ v core, Writes v core ∧ v.head = head ∧ c :: tail = core ++ rest by
      obtain ⟨v, core, hcore, hhead, htail⟩ := hcore
      exact ⟨blanks, v, core, hblanks, hcore, hhead, heq.trans (congrArg _ htail)⟩
    split at h
    next hc =>
      obtain ⟨rfl, rfl⟩ := gives_takeWord_iff.mp (gives_widen_iff.mp h)
      exact ⟨_, _, .null, rfl, congrArg (· :: _) hc⟩
    split at h
    next hc =>
      obtain ⟨rfl, rfl⟩ := gives_takeWord_iff.mp (gives_widen_iff.mp h)
      exact ⟨_, _, .bool true, rfl, congrArg (· :: _) hc⟩
    split at h
    next hc =>
      obtain ⟨rfl, rfl⟩ := gives_takeWord_iff.mp (gives_widen_iff.mp h)
      exact ⟨_, _, .bool false, rfl, congrArg (· :: _) hc⟩
    split at h
    next hc =>
      obtain ⟨text, hstring, rfl⟩ := gives_map_behind_iff.mp h
      obtain ⟨body, hbody, rfl⟩ := gives_takeString_iff.mp hstring
      exact ⟨_, _, .string hbody, rfl, by simp [hc]⟩
    split at h
    next hc =>
      obtain ⟨n, k, hnumeral, hvalue, rfl⟩ := gives_number_behind_iff.mp h
      obtain ⟨t, ht, rfl⟩ := numeralText_of_gives hnumeral
      exact ⟨_, _, .number ht hvalue, rfl, congrArg (· :: _) hc⟩
    split at h
    next hc =>
      obtain ⟨n, k, hnumeral, hvalue, rfl⟩ := gives_number_widen_iff.mp h
      obtain ⟨t, ht, hrest⟩ := numeralText_of_gives hnumeral
      exact ⟨_, _, .number ht hvalue, rfl, hs ▸ hrest⟩
    split at h
    next => exact absurd (gives_ok_iff.mp h).1.symm hscalar.1
    split at h
    next => exact absurd (gives_ok_iff.mp h).1.symm hscalar.2
    exact absurd h not_gives_fail

theorem gives_readHead_digit {n : Numeral} {k : Number} (hc : c.isDigit = true)
    (h : Gives (takeNumeral .endInValue (c :: t)) n rest) (hvalue : n.value false = .ok k) :
    Gives (readHead (c :: t)) (.number k) rest := by
  have hs : skipSpace (c :: t) = c :: t := skipSpace_cons (not_isSpace_of_isDigit hc)
  unfold readHead
  split
  next hnil => simp [hs] at hnil
  next d tail hcons =>
    obtain ⟨rfl, rfl⟩ := List.cons.inj (hs.symm.trans hcons)
    have hother : ∀ d, d.isDigit = false → c ≠ d := by
      rintro d hd rfl
      exact Bool.false_ne_true (hd.symm.trans hc)
    rw [if_neg (hother _ rfl), if_neg (hother _ rfl), if_neg (hother _ rfl), if_neg (hother _ rfl),
      if_neg (hother _ rfl), if_pos hc, gives_number_widen_iff]
    exact ⟨n, k, hs.symm ▸ h, hvalue, rfl⟩

theorem Writes.gives_readHead (h : Writes v t) (hscalar : v.head.IsScalar)
    (hrest : Stops ofNumber rest) : Gives (readHead (t ++ rest)) v.head rest := by
  cases h with
  | null => exact gives_widen_iff.mpr (gives_takeWord Head.null ['u', 'l', 'l'] rest)
  | bool b =>
    cases b with
    | true => exact gives_widen_iff.mpr (gives_takeWord (Head.bool true) ['r', 'u', 'e'] rest)
    | false =>
      exact gives_widen_iff.mpr (gives_takeWord (Head.bool false) ['a', 'l', 's', 'e'] rest)
  | @number negative n k t ht hvalue =>
    have hnumeral : Gives (takeNumeral .endInValue (t ++ rest)) n rest := gives_takeNumeral ht hrest
    cases negative with
    | true => exact gives_number_behind_iff.mpr ⟨n, k, hnumeral, hvalue, rfl⟩
    | false =>
      obtain ⟨c, t, rfl, hc⟩ := ht.exists_digit
      exact gives_readHead_digit hc hnumeral hvalue
  | @string text body hbody =>
    rw [List.cons_append, List.append_assoc]
    exact gives_map_behind_iff.mpr ⟨text, gives_takeString hbody rest, rfl⟩
  | array => exact absurd rfl hscalar.1
  | object => exact absurd rfl hscalar.2

theorem Writes.takes_readHead (h : Writes v t) (hscalar : v.head.IsScalar) :
    Takes readHead t v.head :=
  fun _ _ hblanks hrest => gives_readHead_append hblanks (h.gives_readHead hscalar hrest)

/-! Items. -/

section Items
variable {α : Type} {item : Reader α} {a : α} {as : List α} {tail : List Char} {first : Bool}

theorem gives_readItems_close (h : skipSpace s = ']' :: rest) :
    Gives (readItems item first s) [] rest := by
  have hnext : ∃ within, nextItem first s = .ok (.close rest within) := by
    unfold nextItem
    split
    next hnil => simp [h] at hnil
    next c tail hcons =>
      obtain ⟨rfl, rfl⟩ := List.cons.inj (h.symm.trans hcons)
      exact ⟨length_lt_of_skipSpace h, if_pos rfl⟩
  obtain ⟨within, hnext⟩ := hnext
  unfold readItems
  rw [hnext]
  exact gives_ok_iff.mpr ⟨rfl, rfl⟩

theorem gives_readItems_item {within : t.length ≤ s.length}
    (h : nextItem first s = .ok (.item t within)) (hitem : Gives (item t) a tail)
    (htail : Gives (readItems item false tail) as rest) :
    Gives (readItems item first s) (a :: as) rest := by
  obtain ⟨_, hitem⟩ := hitem
  unfold readItems
  rw [h]
  simp only [hitem]
  exact gives_map_behind_widen_iff.mpr ⟨as, htail, rfl⟩

theorem gives_readItems_first (h : skipSpace s = c :: t) (hc : c ≠ ']')
    (hitem : Gives (item (skipSpace s)) a tail)
    (htail : Gives (readItems item false tail) as rest) :
    Gives (readItems item true s) (a :: as) rest := by
  have hnext : nextItem true s = .ok (.item (skipSpace s) (length_skipSpace_le s)) := by
    unfold nextItem
    split
    next hnil => simp [h] at hnil
    next d tail hcons =>
      obtain ⟨rfl, rfl⟩ := List.cons.inj (h.symm.trans hcons)
      rw [if_neg hc, if_pos rfl]
  exact gives_readItems_item hnext hitem htail

theorem gives_readItems_next {d : Char} {t' : List Char} (h : skipSpace s = ',' :: t)
    (ht : skipSpace t = d :: t') (hd : d ≠ ']') (hitem : Gives (item t) a tail)
    (htail : Gives (readItems item false tail) as rest) :
    Gives (readItems item false s) (a :: as) rest := by
  have hnext : nextItem false s = .ok (.item t (length_le_of_skipSpace h)) := by
    unfold nextItem
    split
    next hnil => simp [h] at hnil
    next c tail hcons =>
      obtain ⟨rfl, rfl⟩ := List.cons.inj (h.symm.trans hcons)
      rw [if_neg (by decide), if_neg Bool.false_ne_true, if_pos rfl]
      split
      next hnil => simp [ht] at hnil
      next d' tail' hcons' =>
        obtain ⟨rfl, rfl⟩ := List.cons.inj (ht.symm.trans hcons')
        rw [if_neg hd]
  exact gives_readItems_item hnext hitem htail

theorem gives_readItems_lead {lead core : List Char} (hlead : Leads first lead)
    (hcore : Starts core) (hitem : ∀ blanks, Blanks blanks →
      Gives (item (blanks ++ (core ++ tail))) a tail)
    (htail : Gives (readItems item false tail) as rest) :
    Gives (readItems item first (lead ++ (core ++ tail))) (a :: as) rest := by
  obtain ⟨c, t, rfl, hc, hclose, -⟩ := hcore
  have hstart : ∀ {blanks}, Blanks blanks →
      skipSpace (blanks ++ (c :: t ++ tail)) = c :: t ++ tail :=
    fun hblanks => skipSpace_append_cons hblanks hc
  cases hlead with
  | first hblanks =>
    have hfirst := hitem [] nofun
    rw [List.nil_append, ← hstart hblanks] at hfirst
    exact gives_readItems_first (hstart hblanks) hclose hfirst htail
  | @next gap blanks hgap hblanks =>
    have hs : skipSpace (gap ++ ',' :: blanks ++ (c :: t ++ tail)) =
        ',' :: (blanks ++ (c :: t ++ tail)) := by
      rw [List.append_assoc]
      exact skipSpace_append_cons hgap rfl
    exact gives_readItems_next hs (hstart hblanks) hclose (hitem blanks hblanks) htail

/-- Items are read one after the other, whatever it is that they are the texts of. -/
theorem gives_readItems {β : Type} (value : β → α) (text : β → Padded) {parts : List β}
    (h : GoesOn ']' first (parts.map text) s rest) (hblanks : ∀ p ∈ parts, (text p).InBlanks)
    (hstarts : ∀ p ∈ parts, Starts (text p).core)
    (hitem : ∀ p ∈ parts, Takes item (text p).core (value p)) :
    Gives (readItems item first s) (parts.map value) rest := by
  induction parts generalizing first s with
  | nil => exact gives_readItems_close (h.skipSpace_eq rfl)
  | cons p parts ih =>
    obtain ⟨hp, hblanks⟩ := List.forall_mem_cons.mp hblanks
    obtain ⟨hstart, hstarts⟩ := List.forall_mem_cons.mp hstarts
    obtain ⟨hfirst, hitem⟩ := List.forall_mem_cons.mp hitem
    obtain ⟨lead, tail, hlead, htail, rfl⟩ := h.cons hp
    exact gives_readItems_lead hlead hstart (fun blanks hgap => hfirst _ _ hgap (htail.stops rfl))
      (ih htail hblanks hstarts hitem)

end Items
/-! Fields. -/

def Names (result : Except Error (NextName s)) (name : String) (rest : List Char) : Prop :=
  ∃ within, result = .ok (.name ⟨name, rest, within⟩)

/-- No field follows, and so much is left behind the brace. -/
def Closes (result : Except Error (NextName s)) (rest : List Char) : Prop :=
  ∃ within, result = .ok (.close rest within)

section NextName
variable {m : Nat} {result : Except Error (Taken String m)} {first : Bool} {name : String}

theorem names_ok_iff {x : Taken String s.length} :
    Names (.ok (.name x)) name rest ↔ x.value = name ∧ x.rest = rest := by
  constructor
  · rintro ⟨within, h⟩
    cases h
    exact ⟨rfl, rfl⟩
  · rintro ⟨rfl, rfl⟩
    exact ⟨x.within, rfl⟩

theorem not_closes_name {f : Taken String m → Taken String s.length} :
    ¬ Closes (s := s) (result.map fun x => .name (f x)) rest := by
  rintro ⟨within, h⟩
  cases result <;> cases h

theorem names_behind_iff {h : m < s.length} :
    Names (s := s) (result.map fun x => .name (x.behind h)) name rest ↔ Gives result name rest := by
  cases result with
  | error e => simp [Names, Except.map]
  | ok x =>
    rw [gives_ok_iff]
    exact names_ok_iff

theorem names_behind_behind_iff {k : Nat} {h : m < k} {h' : k < s.length} :
    Names (s := s) (result.map fun x => .name ((x.behind h).behind h')) name rest ↔
      Gives result name rest := by
  cases result with
  | error e => simp [Names, Except.map]
  | ok x =>
    rw [gives_ok_iff]
    exact names_ok_iff

theorem nextName_close (h : skipSpace s = '\x7d' :: rest) : Closes (nextName first s) rest := by
  unfold nextName
  split
  next hnil => simp [h] at hnil
  next c tail hcons =>
    obtain ⟨rfl, rfl⟩ := List.cons.inj (h.symm.trans hcons)
    exact ⟨length_lt_of_skipSpace h, if_pos rfl⟩

theorem nextName_first (h : skipSpace s = '"' :: t) (hname : Gives (takeString t) name rest) :
    Names (nextName true s) name rest := by
  unfold nextName
  split
  next hnil => simp [h] at hnil
  next c tail hcons =>
    obtain ⟨rfl, rfl⟩ := List.cons.inj (h.symm.trans hcons)
    rw [if_neg (by decide), if_pos rfl, if_pos rfl]
    exact names_behind_iff.mpr hname

theorem nextName_next {t' : List Char} (h : skipSpace s = ',' :: t) (ht : skipSpace t = '"' :: t')
    (hname : Gives (takeString t') name rest) : Names (nextName false s) name rest := by
  unfold nextName
  split
  next hnil => simp [h] at hnil
  next c tail hcons =>
    obtain ⟨rfl, rfl⟩ := List.cons.inj (h.symm.trans hcons)
    rw [if_neg (by decide), if_neg Bool.false_ne_true, if_pos rfl]
    split
    next hnil => simp [ht] at hnil
    next c' tail' hcons' =>
      obtain ⟨rfl, rfl⟩ := List.cons.inj (ht.symm.trans hcons')
      rw [if_pos rfl]
      exact names_behind_behind_iff.mpr hname

theorem closes_sound (h : Closes (nextName first s) rest) :
    ∃ gap, Blanks gap ∧ s = gap ++ '\x7d' :: rest := by
  unfold nextName at h
  split at h
  next => obtain ⟨_, ⟨⟩⟩ := h
  next c tail hs =>
    obtain ⟨-, gap, hgap, rfl⟩ := skipSpace_eq_cons_iff.mp hs
    split at h
    next hc =>
      obtain ⟨_, ⟨⟩⟩ := h
      exact ⟨gap, hgap, congrArg (gap ++ · :: _) hc⟩
    split at h
    next =>
      split at h
      next => exact absurd h not_closes_name
      next => obtain ⟨_, ⟨⟩⟩ := h
    split at h
    next =>
      split at h
      next => obtain ⟨_, ⟨⟩⟩ := h
      next =>
        split at h
        next => exact absurd h not_closes_name
        split at h <;> obtain ⟨_, ⟨⟩⟩ := h
    next => obtain ⟨_, ⟨⟩⟩ := h

theorem names_sound (h : Names (nextName first s) name rest) :
    ∃ lead body, Leads first lead ∧ Spells body name.toList ∧
      s = lead ++ '"' :: (body ++ '"' :: rest) := by
  unfold nextName at h
  split at h
  next => obtain ⟨_, ⟨⟩⟩ := h
  next c tail hs =>
    obtain ⟨-, gap, hgap, rfl⟩ := skipSpace_eq_cons_iff.mp hs
    split at h
    next => obtain ⟨_, ⟨⟩⟩ := h
    split at h
    next hfirst =>
      subst hfirst
      split at h
      next hc =>
        obtain ⟨body, hbody, rfl⟩ := gives_takeString_iff.mp (names_behind_iff.mp h)
        exact ⟨gap, body, .first hgap, hbody, congrArg (gap ++ · :: _) hc⟩
      next => obtain ⟨_, ⟨⟩⟩ := h
    next hfirst =>
      obtain rfl := Bool.eq_false_of_not_eq_true hfirst
      split at h
      next hc =>
        split at h
        next => obtain ⟨_, ⟨⟩⟩ := h
        next c' tail' hs' =>
          obtain ⟨-, blanks, hblanks, rfl⟩ := skipSpace_eq_cons_iff.mp hs'
          split at h
          next hc' =>
            obtain ⟨body, hbody, rfl⟩ := gives_takeString_iff.mp (names_behind_behind_iff.mp h)
            exact ⟨gap ++ ',' :: blanks, body, .next hgap hblanks, hbody, by simp [hc, hc']⟩
          split at h <;> obtain ⟨_, ⟨⟩⟩ := h
      next => obtain ⟨_, ⟨⟩⟩ := h

end NextName

/-! A field of an object: its name, its colon, and what stands before its value. -/

section Field
variable {first : Bool} {name : String} {e : Entry} {ps : List Padded}

theorem names_lead {lead body : List Char} (hlead : Leads first lead) (hbody : Spells body name.toList)
    (rest : List Char) : Names (nextName first (lead ++ '"' :: (body ++ '"' :: rest))) name rest := by
  have hname := gives_takeString hbody rest
  cases hlead with
  | first hblanks =>
    exact nextName_first (skipSpace_append_cons hblanks rfl) hname
  | @next gap blanks hgap hblanks =>
    rw [List.append_assoc]
    exact nextName_next (skipSpace_append_cons hgap rfl) (skipSpace_append_cons hblanks rfl) hname

theorem GoesOn.names (h : GoesOn '\x7d' first (e.padded :: ps) s rest) (he : e.Named)
    (hname : Spells e.name.core name.toList) :
    ∃ t tail, Names (nextName first s) name t ∧
      Gives (takeColon t) () (e.value.before ++ (e.value.core ++ tail)) ∧
      GoesOn '\x7d' false ps tail rest := by
  obtain ⟨lead, tail, hlead, htail, rfl⟩ := h.cons ⟨he.blanks.1, he.value.2⟩
  have htext : lead ++ (e.padded.core ++ (e.padded.behind ++ tail)) =
      lead ++ '"' :: (e.name.core ++ '"' :: (e.name.behind ++
        ':' :: (e.value.before ++ (e.value.core ++ (e.value.behind ++ tail))))) := by
    simp [Entry.padded]
  rw [htext]
  exact ⟨_, _, names_lead hlead hname _, gives_takeColon_iff.mpr ⟨_, he.blanks.2, rfl⟩, htail⟩

theorem GoesOn.exists_field {u tail core blanks : List Char} (hname : Names (nextName first s) name t)
    (hcolon : Gives (takeColon t) () u) (hvalue : u = blanks ++ (core ++ tail))
    (hblanks : Blanks blanks) (htail : GoesOn '\x7d' false ps tail rest) :
    ∃ e : Entry, e.Named ∧ Spells e.name.core name.toList ∧ e.value.core = core ∧
      GoesOn '\x7d' first (e.padded :: ps) s rest := by
  obtain ⟨lead, body, hlead, hbody, rfl⟩ := names_sound hname
  obtain ⟨gap, hgap, rfl⟩ := gives_takeColon_iff.mp hcolon
  obtain ⟨before, behind, hbefore, hbehind, hall⟩ := htail.exists_cons hlead
    ('"' :: (body ++ '"' :: (gap ++ ':' :: (blanks ++ core))))
  refine ⟨⟨⟨before, body, gap⟩, ⟨blanks, core, behind⟩⟩,
    ⟨hbody.isString, ⟨hbefore, hgap⟩, ⟨hblanks, hbehind⟩⟩, hbody, rfl, ?_⟩
  rw [hvalue]
  simpa [Entry.padded] using hall

end Field

section Fields
variable {α : Type} {value : Reader α} {a : α} {fields : List (String × α)} {first : Bool}
variable {tail : List Char} {name : String}

theorem gives_readFields_close (h : skipSpace s = '\x7d' :: rest) :
    Gives (readFields value first s) [] rest := by
  obtain ⟨within, h⟩ : Closes (nextName first s) rest := nextName_close h
  unfold readFields
  rw [h]
  exact gives_ok_iff.mpr ⟨rfl, rfl⟩

theorem gives_readFields_name {t' : List Char} (hname : Names (nextName first s) name t)
    (hcolon : Gives (takeColon t) () t') (hvalue : Gives (value t') a tail)
    (htail : Gives (readFields value false tail) fields rest) :
    Gives (readFields value first s) ((name, a) :: fields) rest := by
  obtain ⟨_, hname⟩ := hname
  obtain ⟨_, hcolon⟩ := hcolon
  obtain ⟨_, hvalue⟩ := hvalue
  unfold readFields
  rw [hname]
  simp only [hcolon, hvalue]
  exact gives_map_behind_behind_behind_iff.mpr ⟨fields, htail, rfl⟩

/-- A field of the grammar whose value is read wherever it stands. -/
structure Entry.Reads (e : Entry) (value : Reader α) (field : String × α) : Prop where
  named : e.Named
  name : Spells e.name.core field.1.toList
  value : ∀ blanks rest, Blanks blanks → Stops ofNumber rest →
    Gives (value (blanks ++ (e.value.core ++ rest))) field.2 rest

/-- Fields are read one after the other, whatever it is that they are the texts of. -/
theorem gives_readFields {β : Type} (field : β → String × α) (text : β → Entry) {parts : List β}
    (h : GoesOn '\x7d' first ((parts.map text).map Entry.padded) s rest)
    (hparts : ∀ p ∈ parts, (text p).Reads value (field p)) :
    Gives (readFields value first s) (parts.map field) rest := by
  induction parts generalizing first s with
  | nil => exact gives_readFields_close (h.skipSpace_eq rfl)
  | cons p parts ih =>
    obtain ⟨hp, hparts⟩ := List.forall_mem_cons.mp hparts
    obtain ⟨t, tail, hname, hcolon, htail⟩ := h.names hp.named hp.name
    exact gives_readFields_name hname hcolon
      (hp.value _ _ hp.named.value.1 (htail.stops rfl)) (ih htail hparts)

end Fields

/-! Values. -/

theorem gives_readValue_list (h : Gives (readHead s) .array t) {items : List Value} {depth : Nat}
    (hitems : Gives (readItems (readValue depth) true t) items rest) :
    Gives (readValue (depth + 1) s) (.array items) rest := by
  obtain ⟨_, h⟩ := h
  unfold readValue
  rw [h]
  exact gives_map_behind_iff.mpr ⟨items, hitems, rfl⟩

theorem gives_readValue_object (h : Gives (readHead s) .object t) {fields : Fields} {depth : Nat}
    (hfields : Gives (readFields (readValue depth) true t) fields rest) :
    Gives (readValue (depth + 1) s) (.object (Fields.ofList fields)) rest := by
  obtain ⟨_, h⟩ := h
  unfold readValue
  rw [h]
  exact gives_map_behind_iff.mpr ⟨fields, hfields, rfl⟩

theorem Writes.takes_readValue_scalar (h : Writes v t) (hscalar : v.head.IsScalar) {depth : Nat} :
    Takes (readValue depth) t v.inOrder := by
  intro blanks rest hblanks hrest
  obtain ⟨_, hhead⟩ := h.takes_readHead hscalar blanks rest hblanks hrest
  unfold readValue
  rw [hhead]
  cases v with
  | array => exact absurd rfl hscalar.1
  | object => exact absurd rfl hscalar.2
  | _ => exact gives_ok_iff.mpr ⟨rfl, rfl⟩

/-- A text of a value is read as this value in order. -/
theorem Writes.takes_readValue (h : Writes v t) {depth : Nat} (hdepth : v.Nested depth) :
    Takes (readValue depth) t v.inOrder := by
  induction h generalizing depth with
  | null => exact Writes.null.takes_readValue_scalar ⟨nofun, nofun⟩
  | bool b => exact (Writes.bool b).takes_readValue_scalar ⟨nofun, nofun⟩
  | number ht hvalue => exact (Writes.number ht hvalue).takes_readValue_scalar ⟨nofun, nofun⟩
  | string hbody => exact (Writes.string hbody).takes_readValue_scalar (Head.isScalar_string _)
  | @array parts _ ht hparts ih =>
    intro blanks rest hblanks hrest
    obtain ⟨body, hbody, hgaps, rfl⟩ := ht
    cases hdepth with
    | @array depth _ hitems =>
      have hread : Gives (readItems (readValue depth) true (body ++ rest))
          (parts.map fun p => p.1.inOrder) rest :=
        gives_readItems _ Prod.snd ⟨body, hbody, rfl⟩ (List.forall_mem_map.mp hgaps)
          (fun p hp => (hparts p hp).valueText.starts)
          fun p hp => ih p hp (hitems _ (List.mem_map_of_mem hp))
      rw [Value.inOrder, itemsInOrder_eq_map, List.map_map]
      exact gives_readValue_list (gives_readHead_array hblanks _) hread
  | @object fields _ ht hnames hvalues ih =>
    intro blanks rest hblanks hrest
    obtain ⟨body, hbody, hnamed, rfl⟩ := ht
    cases hdepth with
    | @object depth _ hfields =>
      have hread : Gives (readFields (readValue depth) true (body ++ rest))
          (fields.map fun p => (p.1.1, p.1.2.inOrder)) rest :=
        gives_readFields _ Prod.snd ⟨body, hbody, rfl⟩ fun p hp =>
          ⟨hnamed _ (List.mem_map_of_mem hp), hnames p hp,
            ih p hp (hfields _ (List.mem_map_of_mem hp))⟩
      rw [Value.inOrder, fieldsInOrder_eq_map, List.map_map]
      exact gives_readValue_object (gives_readHead_object hblanks _) hread

end CallFlow.Json
