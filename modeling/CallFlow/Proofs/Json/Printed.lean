import CallFlow.Json.Printer
import CallFlow.Proofs.Json.Filled

/-!
# Printed texts

The printed text of a value is one of its texts, so that reading it gives the value again. That holds
as long as whole numbers fit 64 bits and there are no others: those would be rounded.
-/

namespace CallFlow.Json
set_option autoImplicit false

/-! Strings. -/

theorem hexNumber?_hexDigit {n : Nat} (h : n < 0x20) :
    hexNumber? ['0', '0', hexDigit (n / 16), hexDigit (n % 16)] = some n := by
  have hall : ∀ n < 0x20, hexNumber? ['0', '0', hexDigit (n / 16), hexDigit (n % 16)] = some n := by
    decide
  exact hall n h

theorem charText_escapeChar (c : Char) : CharText (escapeChar c) c := by
  unfold escapeChar
  split_ifs with hquote hslash hb hf hn hr ht hsmall
  · rw [hquote]
    exact .escape (by decide)
  · rw [hslash]
    exact .escape (by decide)
  · rw [hb]
    exact .escape (by decide)
  · rw [hf]
    exact .escape (by decide)
  · rw [hn]
    exact .escape (by decide)
  · rw [hr]
    exact .escape (by decide)
  · rw [ht]
    exact .escape (by decide)
  · refine .one (hexNumber?_hexDigit hsmall) ?_
    rw [units, if_pos (by omega)]
  · exact .plain hquote hslash (Nat.not_lt.mp hsmall)

theorem spells_escaped (s : List Char) : Spells (s.flatMap escapeChar) s := by
  rw [spells_iff]
  refine ⟨s.map escapeChar, ?_, List.flatMap_def⟩
  rw [List.forall₂_map_left_iff, List.forall₂_same]
  exact fun c _ => charText_escapeChar c

/-! Numbers. -/

theorem head?_toDigits {n : Nat} (h : 0 < n) : (Nat.toDigits 10 n).head? ≠ some '0' := by
  induction n using Nat.strongRecOn with
  | ind n ih =>
    by_cases hsmall : n < 10
    · rw [Nat.toDigits_of_lt_base hsmall]
      have hall : ∀ m < 10, 0 < m → [m.digitChar].head? ≠ some '0' := by decide
      exact hall n hsmall h
    · have hdiv : 0 < n / 10 := by omega
      obtain ⟨d, ds, hds⟩ := List.exists_cons_of_ne_nil (Nat.toDigits_ne_nil (b := 10) (n := n / 10))
      have hhead := ih (n / 10) (by omega) hdiv
      rw [Nat.toDigits_of_base_le (by decide) (Nat.not_lt.mp hsmall), hds]
      rwa [hds] at hhead

theorem wholeDigits_toDigits (n : Nat) : WholeDigits (Nat.toDigits 10 n) := by
  refine ⟨⟨Nat.toDigits_ne_nil, fun d hd => ?_⟩, fun hzero => ?_⟩
  · exact Nat.isDigit_of_mem_toDigits (by decide) (by decide) hd
  · cases n with
    | zero => rfl
    | succ n => exact absurd hzero (head?_toDigits (Nat.succ_pos n))

theorem le_ofDigitChars (ds : List Char) (n : Nat) : n ≤ Nat.ofDigitChars 10 ds n := by
  induction ds generalizing n with
  | nil => exact Nat.le_refl _
  | cons d ds ih =>
    rw [Nat.ofDigitChars_cons]
    have := ih (10 * n + (d.toNat - '0'.toNat))
    omega

theorem absorb_cons {d : Char} {ds : List Char} {n : Nat}
    (h : 10 * n + (d.toNat - '0'.toNat) < UInt64.size) :
    absorb n (d :: ds) = absorb (10 * n + (d.toNat - '0'.toNat)) ds := by
  rw [absorb]
  exact if_pos h

theorem absorb_eq {ds : List Char} {n k : Nat} (hk : Nat.ofDigitChars 10 ds n = k)
    (h : k < UInt64.size) : absorb n ds = (k, []) := by
  induction ds generalizing n with
  | nil =>
    rw [← hk]
    rfl
  | cons d ds ih =>
    rw [Nat.ofDigitChars_cons] at hk
    have hfits : 10 * n + (d.toNat - '0'.toNat) < UInt64.size :=
      Nat.lt_of_le_of_lt (hk ▸ le_ofDigitChars ds _) h
    rw [absorb_cons hfits, ih hk]

theorem Numeral.value_toDigits {n : Nat} (h : n < UInt64.size) (negative : Bool) :
    Numeral.value negative ⟨Nat.toDigits 10 n, [], none⟩ = wholeOf negative n := by
  simp only [Numeral.value, absorb_eq (Decimal.ofDigits_toDigits n) h, absorb, List.isEmpty_nil,
    Bool.and_self, if_true]

/-- A number that is read again as it was written. -/
def Number.Exact (n : Number) : Prop := ∃ k : Nat, n = .int k ∧ k < UInt64.size

theorem Number.Exact.writes {n : Number} (h : n.Exact) : Writes (.number n) n.text := by
  obtain ⟨k, rfl, hk⟩ := h
  have htext : (Number.int k).text = Nat.toDigits 10 k := by
    rw [Number.text, if_neg (by omega), Int.natAbs_natCast]
  have hnumeral := NumeralText.intro (wholeDigits_toDigits k) .absent .absent
  have hvalue : Numeral.value false ⟨Nat.toDigits 10 k, [], none⟩ = .ok (.int k) :=
    Numeral.value_toDigits hk false
  have hwrites := Writes.number hnumeral hvalue
  rw [htext]
  simpa [minus] using hwrites

/-! Values. -/

/-- A value whose text gives it back: its numbers are exact, no name comes twice in an object, and
at most so many lists and objects are inside one another. -/
inductive Value.Printable : Nat → Value → Prop
  | null {depth : Nat} : Printable depth .null
  | bool {depth : Nat} (b : Bool) : Printable depth (.bool b)
  | number {depth : Nat} {n : Number} : n.Exact → Printable depth (.number n)
  | string {depth : Nat} (s : String) : Printable depth (.string s)
  | array {depth : Nat} {items : List Value} : (∀ v ∈ items, Printable depth v) →
      Printable (depth + 1) (.array items)
  | object {depth : Nat} {fields : Fields} : fields.Distinct →
      (∀ p ∈ fields, Printable depth p.2) → Printable (depth + 1) (.object fields)

def printedItem (v : Value) : Padded := ⟨[], v.text, []⟩

def printedField (p : String × Value) : Entry :=
  ⟨⟨[], p.1.toList.flatMap escapeChar, []⟩, ⟨[], p.2.text, []⟩⟩

theorem named_printedField (p : String × Value) : (printedField p).Named where
  name := (spells_escaped _).isString
  blanks := ⟨nofun, nofun⟩
  value := ⟨nofun, nofun⟩

theorem itemsText_eq (items : List Value) :
    itemsText items = behindOthers (items.map printedItem) ++ [']'] := by
  induction items with
  | nil => rfl
  | cons item items ih =>
    rw [itemsText, ih]
    simp [behindOthers, printedItem, Padded.text]

theorem fieldsText_eq (fields : Fields) :
    fieldsText fields = behindOthers ((fields.map printedField).map Entry.padded) ++ ['\x7d'] := by
  induction fields with
  | nil => rfl
  | cons p fields ih =>
    obtain ⟨name, v⟩ := p
    rw [fieldsText, ih]
    simp [behindOthers, printedField, Entry.padded, Padded.text, stringText]

theorem arrayText_text (items : List Value) :
    ArrayText (items.map printedItem) (Value.array items).text := by
  have hblanks : ∀ p ∈ items.map printedItem, p.InBlanks :=
    List.forall_mem_map.mpr fun v _ => ⟨nofun, nofun⟩
  cases items with
  | nil => exact ⟨_, .empty blanks_nil, hblanks, rfl⟩
  | cons item items =>
    refine ⟨_, .parts _ _, hblanks, ?_⟩
    rw [Value.text, itemsText_eq]
    simp [printedItem, Padded.text]

theorem objectText_text (fields : Fields) :
    ObjectText (fields.map printedField) (Value.object fields).text := by
  have hnamed : ∀ e ∈ fields.map printedField, e.Named :=
    List.forall_mem_map.mpr fun p _ => named_printedField p
  cases fields with
  | nil => exact ⟨_, .empty blanks_nil, hnamed, rfl⟩
  | cons p fields =>
    obtain ⟨name, v⟩ := p
    refine ⟨_, .parts _ _, hnamed, ?_⟩
    rw [Value.text, fieldsText_eq]
    simp [printedField, Entry.padded, Padded.text, stringText]

namespace Value.Printable
variable {depth : Nat} {v : Value} (h : v.Printable depth)
include h

theorem nested : v.Nested depth := by
  induction h with
  | null => exact .null
  | bool b => exact .bool b
  | number => exact .number _
  | string s => exact .string s
  | array _ ih => exact .array ih
  | object _ _ ih => exact .object ih

theorem distinct : v.Distinct := by
  induction h with
  | null => exact .null
  | bool b => exact .bool b
  | number => exact .number _
  | string s => exact .string s
  | array _ ih => exact .array ih
  | object hnames _ ih => exact .object hnames ih

theorem mono {depth' : Nat} (hle : depth ≤ depth') : v.Printable depth' := by
  induction h generalizing depth' with
  | null => exact .null
  | bool b => exact .bool b
  | number h => exact .number h
  | string s => exact .string s
  | array _ ih =>
    obtain ⟨depth', rfl⟩ := Nat.exists_eq_add_of_lt hle
    exact .array fun v hv => ih v hv (by omega)
  | object hnames _ ih =>
    obtain ⟨depth', rfl⟩ := Nat.exists_eq_add_of_lt hle
    exact .object hnames fun p hp => ih p hp (by omega)

theorem writes : Writes v v.text := by
  induction h with
  | null => exact .null
  | bool b =>
    cases b with
    | false => exact .bool false
    | true => exact .bool true
  | number h => exact h.writes
  | string s => exact .string (spells_escaped _)
  | @array _ items _ ih =>
    have hwrites : Writes (.array ((items.map fun v => (v, printedItem v)).map Prod.fst))
        (Value.array items).text := by
      refine .array ?_ (List.forall_mem_map.mpr ih)
      rw [List.map_map]
      exact arrayText_text items
    rwa [List.map_map, List.map_id''] at hwrites
    exact fun _ => rfl
  | @object _ fields _ _ ih =>
    have hwrites : Writes (.object ((fields.map fun p => (p, printedField p)).map Prod.fst))
        (Value.object fields).text := by
      refine .object ?_ (List.forall_mem_map.mpr fun p _ => spells_escaped _)
        (List.forall_mem_map.mpr ih)
      rw [List.map_map]
      exact objectText_text fields
    rwa [List.map_map, List.map_id''] at hwrites
    exact fun _ => rfl

end Value.Printable

theorem isObject_toText {fields : Fields} (h : ∀ p ∈ fields, ValueText p.2.text) :
    IsObject (fields.map printedField) (Value.object fields).toText := by
  refine ⟨⟨[], (Value.object fields).text, []⟩, ⟨blanks_nil, blanks_nil⟩, objectText_text fields,
    List.forall_mem_map.mpr h, ?_⟩
  rw [Value.toText, String.toList_ofList, Padded.text, List.append_nil, List.nil_append]

/-- Reading the printed text gives the value back, its names in order. -/
theorem Value.Printable.ofText_toText {v : Value} (h : v.Printable maxNesting) :
    Value.ofText v.toText = .ok v.inOrder := by
  have hread : Gives (readValue maxNesting ([] ++ (v.text ++ []))) v.inOrder [] :=
    h.writes.takes_readValue h.nested _ _ blanks_nil .nil
  rw [List.nil_append, List.append_nil] at hread
  rw [Value.ofText, readText_eq_ok_iff, Value.toText, String.toList_ofList]
  exact ⟨[], hread, blanks_nil⟩

end CallFlow.Json
