import CallFlow.Proofs.Json.Steps
import Mathlib.Data.String.Basic

/-!
# Reading strings

A string is read exactly if it is that of a text, and passed over exactly if it is one of the grammar.
Either way it ends at its own quote, whatever follows.
-/

namespace CallFlow.Json
set_option autoImplicit false

/-! Escapes. -/

theorem hexDigit?_eq (c : Char) : hexDigit? c = hexValue? c := by
  by_cases h : c.toNat < 128
  · have hsmall : ∀ n < 128, hexDigit? (Char.ofNat n) = hexValue? (Char.ofNat n) := by decide
    rw [← Char.ofNat_toNat c]
    exact hsmall c.toNat h
  · have hletter : ∀ d : Char, d.toNat < 128 → ¬ c ≤ d := by
      intro d hd hle
      have hle' : c.toNat ≤ d.toNat := UInt32.le_iff_toNat_le.mp hle
      omega
    have hdigit : c.isDigit = false := by
      rw [← Bool.not_eq_true]
      intro hdigit
      simp only [Char.isDigit, Bool.and_eq_true, decide_eq_true_eq] at hdigit
      exact hletter '9' (by decide) hdigit.2
    have hvalue : hexValue? c = none := by
      simp [hexValue?, hdigit, hletter 'f' (by decide), hletter 'F' (by decide)]
    have hlower : c.toLower = c := dif_neg fun hupper => hletter 'Z' (by decide) hupper.2
    rw [hvalue, hexDigit?, List.idxOf?_eq_none_iff, hlower]
    intro hmem
    have hascii : "0123456789abcdef".toList.all (·.toNat < 128) = true := by decide
    exact h (of_decide_eq_true (List.all_eq_true.mp hascii c hmem))

theorem hexValue?_lt {c : Char} {n : Nat} (h : hexValue? c = some n) : n < 16 := by
  rw [← hexDigit?_eq, hexDigit?] at h
  exact (List.idxOf?_eq_some_iff.mp h).1

theorem hexNumber?_four (a b c d : Char) : hexNumber? [a, b, c, d] =
    match hexValue? a, hexValue? b, hexValue? c, hexValue? d with
    | some a, some b, some c, some d => some (((a * 16 + b) * 16 + c) * 16 + d)
    | _, _, _, _ => none := by
  simp only [hexNumber?, List.foldlM_cons, List.foldlM_nil, hexDigit?_eq]
  cases hexValue? a <;> cases hexValue? b <;> cases hexValue? c <;> cases hexValue? d <;>
    simp [Nat.mul_comm]

theorem hexNumber?_lt {a b c d : Char} {u : Nat} (h : hexNumber? [a, b, c, d] = some u) :
    u < 0x10000 := by
  rw [hexNumber?_four] at h
  split at h
  next a b c d ha hb hc hd =>
    have := hexValue?_lt ha
    have := hexValue?_lt hb
    have := hexValue?_lt hc
    have := hexValue?_lt hd
    have := Option.some.inj h
    omega
  next => cases h

theorem four_le_leadingBytes (a b c d : Char) (rest : List Char) :
    4 ≤ leadingBytes (a :: b :: c :: d :: rest) := by
  have := a.utf8Size_pos
  have := b.utf8Size_pos
  have := c.utf8Size_pos
  have := d.utf8Size_pos
  rw [leadingBytes, String.utf8ByteSize_ofList]
  simp only [List.take_succ_cons, List.take_zero, String.utf8Len_cons, String.utf8Len_nil]
  omega

theorem gives_takeUnit_iff {s rest : List Char} {u : Nat} :
    Gives (takeUnit s) u rest ↔
      ∃ a b c d, s = a :: b :: c :: d :: rest ∧ hexNumber? [a, b, c, d] = some u := by
  constructor
  · intro h
    unfold takeUnit at h
    split at h
    · exact absurd h not_gives_fail
    · split at h
      next a b c d tail _ =>
        split at h
        next ha hb hc hd =>
          obtain ⟨rfl, rfl⟩ := gives_ok_iff.mp h
          exact ⟨a, b, c, d, rfl, by rw [hexNumber?_four, ha, hb, hc, hd]⟩
        next => exact absurd h not_gives_fail
      next => exact absurd h not_gives_fail
  · rintro ⟨a, b, c, d, rfl, h⟩
    have hdigits : ∃ x y z w, hexValue? a = some x ∧ hexValue? b = some y ∧ hexValue? c = some z ∧
        hexValue? d = some w ∧ ((x * 16 + y) * 16 + z) * 16 + w = u := by
      rw [hexNumber?_four] at h
      split at h
      next x y z w ha hb hc hd => exact ⟨x, y, z, w, ha, hb, hc, hd, Option.some.inj h⟩
      next => cases h
    obtain ⟨x, y, z, w, ha, hb, hc, hd, rfl⟩ := hdigits
    rw [takeUnit, if_neg (Nat.not_lt.mpr (four_le_leadingBytes a b c d rest))]
    simp only [ha, hb, hc, hd]
    exact gives_ok_iff.mpr ⟨rfl, rfl⟩

theorem gives_takeUnit {a b c d : Char} {u : Nat} (h : hexNumber? [a, b, c, d] = some u)
    (rest : List Char) : Gives (takeUnit (a :: b :: c :: d :: rest)) u rest :=
  gives_takeUnit_iff.mpr ⟨a, b, c, d, rfl, h⟩

theorem unescape?_eq_some_iff {letter c : Char} :
    unescape? letter = some c ↔ (letter, c) ∈ escapes := by
  unfold unescape?
  split <;> simp_all [escapes, eq_comm]

theorem escapes_ne_u {letter c : Char} (h : (letter, c) ∈ escapes) : letter ≠ 'u' := by
  rintro rfl
  rw [← unescape?_eq_some_iff] at h
  cases h

/-! Code units. -/

theorem toNat_valid (c : Char) : c.toNat < 0xD800 ∨ 0xDFFF < c.toNat ∧ c.toNat < 0x110000 :=
  c.valid

theorem toNat_ofNat {n : Nat} (h : n.isValidChar) : (Char.ofNat n).toNat = n := by
  rw [Char.ofNat, dif_pos h]
  rfl

theorem eq_ofNat_iff {c : Char} {n : Nat} (h : n.isValidChar) : c = Char.ofNat n ↔ c.toNat = n := by
  constructor
  · intro hc
    rw [hc, toNat_ofNat h]
  · intro hc
    rw [← hc, Char.ofNat_toNat]

theorem units_eq_one_iff {c : Char} {u : Nat} (hu : u < 0x10000) :
    units c = [u] ↔ isHighSurrogate u = false ∧ isLowSurrogate u = false ∧ c = Char.ofNat u := by
  have hvalid := toNat_valid c
  have hkind : isHighSurrogate u = false ∧ isLowSurrogate u = false ↔ u.isValidChar := by
    simp only [isHighSurrogate, isLowSurrogate, Bool.and_eq_false_iff, decide_eq_false_iff_not,
      Nat.isValidChar]
    omega
  rw [← and_assoc, hkind]
  have hiff : units c = [u] ↔ u.isValidChar ∧ c.toNat = u := by
    unfold units Nat.isValidChar
    split <;> simp only [List.cons.injEq, reduceCtorEq, and_true, and_false, false_iff, not_and] <;>
      omega
  rw [hiff]
  exact and_congr_right fun h => (eq_ofNat_iff h).symm

theorem units_eq_two_iff {c : Char} {u v : Nat} :
    units c = [u, v] ↔ isHighSurrogate u = true ∧ isLowSurrogate v = true ∧
      c = Char.ofNat (0x10000 + (u - 0xD800) * 0x400 + (v - 0xDC00)) := by
  have hvalid := toNat_valid c
  have hiff : units c = [u, v] ↔ (isHighSurrogate u = true ∧ isLowSurrogate v = true) ∧
      c.toNat = 0x10000 + (u - 0xD800) * 0x400 + (v - 0xDC00) := by
    simp only [isHighSurrogate, isLowSurrogate, Bool.and_eq_true, decide_eq_true_eq]
    unfold units
    split <;> simp only [List.cons.injEq, reduceCtorEq, and_true, and_false, false_iff, not_and] <;>
      omega
  rw [hiff, ← and_assoc]
  refine and_congr_right fun h => (eq_ofNat_iff ?_).symm
  simp only [isHighSurrogate, isLowSurrogate, Bool.and_eq_true, decide_eq_true_eq] at h
  unfold Nat.isValidChar
  omega

theorem units_ne_nil (c : Char) : units c ≠ [] := by
  unfold units
  split <;> exact List.cons_ne_nil _ _

theorem units_one_or_two (c : Char) : (∃ u, units c = [u]) ∨ ∃ u v, units c = [u, v] := by
  unfold units
  split
  · exact .inl ⟨_, rfl⟩
  · exact .inr ⟨_, _, rfl⟩

/-- What may be written for one character of a text. -/
inductive CharText : List Char → Char → Prop
  | plain {c : Char} : c ≠ '"' → c ≠ '\\' → 0x20 ≤ c.toNat → CharText [c] c
  | escape {letter c : Char} : (letter, c) ∈ escapes → CharText ['\\', letter] c
  | one {a b d e c : Char} {u : Nat} : hexNumber? [a, b, d, e] = some u → units c = [u] →
      CharText ['\\', 'u', a, b, d, e] c
  | two {a b d e a' b' d' e' c : Char} {u v : Nat} : hexNumber? [a, b, d, e] = some u →
      hexNumber? [a', b', d', e'] = some v → units c = [u, v] →
      CharText ['\\', 'u', a, b, d, e, '\\', 'u', a', b', d', e'] c

variable {s rest : List Char} {c : Char} {u v : Nat}

theorem gives_takeLowSurrogate_iff :
    Gives (takeLowSurrogate s) v rest ↔
      ∃ t, s = '\\' :: 'u' :: t ∧ Gives (takeUnit t) v rest ∧ isLowSurrogate v = true := by
  constructor
  · intro h
    unfold takeLowSurrogate at h
    split at h
    next => exact absurd h not_gives_fail
    next => exact absurd h not_gives_fail
    next t =>
      cases hunit : takeUnit t with
      | error e =>
        rw [hunit] at h
        exact absurd h not_gives_error
      | ok x =>
        simp only [hunit, bind, Except.bind] at h
        split at h
        next hlow =>
          obtain ⟨rfl, rfl⟩ := gives_ok_iff.mp h
          exact ⟨t, rfl, ⟨x.within, hunit⟩, hlow⟩
        next => exact absurd h not_gives_fail
    next => exact absurd h not_gives_fail
  · rintro ⟨t, rfl, ⟨within, hunit⟩, hlow⟩
    simp only [takeLowSurrogate, hunit, bind, Except.bind, hlow, if_true]
    exact gives_ok_iff.mpr ⟨rfl, rfl⟩

theorem gives_takeCodePoint_iff :
    Gives (takeCodePoint s) c rest ↔
      (∃ u, Gives (takeUnit s) u rest ∧ units c = [u]) ∨
      ∃ u v t, Gives (takeUnit s) u ('\\' :: 'u' :: t) ∧ Gives (takeUnit t) v rest ∧
        units c = [u, v] := by
  cases hunit : takeUnit s with
  | error e => simp [takeCodePoint, hunit, bind, Except.bind]
  | ok x =>
    obtain ⟨u, middle, within⟩ := x
    obtain ⟨a, b, d, e, -, hu⟩ := gives_takeUnit_iff.mp ⟨within, hunit⟩
    have hone := units_eq_one_iff (c := c) (hexNumber?_lt hu)
    simp only [takeCodePoint, hunit, bind, Except.bind, gives_ok_iff]
    by_cases hlow : isLowSurrogate u = true
    · simp only [hlow, if_true, not_gives_fail, false_iff, not_or]
      refine ⟨?_, ?_⟩
      · rintro ⟨_, ⟨rfl, -⟩, heq⟩
        simp [hone.mp heq] at hlow
      · rintro ⟨_, v, t, ⟨rfl, -⟩, -, heq⟩
        have hhigh := (units_eq_two_iff.mp heq).1
        simp [isHighSurrogate, isLowSurrogate] at hlow hhigh
        omega
    · by_cases hhigh : isHighSurrogate u = true
      · simp only [hlow, hhigh, if_true, Bool.false_eq_true, if_false]
        constructor
        · intro h
          cases hsecond : takeLowSurrogate middle with
          | error e =>
            rw [hsecond] at h
            exact absurd h not_gives_error
          | ok y =>
            obtain ⟨v, tail, within'⟩ := y
            simp only [hsecond, gives_ok_iff] at h
            obtain ⟨hc, rfl⟩ := h
            obtain ⟨t, rfl, hv, hvlow⟩ := gives_takeLowSurrogate_iff.mp ⟨within', hsecond⟩
            have hunits := units_eq_two_iff.mpr ⟨hhigh, hvlow, hc.symm⟩
            exact .inr ⟨u, v, t, ⟨rfl, rfl⟩, hv, hunits⟩
        · rintro (⟨_, ⟨rfl, -⟩, heq⟩ | ⟨_, v, t, ⟨rfl, rfl⟩, hv, heq⟩)
          · simp [hone.mp heq] at hhigh
          · obtain ⟨-, hvlow, hc⟩ := units_eq_two_iff.mp heq
            obtain ⟨within', hsecond⟩ := gives_takeLowSurrogate_iff.mpr ⟨t, rfl, hv, hvlow⟩
            simp only [hsecond, gives_ok_iff, and_true]
            exact hc.symm
      · simp only [hlow, hhigh, Bool.false_eq_true, if_false]
        simp only [Bool.not_eq_true] at hlow hhigh
        constructor
        · intro h
          obtain ⟨rfl, rfl⟩ := gives_ok_iff.mp h
          exact .inl ⟨u, ⟨rfl, rfl⟩, hone.mpr ⟨hhigh, hlow, rfl⟩⟩
        · rintro (⟨_, ⟨rfl, rfl⟩, heq⟩ | ⟨_, v, t, ⟨rfl, -⟩, -, heq⟩)
          · exact gives_ok_iff.mpr ⟨(hone.mp heq).2.2.symm, rfl⟩
          · rw [(units_eq_two_iff.mp heq).1] at hhigh
            cases hhigh

theorem gives_takeChar_none_iff : Gives (takeChar s) none rest ↔ s = '"' :: rest := by
  constructor
  · intro h
    unfold takeChar at h
    split at h
    next => exact absurd h not_gives_fail
    next tail =>
      obtain ⟨-, rfl⟩ := gives_ok_iff.mp h
      rfl
    next => exact absurd h not_gives_fail
    next => simp [gives_map_widen_iff] at h
    next =>
      split at h
      · simp at h
      · exact absurd h not_gives_fail
    next =>
      split at h
      · exact absurd h not_gives_fail
      · simp at h
  · rintro rfl
    exact gives_ok_iff.mpr ⟨rfl, rfl⟩

theorem gives_takeChar_some_iff :
    Gives (takeChar s) (some c) rest ↔ ∃ part, CharText part c ∧ s = part ++ rest := by
  constructor
  · intro h
    unfold takeChar at h
    split at h
    next => exact absurd h not_gives_fail
    next => simp at h
    next => exact absurd h not_gives_fail
    next tail =>
      obtain ⟨d, hcode, hd⟩ := gives_map_widen_iff.mp h
      obtain rfl := Option.some.inj hd
      rcases gives_takeCodePoint_iff.mp hcode with ⟨u, hu, hunits⟩ | ⟨u, v, t, hu, hv, hunits⟩
      · obtain ⟨a, b, d, e, rfl, hu'⟩ := gives_takeUnit_iff.mp hu
        exact ⟨_, .one hu' hunits, rfl⟩
      · obtain ⟨a', b', d', e', rfl, hv'⟩ := gives_takeUnit_iff.mp hv
        obtain ⟨a, b, d, e, rfl, hu'⟩ := gives_takeUnit_iff.mp hu
        exact ⟨_, .two hu' hv' hunits, rfl⟩
    next letter tail _ _ =>
      split at h
      next d hd =>
        simp only [gives_ok_iff, Option.some.injEq] at h
        obtain ⟨rfl, rfl⟩ := h
        exact ⟨_, .escape (unescape?_eq_some_iff.mp hd), rfl⟩
      next => exact absurd h not_gives_fail
    next d tail hquote hend hu hletter =>
      split at h
      next => exact absurd h not_gives_fail
      next hlarge =>
        simp only [gives_ok_iff, Option.some.injEq] at h
        obtain ⟨rfl, rfl⟩ := h
        have hslash : d ≠ '\\' := by
          rintro rfl
          cases tail with
          | nil => exact hend rfl rfl
          | cons e tail => exact hletter e tail rfl rfl
        exact ⟨[d], .plain hquote hslash (Nat.not_lt.mp hlarge), rfl⟩
  · rintro ⟨part, hpart, rfl⟩
    cases hpart with
    | plain hquote hslash hlarge =>
      simp [takeChar, hslash, Nat.not_lt.mpr hlarge]
    | @escape letter _ h =>
      simp [takeChar, escapes_ne_u h, unescape?_eq_some_iff.mpr h]
    | one hu hunits =>
      have hcode := gives_takeCodePoint_iff.mpr (.inl ⟨_, gives_takeUnit hu rest, hunits⟩)
      exact gives_map_widen_iff.mpr ⟨c, hcode, rfl⟩
    | two hu hv hunits =>
      have hcode := gives_takeCodePoint_iff.mpr
        (.inr ⟨_, _, _, gives_takeUnit hu _, gives_takeUnit hv rest, hunits⟩)
      exact gives_map_widen_iff.mpr ⟨c, hcode, rfl⟩

theorem gives_takeChars_nil (h : Gives (takeChar s) none rest) : Gives (takeChars s) [] rest := by
  obtain ⟨within, h⟩ := h
  unfold takeChars
  rw [h]
  exact gives_ok_iff.mpr ⟨rfl, rfl⟩

theorem gives_takeChars_cons {tail cs : List Char} (h : Gives (takeChar s) (some c) tail)
    (htail : Gives (takeChars tail) cs rest) : Gives (takeChars s) (c :: cs) rest := by
  obtain ⟨within, h⟩ := h
  unfold takeChars
  rw [h]
  exact gives_map_behind_iff.mpr ⟨cs, htail, rfl⟩

theorem gives_takeChars_iff {cs : List Char} :
    Gives (takeChars s) cs rest ↔
      ∃ parts, List.Forall₂ CharText parts cs ∧ s = parts.flatten ++ '"' :: rest := by
  constructor
  · intro h
    fun_induction takeChars s generalizing cs with
    | case1 => exact absurd h not_gives_error
    | case2 s tail within hchar =>
      obtain ⟨rfl, rfl⟩ := gives_ok_iff.mp h
      exact ⟨[], .nil, gives_takeChar_none_iff.mp ⟨within, hchar⟩⟩
    | case3 s d tail within hchar ih =>
      obtain ⟨ds, hds, rfl⟩ := gives_map_behind_iff.mp h
      obtain ⟨parts, hparts, rfl⟩ := ih hds
      obtain ⟨part, hpart, rfl⟩ := gives_takeChar_some_iff.mp ⟨within, hchar⟩
      exact ⟨part :: parts, .cons hpart hparts, by simp⟩
  · rintro ⟨parts, hparts, rfl⟩
    induction hparts with
    | nil => exact gives_takeChars_nil (gives_takeChar_none_iff.mpr rfl)
    | cons hpart _ ih =>
      rw [List.flatten_cons, List.append_assoc]
      exact gives_takeChars_cons (gives_takeChar_some_iff.mpr ⟨_, hpart, rfl⟩) ih

/-! The text of a string, by its characters and by its code units. -/

theorem units_escaped {letter : Char} (h : (letter, c) ∈ escapes) : units c = [c.toNat] := by
  have hall : escapes.all (fun p => units p.2 == [p.2.toNat]) = true := by decide
  exact eq_of_beq (List.all_eq_true.mp hall _ h)

/-- The first code unit of a character is not the second half of a pair. -/
theorem units_append_ne_low {us vs : List Nat} (hv : isLowSurrogate v = true) :
    units c ++ us ≠ v :: vs := by
  intro h
  have hvalid := toNat_valid c
  simp only [isLowSurrogate, Bool.and_eq_true, decide_eq_true_eq] at hv
  unfold units at h
  split at h <;> simp only [List.cons_append, List.cons.injEq] at h <;> omega

theorem units_append_inj {d : Char} {us vs : List Nat} (h : units c ++ us = units d ++ vs) :
    c = d ∧ us = vs := by
  have hc := toNat_valid c
  have hd := toNat_valid d
  suffices hboth : c.toNat = d.toNat ∧ us = vs from hboth.imp_left Char.toNat_inj.mp
  unfold units at h
  split at h <;> split at h <;>
    simp only [List.cons_append, List.nil_append, List.cons.injEq] at h <;>
    refine ⟨by omega, ?_⟩
  · exact h.2
  · omega
  · omega
  · exact h.2.2

theorem CharText.stringUnits {part body : List Char} {us : List Nat} (h : CharText part c)
    (hbody : StringUnits body us) : StringUnits (part ++ body) (units c ++ us) := by
  cases h with
  | plain hquote hslash hlarge => exact .cons (.plain hquote hslash hlarge) hbody
  | escape h =>
    rw [units_escaped h]
    exact .cons (.escape h) hbody
  | one hu hunits =>
    rw [hunits]
    exact .cons (.code hu) hbody
  | @two a b d e a' b' d' e' _ u v hu hv hunits =>
    have hfirst : CharUnits ['\\', 'u', a, b, d, e] [u] := .code hu
    have hsecond : CharUnits ['\\', 'u', a', b', d', e'] [v] := .code hv
    have hboth := StringUnits.cons hfirst (.cons hsecond hbody)
    rw [hunits]
    exact hboth

theorem StringUnits.low {body : List Char} {vs : List Nat} (h : StringUnits body (v :: vs))
    (hv : isLowSurrogate v = true) :
    ∃ a b d e tail, hexNumber? [a, b, d, e] = some v ∧ StringUnits tail vs ∧
      body = '\\' :: 'u' :: a :: b :: d :: e :: tail := by
  generalize hws : v :: vs = ws at h
  cases h with
  | nil => cases hws
  | cons hpart htail =>
    cases hpart with
    | plain => exact absurd hws.symm (units_append_ne_low hv)
    | escape h =>
      rw [← units_escaped h] at hws
      exact absurd hws.symm (units_append_ne_low hv)
    | code hu =>
      obtain ⟨rfl, rfl⟩ := List.cons.inj hws
      exact ⟨_, _, _, _, _, hu, htail, rfl⟩

/-- Where code units are those of a character, what is written for them is written for it. -/
theorem StringUnits.charText {body : List Char} {us : List Nat}
    (h : StringUnits body (units c ++ us)) :
    ∃ part tail, CharText part c ∧ StringUnits tail us ∧ body = part ++ tail := by
  generalize hws : units c ++ us = ws at h
  cases h with
  | nil => simp [units_ne_nil] at hws
  | cons hpart htail =>
    cases hpart with
    | plain hquote hslash hlarge =>
      obtain ⟨rfl, rfl⟩ := units_append_inj hws
      exact ⟨_, _, .plain hquote hslash hlarge, htail, rfl⟩
    | escape h =>
      rw [← units_escaped h] at hws
      obtain ⟨rfl, rfl⟩ := units_append_inj hws
      exact ⟨_, _, .escape h, htail, rfl⟩
    | code hu =>
      rcases units_one_or_two c with ⟨u, hunits⟩ | ⟨u, v, hunits⟩
      · rw [hunits] at hws
        obtain ⟨rfl, rfl⟩ := List.cons.inj hws
        exact ⟨_, _, .one hu hunits, htail, rfl⟩
      · rw [hunits] at hws
        obtain ⟨rfl, rfl⟩ := List.cons.inj hws
        obtain ⟨a, b, d, e, rest, hv, hrest, rfl⟩ := htail.low (units_eq_two_iff.mp hunits).2.1
        exact ⟨_, rest, .two hu hv hunits, hrest, rfl⟩

theorem StringUnits.eq_nil {body : List Char} (h : StringUnits body []) : body = [] := by
  generalize hws : [] = ws at h
  cases h with
  | nil => rfl
  | cons hpart _ =>
    have hunits := (List.append_eq_nil_iff.mp hws.symm).1
    cases hpart with
    | plain => exact absurd hunits (units_ne_nil _)
    | escape => cases hunits
    | code => cases hunits

theorem spells_iff {body cs : List Char} :
    Spells body cs ↔ ∃ parts, List.Forall₂ CharText parts cs ∧ body = parts.flatten := by
  constructor
  · intro h
    induction cs generalizing body with
    | nil => exact ⟨[], .nil, h.eq_nil⟩
    | cons c cs ih =>
      obtain ⟨part, tail, hpart, htail, rfl⟩ := StringUnits.charText h
      obtain ⟨parts, hparts, rfl⟩ := ih htail
      exact ⟨part :: parts, .cons hpart hparts, rfl⟩
  · rintro ⟨parts, hparts, rfl⟩
    induction hparts with
    | nil => exact .nil
    | cons hpart _ ih => exact hpart.stringUnits ih

/-- A string is read exactly if it is that of a text. -/
theorem gives_takeString_iff {t : String} :
    Gives (takeString s) t rest ↔ ∃ body, Spells body t.toList ∧ s = body ++ '"' :: rest := by
  have hchars : Gives (takeString s) t rest ↔ Gives (takeChars s) t.toList rest := by
    cases hread : takeChars s with
    | error e => simp [takeString, hread, Except.map]
    | ok x => simp [takeString, hread, Except.map, Taken.map, ← String.toList_inj]
  rw [hchars, gives_takeChars_iff]
  constructor
  · rintro ⟨parts, hparts, rfl⟩
    exact ⟨_, spells_iff.mpr ⟨parts, hparts, rfl⟩, rfl⟩
  · rintro ⟨body, hbody, rfl⟩
    obtain ⟨parts, hparts, rfl⟩ := spells_iff.mp hbody
    exact ⟨parts, hparts, rfl⟩

theorem gives_takeString {body : List Char} {t : String} (h : Spells body t.toList)
    (rest : List Char) : Gives (takeString (body ++ '"' :: rest)) t rest :=
  gives_takeString_iff.mpr ⟨body, h, rfl⟩

/-- A string is that of one text at most. -/
theorem Spells.unique {body : List Char} {t t' : String} (h : Spells body t.toList)
    (h' : Spells body t'.toList) : t = t' :=
  ((gives_takeString h []).unique (gives_takeString h' [])).1

/-! Passing over a string. -/

theorem gives_passChar_true_iff : Gives (passChar s) true rest ↔ s = '"' :: rest := by
  constructor
  · intro h
    unfold passChar at h
    split at h
    next => exact absurd h not_gives_fail
    next tail =>
      obtain ⟨-, rfl⟩ := gives_ok_iff.mp h
      rfl
    next => exact absurd h not_gives_fail
    next => simp [gives_map_widen_iff] at h
    next =>
      split at h
      · simp at h
      · exact absurd h not_gives_fail
    next =>
      split at h
      · exact absurd h not_gives_fail
      · simp at h
  · rintro rfl
    exact gives_ok_iff.mpr ⟨rfl, rfl⟩

theorem gives_passChar_false_iff :
    Gives (passChar s) false rest ↔ ∃ part us, CharUnits part us ∧ s = part ++ rest := by
  constructor
  · intro h
    unfold passChar at h
    split at h
    next => exact absurd h not_gives_fail
    next => simp at h
    next => exact absurd h not_gives_fail
    next tail =>
      obtain ⟨u, hunit, -⟩ := gives_map_widen_iff.mp h
      obtain ⟨a, b, d, e, rfl, hu⟩ := gives_takeUnit_iff.mp hunit
      exact ⟨_, _, .code hu, rfl⟩
    next letter tail _ _ =>
      split at h
      next hd =>
        obtain ⟨-, rfl⟩ := gives_ok_iff.mp h
        obtain ⟨c, hc⟩ := Option.isSome_iff_exists.mp hd
        exact ⟨_, _, .escape (unescape?_eq_some_iff.mp hc), rfl⟩
      next => exact absurd h not_gives_fail
    next d tail hquote hend hu hletter =>
      split at h
      next => exact absurd h not_gives_fail
      next hlarge =>
        obtain ⟨-, rfl⟩ := gives_ok_iff.mp h
        have hslash : d ≠ '\\' := by
          rintro rfl
          cases tail with
          | nil => exact hend rfl rfl
          | cons e tail => exact hletter e tail rfl rfl
        exact ⟨[d], _, .plain hquote hslash (Nat.not_lt.mp hlarge), rfl⟩
  · rintro ⟨part, us, hpart, rfl⟩
    cases hpart with
    | plain hquote hslash hlarge => simp [passChar, hslash, Nat.not_lt.mpr hlarge]
    | @escape letter _ h => simp [passChar, escapes_ne_u h, unescape?_eq_some_iff.mpr h]
    | code hu => exact gives_map_widen_iff.mpr ⟨_, gives_takeUnit hu rest, rfl⟩

theorem gives_passString_end (h : Gives (passChar s) true rest) :
    Gives (passString s) () rest := by
  obtain ⟨within, h⟩ := h
  unfold passString
  rw [h]
  exact gives_ok_iff.mpr ⟨rfl, rfl⟩

theorem gives_passString_next {tail : List Char} (h : Gives (passChar s) false tail)
    (htail : Gives (passString tail) () rest) : Gives (passString s) () rest := by
  obtain ⟨within, h⟩ := h
  unfold passString
  rw [h]
  exact gives_behind_iff.mpr htail

theorem gives_passString_iff :
    Gives (passString s) () rest ↔ ∃ body, IsString body ∧ s = body ++ '"' :: rest := by
  constructor
  · intro h
    fun_induction passString s with
    | case1 => exact absurd h not_gives_error
    | case2 s tail within hchar =>
      obtain ⟨-, rfl⟩ := gives_ok_iff.mp h
      exact ⟨[], ⟨_, .nil⟩, gives_passChar_true_iff.mp ⟨within, hchar⟩⟩
    | case3 s tail within hchar ih =>
      obtain ⟨body, ⟨us, hbody⟩, rfl⟩ := ih (gives_behind_iff.mp h)
      obtain ⟨part, vs, hpart, rfl⟩ := gives_passChar_false_iff.mp ⟨within, hchar⟩
      exact ⟨part ++ body, ⟨_, .cons hpart hbody⟩, by simp⟩
  · rintro ⟨body, ⟨us, hbody⟩, rfl⟩
    induction hbody with
    | nil => exact gives_passString_end (gives_passChar_true_iff.mpr rfl)
    | cons hpart _ ih =>
      rw [List.append_assoc]
      exact gives_passString_next (gives_passChar_false_iff.mpr ⟨_, _, hpart, rfl⟩) ih

theorem gives_passString {body : List Char} (h : IsString body) (rest : List Char) :
    Gives (passString (body ++ '"' :: rest)) () rest := gives_passString_iff.mpr ⟨body, h, rfl⟩

end CallFlow.Json
