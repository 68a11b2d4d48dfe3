import CallFlow.Url.Punycode
import Mathlib.Data.List.Basic
import Mathlib.Tactic.Ring

/-!
# Punycode is read back

Whatever a text holds, reading what is written for it gives the text. The digits of a number are
read up to where they end, so the numbers are the steps that were written. While these are followed,
the characters that are in their places already are those of the text below some code point, and in
front of the place that was reached those of this code point as well.
-/

namespace CallFlow.Url.Punycode
set_option autoImplicit false

/-! Numbers -/

theorem digitValue?_digitChar {d : Nat} (h : d < 36) : digitValue? (digitChar d) = some d := by
  have hall : ∀ e < 36, digitValue? (digitChar e) = some e := by decide
  exact hall d h

theorem isAscii_digitChar {d : Nat} (h : d < 36) : isAscii (digitChar d) = true := by
  have hall : ∀ e < 36, isAscii (digitChar e) = true := by decide
  exact hall d h

theorem digitChar_ne_hyphen {d : Nat} (h : d < 36) : digitChar d ≠ '-' := by
  have hall : ∀ e < 36, digitChar e ≠ '-' := by decide
  exact hall d h

theorem writeNumber_ne_nil (bias k n : Nat) : writeNumber bias k n ≠ [] := by
  rw [writeNumber]
  split <;> exact List.cons_ne_nil _ _

/-- A number is made of the characters of digits. -/
theorem exists_digit_of_mem_writeNumber {bias k n : Nat} {c : Char} (h : c ∈ writeNumber bias k n) :
    ∃ d < 36, c = digitChar d := by
  fun_induction writeNumber bias k n with
  | case1 k n hlast =>
    have hle := threshold_le bias k
    exact ⟨n, by omega, List.mem_singleton.mp h⟩
  | case2 k n hmore ih =>
    rcases List.mem_cons.mp h with rfl | hmem
    · have hle := threshold_le bias k
      have hmod : (n - threshold bias k) % (36 - threshold bias k) < 36 - threshold bias k :=
        Nat.mod_lt _ (by omega)
      exact ⟨_, by omega, rfl⟩
    · exact ih hmem

theorem readNumber?_writeNumber (bias k weight n start : Nat) (rest : List Char) :
    readNumber? bias k weight start (writeNumber bias k n ++ rest) =
      some (start + n * weight, rest) := by
  fun_induction writeNumber bias k n generalizing weight start with
  | case1 k n hlast =>
    have hle := threshold_le bias k
    rw [List.singleton_append, readNumber?, digitValue?_digitChar (by omega)]
    exact if_pos hlast
  | case2 k n hmore ih =>
    have hle := threshold_le bias k
    have hmod : (n - threshold bias k) % (36 - threshold bias k) < 36 - threshold bias k :=
      Nat.mod_lt _ (by omega)
    rw [List.cons_append, readNumber?, digitValue?_digitChar (by omega)]
    change (if _ < threshold bias k then _ else _) = _
    rw [if_neg (by omega), ih]
    -- a digit and the number of the higher ones make up the number
    have hparts : (n - threshold bias k) / (36 - threshold bias k) * (36 - threshold bias k) +
        (n - threshold bias k) % (36 - threshold bias k) = n - threshold bias k :=
      Nat.div_add_mod' _ _
    have hnumber : threshold bias k + (n - threshold bias k) % (36 - threshold bias k) +
        (n - threshold bias k) / (36 - threshold bias k) * (36 - threshold bias k) = n := by
      omega
    congr 2
    calc start + (threshold bias k + (n - threshold bias k) % (36 - threshold bias k)) * weight +
          (n - threshold bias k) / (36 - threshold bias k) * (weight * (36 - threshold bias k))
        = start + (threshold bias k + (n - threshold bias k) % (36 - threshold bias k) +
          (n - threshold bias k) / (36 - threshold bias k) * (36 - threshold bias k)) * weight := by
          ring
      _ = start + n * weight := by rw [hnumber]

theorem exists_digit_of_mem_writeNumbers {first : Bool} {bias count : Nat} {ns : List Nat}
    {c : Char} (h : c ∈ writeNumbers first bias count ns) : ∃ d < 36, c = digitChar d := by
  induction ns generalizing first bias count with
  | nil => cases h
  | cons n ns ih =>
    rcases List.mem_append.mp h with hmem | hmem
    · exact exists_digit_of_mem_writeNumber hmem
    · exact ih hmem

theorem readNumbers?_writeNumbers (first : Bool) (bias count : Nat) (ns : List Nat) :
    readNumbers? first bias count (writeNumbers first bias count ns) = some ns := by
  induction ns generalizing first bias count with
  | nil =>
    rw [writeNumbers, readNumbers?]
    rfl
  | cons n ns ih =>
    have hread := readNumber?_writeNumber bias 36 1 n 0
      (writeNumbers false (adapt first (count + 1) n) (count + 1) ns)
    rw [Nat.zero_add, Nat.mul_one] at hread
    have hfull : ¬ (writeNumbers first bias count (n :: ns)).isEmpty = true := by
      simp [writeNumbers, writeNumber_ne_nil]
    rw [readNumbers?, if_neg hfull]
    split
    next hnone => rw [writeNumbers, hread] at hnone; cases hnone
    next m rest hsome =>
      rw [writeNumbers, hread] at hsome
      cases hsome
      rw [ih]
      rfl

/-! Steps -/

/-- The characters of a text below a code point. -/
def below (n : Nat) (text : List Char) : List Char := text.filter fun c => c.toNat < n

variable {m n : Nat} {text before rest : List Char} {c : Char}

theorem below_cons_of_lt (h : c.toNat < n) : below n (c :: rest) = c :: below n rest :=
  List.filter_cons_of_pos (decide_eq_true h)

theorem below_cons_of_le (h : n ≤ c.toNat) : below n (c :: rest) = below n rest :=
  List.filter_cons_of_neg (by simpa using h)

theorem below_snoc_of_lt (h : c.toNat < n) : below n (before ++ [c]) = below n before ++ [c] := by
  rw [below, List.filter_append]
  exact congrArg _ (below_cons_of_lt h)

theorem length_below_snoc_of_lt (h : c.toNat < n) :
    (below n (before ++ [c])).length = (below n before).length + 1 := by
  rw [below_snoc_of_lt h, List.length_append, List.length_singleton]

theorem below_snoc_of_le (h : n ≤ c.toNat) : below n (before ++ [c]) = below n before := by
  rw [below, List.filter_append, ← below, ← below, below_cons_of_le h]
  exact List.append_nil _

theorem below_congr (h : ∀ c ∈ text, c.toNat < m ↔ c.toNat < n) : below m text = below n text :=
  List.filter_congr fun c hc => decide_eq_decide.mpr (h c hc)

theorem below_eq_self (h : ∀ c ∈ text, c.toNat < n) : below n text = text :=
  List.filter_eq_self.mpr fun c hc => decide_eq_true (h c hc)

theorem stepsFor_of_lt (passed : Nat) (h : c.toNat < m) :
    stepsFor m passed (c :: rest) = stepsFor m (passed + 1) rest :=
  if_pos h

theorem stepsFor_self (passed : Nat) (c : Char) (rest : List Char) :
    stepsFor c.toNat passed (c :: rest) =
      (passed :: (stepsFor c.toNat 0 rest).1, (stepsFor c.toNat 0 rest).2) := by
  rw [stepsFor, if_neg (Nat.lt_irrefl _), if_pos rfl]

theorem stepsFor_of_gt (passed : Nat) (h : m < c.toNat) :
    stepsFor m passed (c :: rest) = stepsFor m passed rest := by
  rw [stepsFor, if_neg (Nat.lt_asymm h), if_neg (Nat.ne_of_gt h)]

/-- Where a reader stands that goes on from place `i` of the code point `n`: it has still to pass
`passed` places to come to this place of `m`. -/
structure Reaches (n i passed m place : Nat) (text : List Char) : Prop where
  le : n ≤ m
  place_le : place ≤ text.length
  sum : i + passed = (m - n) * (text.length + 1) + place

theorem insertIdx_length (c : Char) (before rest : List Char) :
    (before ++ rest).insertIdx before.length c = before ++ c :: rest := by
  induction before with
  | nil => rfl
  | cons d before ih => exact congrArg (d :: ·) ih

theorem putIn?_cons {i passed : Nat} (steps : List Nat)
    (h : Reaches n i passed c.toNat before.length (before ++ rest)) :
    putIn? n i (before ++ rest) (passed :: steps) =
      putIn? c.toNat (before.length + 1) (before ++ c :: rest) steps := by
  obtain ⟨hle, hplace, hsum⟩ := h
  have hdiv : (i + passed) / ((before ++ rest).length + 1) = c.toNat - n := by
    rw [hsum, Nat.mul_comm, Nat.mul_add_div (Nat.succ_pos _),
      Nat.div_eq_of_lt (Nat.lt_succ_of_le hplace), Nat.add_zero]
  have hmod : (i + passed) % ((before ++ rest).length + 1) = before.length := by
    rw [hsum, Nat.mul_comm, Nat.mul_add_mod, Nat.mod_eq_of_lt (Nat.lt_succ_of_le hplace)]
  have hvalid : c.toNat.isValidChar := c.valid
  rw [putIn?, hdiv, hmod, Nat.add_sub_cancel' hle]
  rw [if_pos hvalid, Char.ofNat_toNat, insertIdx_length]

/-- The steps for one code point put it in wherever the text has it. -/
theorem putIn?_stepsFor (more : List Nat) {i passed : Nat}
    (h : Reaches n i passed m (below (m + 1) before).length
      (below (m + 1) before ++ below m rest)) :
    (below (m + 1) before ++ below m rest).length + (stepsFor m passed rest).1.length =
        (below (m + 1) (before ++ rest)).length ∧
      ∃ n' i', Reaches n' i' (stepsFor m passed rest).2 m (below (m + 1) (before ++ rest)).length
          (below (m + 1) (before ++ rest)) ∧
        putIn? n i (below (m + 1) before ++ below m rest) ((stepsFor m passed rest).1 ++ more) =
          putIn? n' i' (below (m + 1) (before ++ rest)) more := by
  induction rest generalizing before n i passed with
  | nil =>
    change Reaches n i passed m _ (below (m + 1) before ++ []) at h
    change (below (m + 1) before ++ []).length + _ = _ ∧
      ∃ n' i', _ ∧ putIn? n i (below (m + 1) before ++ []) _ = _
    rw [List.append_nil] at h ⊢
    rw [List.append_nil]
    exact ⟨rfl, n, i, h, rfl⟩
  | cons c rest ih =>
    rw [List.append_cons before c rest]
    rcases Nat.lt_trichotomy c.toNat m with hlt | rfl | hgt
    · rw [stepsFor_of_lt passed hlt]
      have hmoved : below (m + 1) before ++ below m (c :: rest) =
          below (m + 1) (before ++ [c]) ++ below m rest := by
        rw [below_cons_of_lt hlt, below_snoc_of_lt (Nat.lt_succ_of_lt hlt), List.append_cons]
      rw [hmoved] at h ⊢
      refine ih ⟨h.le, ?_, ?_⟩
      · exact List.length_append ▸ Nat.le_add_right _ _
      · rw [← Nat.add_assoc, h.sum, length_below_snoc_of_lt (Nat.lt_succ_of_lt hlt), Nat.add_assoc]
    · rw [stepsFor_self]
      have hput : below (c.toNat + 1) before ++ c :: below c.toNat rest =
          below (c.toNat + 1) (before ++ [c]) ++ below c.toNat rest := by
        rw [below_snoc_of_lt (Nat.lt_succ_self _), List.append_cons]
      rw [below_cons_of_le (Nat.le_refl _)] at h ⊢
      have hnext : Reaches c.toNat ((below (c.toNat + 1) before).length + 1) 0 c.toNat
          (below (c.toNat + 1) (before ++ [c])).length
          (below (c.toNat + 1) (before ++ [c]) ++ below c.toNat rest) := by
        refine ⟨Nat.le_refl _, List.length_append ▸ Nat.le_add_right _ _, ?_⟩
        rw [Nat.sub_self, Nat.zero_mul, Nat.zero_add,
          length_below_snoc_of_lt (Nat.lt_succ_self _), Nat.add_zero]
      obtain ⟨hcount, n', i', hreaches, hrun⟩ := ih hnext
      refine ⟨?_, n', i', hreaches, ?_⟩
      · rw [← hcount, ← hput]
        simp only [List.length_append, List.length_cons]
        omega
      · rw [List.cons_append, putIn?_cons _ h, hput, hrun]
    · rw [stepsFor_of_gt passed hgt]
      have hsame : below (m + 1) (before ++ [c]) = below (m + 1) before := below_snoc_of_le hgt
      have hkept : below (m + 1) before ++ below m (c :: rest) =
          below (m + 1) (before ++ [c]) ++ below m rest := by
        rw [below_cons_of_le (Nat.le_of_lt hgt), hsame]
      rw [hkept, ← hsame] at h
      rw [hkept]
      exact ih h

/-- From the characters below `n` on, the steps for the code points that are left make the text. -/
theorem putIn?_stepsFrom {start i passed : Nat} {ms : List Nat}
    (h : Reaches start i passed n 0 (below n text)) (hsorted : ms.Pairwise (· < ·))
    (hle : ∀ m ∈ ms, n ≤ m) (hmem : ∀ c ∈ text, n ≤ c.toNat → c.toNat ∈ ms) :
    putIn? start i (below n text) (stepsFrom text n (below n text).length passed ms) =
      some text := by
  induction ms generalizing n start i passed with
  | nil =>
    have hall : below n text = text := by
      refine below_eq_self fun c hc => Nat.lt_of_not_le fun hge => ?_
      cases hmem c hc hge
    rw [stepsFrom, putIn?, hall]
  | cons m ms ih =>
    obtain ⟨hfirst, hsorted⟩ := List.pairwise_cons.mp hsorted
    have hnm : n ≤ m := hle m List.mem_cons_self
    have hlater : ∀ c ∈ text, n ≤ c.toNat → c.toNat = m ∨ c.toNat ∈ ms :=
      fun c hc hge => List.mem_cons.mp (hmem c hc hge)
    -- nothing of the text lies between two code points that follow each other
    have hsame : below n text = below m text := by
      refine below_congr fun c hc => ⟨fun hlt => Nat.lt_of_lt_of_le hlt hnm, fun hlt => ?_⟩
      refine Nat.lt_of_not_le fun hge => ?_
      rcases hlater c hc hge with heq | hin
      · exact absurd heq (Nat.ne_of_lt hlt)
      · exact Nat.lt_asymm hlt (hfirst _ hin)
    have hbegin : Reaches start i (passed + (m - n) * ((below n text).length + 1)) m
        (below (m + 1) []).length (below (m + 1) [] ++ below m text) := by
      refine ⟨h.le.trans hnm, Nat.zero_le _, ?_⟩
      change _ = (m - start) * ((below m text).length + 1) + 0
      have hsplit : m - start = n - start + (m - n) := by
        have := h.le
        omega
      rw [← Nat.add_assoc, h.sum, ← hsame, hsplit, Nat.add_mul]
      rfl
    rw [stepsFrom]
    dsimp only
    obtain ⟨hcount, n', i', hreaches, hrun⟩ := putIn?_stepsFor (stepsFrom text (m + 1)
      (below (m + 1) text).length
      ((stepsFor m (passed + (m - n) * ((below n text).length + 1)) text).2 + 1) ms) hbegin
    change (below m text).length + _ = (below (m + 1) text).length at hcount
    rw [← hsame] at hcount
    change putIn? start i (below m text) _ = _ at hrun
    rw [← hsame] at hrun
    rw [hcount, hrun]
    refine ih ⟨?_, Nat.zero_le _, ?_⟩ hsorted (fun k hk => hfirst k hk) fun c hc hge => ?_
    · exact Nat.le_succ_of_le hreaches.le
    · rw [← Nat.add_assoc, hreaches.sum, Nat.succ_sub hreaches.le, Nat.succ_mul]
      rfl
    · exact (hlater c hc (hnm.trans (Nat.le_of_succ_le hge))).resolve_left (by omega)

/-! Texts -/

theorem mem_insertOnce {k : Nat} {ms : List Nat} : k ∈ insertOnce m ms ↔ k = m ∨ k ∈ ms := by
  induction ms with
  | nil => exact List.mem_cons
  | cons l ms ih =>
    rw [insertOnce]
    split
    · exact List.mem_cons
    · split
      next heq => simp [heq]
      next => rw [List.mem_cons, ih, List.mem_cons, or_left_comm]

theorem pairwise_insertOnce {ms : List Nat} (h : ms.Pairwise (· < ·)) :
    (insertOnce m ms).Pairwise (· < ·) := by
  induction ms with
  | nil => exact List.pairwise_singleton _ _
  | cons l ms ih =>
    obtain ⟨hfirst, hsorted⟩ := List.pairwise_cons.mp h
    rw [insertOnce]
    split
    next hlt =>
      refine List.pairwise_cons.mpr ⟨fun k hk => ?_, h⟩
      rcases List.mem_cons.mp hk with rfl | hk
      · exact hlt
      · exact hlt.trans (hfirst k hk)
    next hge =>
      split
      next => exact h
      next hne =>
        refine List.pairwise_cons.mpr ⟨fun k hk => ?_, ih hsorted⟩
        rcases mem_insertOnce.mp hk with rfl | hk
        · omega
        · exact hfirst k hk

theorem mem_codePoints_iff : m ∈ codePoints text ↔ ∃ c ∈ text, 0x80 ≤ c.toNat ∧ c.toNat = m := by
  have hfold : ∀ cs : List Char, m ∈ cs.foldr (fun c => insertOnce c.toNat) [] ↔
      ∃ c ∈ cs, c.toNat = m := by
    intro cs
    induction cs with
    | nil => simp
    | cons c cs ih => simp [mem_insertOnce, ih, eq_comm]
  rw [codePoints, hfold]
  simp [isAscii, and_assoc]

theorem pairwise_codePoints (text : List Char) : (codePoints text).Pairwise (· < ·) := by
  rw [codePoints]
  induction text.filter (!isAscii ·) with
  | nil => exact List.Pairwise.nil
  | cons c cs ih => exact pairwise_insertOnce ih

theorem splitDigits_of_notMem {digits : List Char} (h : '-' ∉ digits) :
    splitDigits digits = ([], digits) := by
  have hall : digits.reverse.dropWhile (· != '-') = [] := by
    rw [← List.append_nil digits.reverse, List.dropWhile_append_of_pos, List.dropWhile_nil]
    exact fun c hc => bne_iff_ne.mpr fun heq => h (heq ▸ List.mem_reverse.mp hc)
  rw [splitDigits, hall]

theorem splitDigits_append {basic digits : List Char} (hbasic : basic ≠ []) (h : '-' ∉ digits) :
    splitDigits (basic ++ '-' :: digits) = (basic, digits) := by
  have hreverse : (basic ++ '-' :: digits).reverse = digits.reverse ++ '-' :: basic.reverse := by
    simp
  have hdigits : ∀ c ∈ digits.reverse, (c != '-') = true :=
    fun c hc => bne_iff_ne.mpr fun heq => h (heq ▸ List.mem_reverse.mp hc)
  obtain ⟨c, front, hfront⟩ := List.exists_cons_of_ne_nil (mt List.reverse_eq_nil_iff.mp hbasic)
  have hdrop : (basic ++ '-' :: digits).reverse.dropWhile (· != '-') = '-' :: c :: front := by
    rw [hreverse, List.dropWhile_append_of_pos hdigits, ← hfront]
    rfl
  have htake : (basic ++ '-' :: digits).reverse.takeWhile (· != '-') = digits.reverse := by
    rw [hreverse, List.takeWhile_append_of_pos hdigits]
    exact List.append_nil _
  rw [splitDigits, hdrop, htake]
  simp only [← hfront, List.reverse_reverse]

/-- Reading what is written for a text gives the text. -/
theorem decode?_encode (text : List Char) : decode? (encode text) = some text := by
  have hbasic : text.filter isAscii = below 0x80 text := rfl
  have hsteps : putIn? 0x80 0 (below 0x80 text)
      (stepsFrom text 0x80 (below 0x80 text).length 0 (codePoints text)) = some text :=
    putIn?_stepsFrom ⟨Nat.le_refl _, Nat.zero_le _, by simp⟩ (pairwise_codePoints text)
      (fun m hm => by
        obtain ⟨c, -, hge, rfl⟩ := mem_codePoints_iff.mp hm
        exact hge)
      fun c hc hge => mem_codePoints_iff.mpr ⟨c, hc, hge, rfl⟩
  have hhyphen : '-' ∉ writeNumbers true 72 (below 0x80 text).length
      (stepsFrom text 0x80 (below 0x80 text).length 0 (codePoints text)) := by
    intro hmem
    obtain ⟨d, hd, heq⟩ := exists_digit_of_mem_writeNumbers hmem
    exact digitChar_ne_hyphen hd heq.symm
  have hall : (below 0x80 text).all isAscii = true :=
    List.all_eq_true.mpr fun c hc => (List.mem_filter.mp hc).2
  have hsplit : splitDigits (encode text) = (below 0x80 text, writeNumbers true 72
      (below 0x80 text).length
      (stepsFrom text 0x80 (below 0x80 text).length 0 (codePoints text))) := by
    rw [encode, hbasic]
    split
    next hempty =>
      rw [List.isEmpty_iff.mp hempty] at hhyphen ⊢
      exact splitDigits_of_notMem hhyphen
    next hfull => exact splitDigits_append (fun h => hfull (List.isEmpty_iff.mpr h)) hhyphen
  rw [decode?, hsplit]
  dsimp only
  rw [if_pos hall, readNumbers?_writeNumbers]
  exact hsteps

example : encode ['b', 'ü', 'c', 'h', 'e', 'r'] = "bcher-kva".toList := by cbv

/-! ASCII -/

theorem isAscii_of_mem_encode (h : c ∈ encode text) : isAscii c = true := by
  have hdigits : ∀ {first bias count ns}, c ∈ writeNumbers first bias count ns →
      isAscii c = true := by
    intro first bias count ns hmem
    obtain ⟨d, hd, rfl⟩ := exists_digit_of_mem_writeNumbers hmem
    exact isAscii_digitChar hd
  rw [encode] at h
  split at h
  next => exact hdigits h
  next =>
    rcases List.mem_append.mp h with hmem | hmem
    · exact (List.mem_filter.mp hmem).2
    · rcases List.mem_cons.mp hmem with rfl | hmem
      · rfl
      · exact hdigits hmem

theorem isAscii_of_digitValue? {d : Nat} (h : digitValue? c = some d) : isAscii c = true := by
  have hcode : c.toNat = c.val.toNat := rfl
  simp only [digitValue?, Char.isDigit, Char.le_def, UInt32.le_iff_toNat_le] at h
  refine decide_eq_true (Nat.lt_of_not_le fun hge => ?_)
  rw [if_neg, if_neg, if_neg] at h
  · cases h
  all_goals
    simp
    omega

theorem isAscii_of_readNumber? {bias k weight start m : Nat} {digits : List Char}
    (h : readNumber? bias k weight start digits = some (m, rest)) :
    ∀ c ∈ digits, isAscii c = true ∨ c ∈ rest := by
  induction digits generalizing k weight start with
  | nil => cases h
  | cons d digits ih =>
    rw [readNumber?] at h
    split at h
    · cases h
    next value hvalue =>
      intro c hc
      rcases List.mem_cons.mp hc with rfl | hc
      · exact .inl (isAscii_of_digitValue? hvalue)
      · split at h
        · cases h
          exact .inr hc
        · exact ih h c hc

theorem isAscii_of_readNumbers? {first : Bool} {bias count : Nat} {digits : List Char}
    {ns : List Nat} (h : readNumbers? first bias count digits = some ns) :
    ∀ c ∈ digits, isAscii c = true := by
  induction ns generalizing first bias count digits with
  | nil =>
    rw [readNumbers?] at h
    split at h
    next hempty => simp [List.isEmpty_iff.mp hempty]
    next =>
      split at h
      · cases h
      · simp at h
  | cons n ns ih =>
    rw [readNumbers?] at h
    split at h
    · cases h
    · split at h
      · cases h
      next m rest hread =>
        obtain ⟨ms, hms, heq⟩ := Option.map_eq_some_iff.mp h
        cases heq
        intro c hc
        exact (isAscii_of_readNumber? hread c hc).elim id (ih hms c)

theorem splitDigits_cases (text : List Char) :
    splitDigits text = ([], text) ∨
      ∃ basic digits, splitDigits text = (basic, digits) ∧ text = basic ++ '-' :: digits := by
  rw [splitDigits]
  split
  next d c basic hdrop =>
    have hd : d = '-' := by
      have hhead := List.head?_dropWhile_not (· != '-') text.reverse
      rw [hdrop] at hhead
      simpa using hhead
    refine .inr ⟨_, _, rfl, ?_⟩
    have hparts := congrArg List.reverse
      (List.takeWhile_append_dropWhile (p := (· != '-')) (l := text.reverse))
    rw [hdrop, hd, List.reverse_reverse, List.reverse_append, List.reverse_cons,
      List.append_assoc] at hparts
    exact hparts.symm
  next => exact .inl rfl

theorem isAscii_of_decode? {decoded : List Char} (h : decode? text = some decoded) :
    ∀ c ∈ text, isAscii c = true := by
  have hparts : (splitDigits text).1.all isAscii = true ∧
      ∀ c ∈ (splitDigits text).2, isAscii c = true := by
    rw [decode?] at h
    dsimp only at h
    split at h
    next hall =>
      obtain ⟨ns, hread, -⟩ := Option.bind_eq_some_iff.mp h
      exact ⟨hall, isAscii_of_readNumbers? hread⟩
    next => cases h
  rcases splitDigits_cases text with hsplit | ⟨basic, digits, hsplit, rfl⟩
  · rw [hsplit] at hparts
    exact hparts.2
  · rw [hsplit] at hparts
    intro c hc
    rcases List.mem_append.mp hc with hc | hc
    · exact List.all_eq_true.mp hparts.1 c hc
    · rcases List.mem_cons.mp hc with rfl | hc
      · rfl
      · exact hparts.2 c hc

end CallFlow.Url.Punycode
