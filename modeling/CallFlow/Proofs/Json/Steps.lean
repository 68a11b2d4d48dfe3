import CallFlow.Json.Reader
import CallFlow.Proofs.Json.Grammar
import Mathlib.Data.List.TakeWhile

/-!
# Steps of reading

What the small steps of a reader take from a text, by the productions they take. A number goes on as
long as it can, so where one has been read the text does not go on with a character of a number.
-/

namespace CallFlow.Json
set_option autoImplicit false

/-! Results of readers. -/

/-- The reader succeeds with a value and leaves so much. -/
def Gives {α : Type} {n : Nat} (result : Except Error (Taken α n)) (value : α)
    (rest : List Char) : Prop :=
  ∃ within, result = .ok ⟨value, rest, within⟩

section Gives
variable {α β : Type} {m n : Nat} {result : Except Error (Taken α m)} {value value' : α} {b : β}
variable {rest rest' : List Char}

@[simp] theorem gives_ok_iff {x : Taken α m} :
    Gives (.ok x) value rest ↔ x.value = value ∧ x.rest = rest := by
  constructor
  · rintro ⟨within, h⟩
    rw [Except.ok.inj h]
    exact ⟨rfl, rfl⟩
  · rintro ⟨rfl, rfl⟩
    exact ⟨x.within, rfl⟩

@[simp] theorem not_gives_error {e : Error} :
    ¬ Gives (.error e : Except Error (Taken α m)) value rest := by
  rintro ⟨within, h⟩
  cases h

@[simp] theorem not_gives_fail {f : Fault} :
    ¬ Gives (fail f : Except Error (Taken α m)) value rest := not_gives_error

/-- What is done to a result may raise its bound and change its value, but not what is left. -/
theorem gives_map_iff {f : Taken α m → Taken β n} (g : α → β)
    (hf : ∀ x, (f x).value = g x.value ∧ (f x).rest = x.rest) :
    Gives (result.map f) b rest ↔ ∃ a, Gives result a rest ∧ g a = b := by
  cases result with
  | error e => simp [Except.map]
  | ok x => simp [Except.map, hf, and_comm]

theorem gives_map_widen_iff {f : α → β} {h : m ≤ n} :
    Gives (result.map fun x => (x.map f).widen h) b rest ↔ ∃ a, Gives result a rest ∧ f a = b :=
  gives_map_iff f fun _ => ⟨rfl, rfl⟩

theorem gives_map_behind_iff {f : α → β} {h : m < n} :
    Gives (result.map fun x => (x.map f).behind h) b rest ↔ ∃ a, Gives result a rest ∧ f a = b :=
  gives_map_iff f fun _ => ⟨rfl, rfl⟩

theorem gives_map_behind_widen_iff {k : Nat} {f : α → β} {h : m < k} {h' : k ≤ n} :
    Gives (result.map fun x => ((x.map f).behind h).widen h') b rest ↔
      ∃ a, Gives result a rest ∧ f a = b :=
  gives_map_iff f fun _ => ⟨rfl, rfl⟩

theorem gives_map_behind_behind_behind_iff {j k : Nat} {f : α → β} {h : m < j} {h' : j < k}
    {h'' : k < n} :
    Gives (result.map fun x => (((x.map f).behind h).behind h').behind h'') b rest ↔
      ∃ a, Gives result a rest ∧ f a = b :=
  gives_map_iff f fun _ => ⟨rfl, rfl⟩

theorem gives_raised_iff {f : Taken α m → Taken α n}
    (hf : ∀ x, (f x).value = x.value ∧ (f x).rest = x.rest) :
    Gives (result.map f) value rest ↔ Gives result value rest := by
  rw [gives_map_iff id hf]
  exact exists_eq_right

@[simp] theorem gives_widen_iff {h : m ≤ n} :
    Gives (result.map (·.widen h)) value rest ↔ Gives result value rest :=
  gives_raised_iff fun _ => ⟨rfl, rfl⟩

@[simp] theorem gives_behind_iff {h : m < n} :
    Gives (result.map (·.behind h)) value rest ↔ Gives result value rest := gives_widen_iff

@[simp] theorem gives_behind_widen_iff {k : Nat} {h : m < k} {h' : k ≤ n} :
    Gives (result.map fun x => (x.behind h).widen h') value rest ↔ Gives result value rest :=
  gives_raised_iff fun _ => ⟨rfl, rfl⟩

@[simp] theorem gives_behind_behind_iff {k : Nat} {h : m < k} {h' : k < n} :
    Gives (result.map fun x => (x.behind h).behind h') value rest ↔ Gives result value rest :=
  gives_behind_widen_iff

theorem gives_behind_behind_behind_iff {j k : Nat} {h : m < j} {h' : j < k} {h'' : k < n} :
    Gives (result.map fun x => ((x.behind h).behind h').behind h'') value rest ↔
      Gives result value rest :=
  gives_raised_iff fun _ => ⟨rfl, rfl⟩

theorem gives_bind_iff {f : Taken α m → Except Error (Taken β n)} :
    Gives (result >>= f) b rest ↔ ∃ value middle within,
      Gives result value middle ∧ Gives (f ⟨value, middle, within⟩) b rest := by
  cases result with
  | error e => simp [bind, Except.bind]
  | ok x =>
    refine ⟨fun h => ⟨x.value, x.rest, x.within, gives_ok_iff.mpr ⟨rfl, rfl⟩, h⟩, ?_⟩
    rintro ⟨value, middle, within, hx, h⟩
    obtain ⟨rfl, rfl⟩ := gives_ok_iff.mp hx
    exact h

/-- A result may be turned into something else that need not exist. -/
theorem gives_valued_iff {γ : Type} {g : α → Except Error β} {f : Taken α m → β → Taken γ n}
    {c : γ} (out : β → γ) (hf : ∀ x b, (f x b).value = out b ∧ (f x b).rest = x.rest) :
    Gives (do let x ← result; let b ← g x.value; .ok (f x b)) c rest ↔
      ∃ a b, Gives result a rest ∧ g a = .ok b ∧ out b = c := by
  cases result with
  | error e => simp [bind, Except.bind]
  | ok x =>
    cases hg : g x.value with
    | error e =>
      simp only [bind, Except.bind, hg, not_gives_error, gives_ok_iff, false_iff, not_exists]
      rintro a b ⟨⟨rfl, -⟩, hb, -⟩
      rw [hg] at hb
      cases hb
    | ok b =>
      simp only [bind, Except.bind, hg, hf, gives_ok_iff]
      constructor
      · rintro ⟨hout, hrest⟩
        exact ⟨_, b, ⟨rfl, hrest⟩, hg, hout⟩
      · rintro ⟨a, b', ⟨rfl, hrest⟩, hb, hout⟩
        rw [hg] at hb
        obtain rfl := Except.ok.inj hb
        exact ⟨hout, hrest⟩

theorem Gives.bind {f : Taken α m → Except Error (Taken β n)} {middle : List Char}
    (h : Gives result value middle)
    (hf : ∀ within, Gives (f ⟨value, middle, within⟩) b rest) : Gives (result >>= f) b rest := by
  obtain ⟨within, hresult⟩ := h
  exact gives_bind_iff.mpr ⟨value, middle, within, ⟨within, hresult⟩, hf within⟩

theorem Gives.unique (h : Gives result value rest) (h' : Gives result value' rest') :
    value = value' ∧ rest = rest' := by
  obtain ⟨within, rfl⟩ := h
  exact gives_ok_iff.mp h'

end Gives

/-! Blanks. -/

variable {s t rest : List Char} {c : Char}

theorem isSpace_iff : isSpace c = true ↔ c ∈ [' ', '\t', '\n', '\r'] := by
  simp [isSpace, or_assoc]

theorem blanks_nil : Blanks [] := nofun

theorem Blanks.append {t' : List Char} (h : Blanks t) (h' : Blanks t') : Blanks (t ++ t') :=
  List.forall_mem_append.mpr ⟨h, h'⟩

theorem skipSpace_append (h : Blanks t) (s : List Char) : skipSpace (t ++ s) = skipSpace s :=
  List.dropWhile_append_of_pos fun c hc => isSpace_iff.mpr (h c hc)

theorem skipSpace_cons (h : isSpace c = false) : skipSpace (c :: s) = c :: s :=
  List.dropWhile_cons_of_neg (by simp [h])

theorem skipSpace_append_cons (h : Blanks t) (hc : isSpace c = false) :
    skipSpace (t ++ c :: s) = c :: s := by
  rw [skipSpace_append h, skipSpace_cons hc]

theorem exists_blanks (s : List Char) : ∃ t, Blanks t ∧ s = t ++ skipSpace s :=
  ⟨s.takeWhile isSpace, fun _ hc => isSpace_iff.mp (List.mem_takeWhile_imp hc),
    List.takeWhile_append_dropWhile.symm⟩

theorem skipSpace_eq_nil_iff : skipSpace s = [] ↔ Blanks s := by
  constructor
  · intro h
    obtain ⟨t, ht, hs⟩ := exists_blanks s
    rw [h, List.append_nil] at hs
    rwa [hs]
  · intro h
    simpa [skipSpace] using skipSpace_append h []

theorem not_isSpace_of_skipSpace (h : skipSpace s = c :: rest) : isSpace c = false := by
  have hhead := List.head?_dropWhile_not isSpace s
  rw [skipSpace] at h
  simpa [h] using hhead

theorem skipSpace_eq_cons_iff :
    skipSpace s = c :: rest ↔ isSpace c = false ∧ ∃ t, Blanks t ∧ s = t ++ c :: rest := by
  constructor
  · intro h
    obtain ⟨t, ht, hs⟩ := exists_blanks s
    exact ⟨not_isSpace_of_skipSpace h, t, ht, h ▸ hs⟩
  · rintro ⟨hc, t, ht, rfl⟩
    exact skipSpace_append_cons ht hc

/-! Words and colons. -/

theorem gives_takeWord_iff {α : Type} {value a : α} {word : List Char} :
    Gives (takeWord value word s) a rest ↔ value = a ∧ s = word ++ rest := by
  induction word generalizing s with
  | nil => simp [takeWord]
  | cons w word ih =>
    cases s with
    | nil => simp [takeWord]
    | cons c s =>
      unfold takeWord
      split
      next h => simp [ih, h]
      next h => simp [h]

theorem gives_takeWord {α : Type} (value : α) (word rest : List Char) :
    Gives (takeWord value word (word ++ rest)) value rest := gives_takeWord_iff.mpr ⟨rfl, rfl⟩

theorem gives_takeColon_iff :
    Gives (takeColon s) () rest ↔ ∃ t, Blanks t ∧ s = t ++ ':' :: rest := by
  have hcolon : (∃ t, Blanks t ∧ s = t ++ ':' :: rest) ↔ skipSpace s = ':' :: rest := by
    rw [skipSpace_eq_cons_iff]
    exact (and_iff_right rfl).symm
  rw [hcolon]
  unfold takeColon
  split
  next h => simp [h]
  next c tail h =>
    split
    next hc => simp [h, hc]
    next hc => simp [h, hc]

/-! Numbers. -/

def Stops (p : Char → Bool) (s : List Char) : Prop := ∀ c ∈ s.head?, p c = false

/-- The characters that a number can go on with. -/
def ofNumber (c : Char) : Bool := c.isDigit || c == '.' || c == 'e' || c == 'E'

section Numbers
variable {p q : Char → Bool} {ds : List Char} {exponent : Option (Bool × List Char)}
variable {n : Numeral} {atEnd : Fault}

theorem Stops.nil : Stops p [] := nofun

theorem stops_cons_iff : Stops p (c :: s) ↔ p c = false := by
  simp [Stops]

theorem Stops.append (h : Stops p t) (hrest : Stops p rest) : Stops p (t ++ rest) := by
  cases t with
  | nil => exact hrest
  | cons c t => exact stops_cons_iff.mpr (stops_cons_iff.mp h)

theorem Stops.mono (hpq : ∀ c, q c = true → p c = true) (h : Stops p s) : Stops q s := by
  intro c hc
  rw [← Bool.not_eq_true]
  exact fun hq => Bool.false_ne_true ((h c hc).symm.trans (hpq c hq))

theorem Stops.digit (h : Stops ofNumber s) : Stops Char.isDigit s :=
  h.mono fun c hc => by simp [ofNumber, hc]

theorem Stops.takeWhile (h : Stops p s) : s.takeWhile p = [] := by
  cases s with
  | nil => rfl
  | cons c s => exact List.takeWhile_cons_of_neg (by simp [stops_cons_iff.mp h])

theorem Stops.dropWhile (h : Stops p s) : s.dropWhile p = s := by
  cases s with
  | nil => rfl
  | cons c s => exact List.dropWhile_cons_of_neg (by simp [stops_cons_iff.mp h])

theorem stops_dropWhile (s : List Char) : Stops p (s.dropWhile p) := by
  intro c hc
  have h := List.head?_dropWhile_not p s
  rw [Option.mem_def.mp hc] at h
  simpa using h

theorem stops_blanks (h : Blanks t) : Stops ofNumber t := by
  intro c hc
  have hall : [' ', '\t', '\n', '\r'].all (!ofNumber ·) = true := by decide
  simpa using List.all_eq_true.mp hall c (h c (List.mem_of_mem_head? hc))

theorem takeDigits_append (hdigits : ∀ d ∈ ds, d.isDigit = true) (h : Stops Char.isDigit rest) :
    (takeDigits (ds ++ rest)).value = ds ∧ (takeDigits (ds ++ rest)).rest = rest := by
  have hvalue : (ds ++ rest).takeWhile Char.isDigit = ds := by
    rw [List.takeWhile_append_of_pos hdigits, h.takeWhile, List.append_nil]
  have hleft : (ds ++ rest).dropWhile Char.isDigit = rest := by
    rw [List.dropWhile_append_of_pos hdigits, h.dropWhile]
  exact ⟨hvalue, hleft⟩

theorem gives_takeSomeDigits_iff :
    Gives (takeSomeDigits atEnd s) ds rest ↔ Digits ds ∧ Stops Char.isDigit rest ∧ s = ds ++ rest := by
  have hgives : Gives (takeSomeDigits atEnd s) ds rest ↔
      (takeDigits s).value ≠ [] ∧ (takeDigits s).value = ds ∧ (takeDigits s).rest = rest := by
    simp only [takeSomeDigits]
    split
    next hsome => simpa using fun _ _ => by simpa using hsome
    next hnone => simp_all
  rw [hgives]
  constructor
  · rintro ⟨hsome, rfl, rfl⟩
    exact ⟨⟨hsome, fun d hd => List.mem_takeWhile_imp hd⟩, stops_dropWhile s,
      List.takeWhile_append_dropWhile.symm⟩
  · rintro ⟨⟨hsome, hdigits⟩, hrest, rfl⟩
    obtain ⟨hvalue, hleft⟩ := takeDigits_append hdigits hrest
    exact ⟨hvalue.symm ▸ hsome, hvalue, hleft⟩

theorem fractionText_of_gives (h : Gives (takeFraction atEnd s) ds rest) :
    ∃ t, FractionText ds t ∧ s = t ++ rest := by
  unfold takeFraction at h
  split at h
  next tail =>
    obtain ⟨hdigits, -, rfl⟩ := gives_takeSomeDigits_iff.mp (gives_widen_iff.mp h)
    exact ⟨_, .present hdigits, rfl⟩
  next =>
    obtain ⟨rfl, rfl⟩ := gives_ok_iff.mp h
    exact ⟨_, .absent, rfl⟩

theorem gives_takeFraction (h : FractionText ds t)
    (hrest : Stops (fun c => c.isDigit || c == '.') rest) :
    Gives (takeFraction atEnd (t ++ rest)) ds rest := by
  cases h with
  | absent =>
    rw [List.nil_append]
    unfold takeFraction
    split
    next =>
      rw [stops_cons_iff] at hrest
      cases hrest
    next => exact gives_ok_iff.mpr ⟨rfl, rfl⟩
  | present hdigits =>
    have hstops : Stops Char.isDigit rest := hrest.mono fun c hc => by simp [hc]
    exact gives_widen_iff.mpr (gives_takeSomeDigits_iff.mpr ⟨hdigits, hstops, rfl⟩)

theorem exponentText_of_gives (h : Gives (takeExponent atEnd s) exponent rest) :
    ∃ t, ExponentText exponent t ∧ s = t ++ rest := by
  unfold takeExponent at h
  split at h
  next =>
    obtain ⟨rfl, rfl⟩ := gives_ok_iff.mp h
    exact ⟨_, .absent, rfl⟩
  next c tail =>
    split at h
    next hletter =>
      obtain ⟨ds, hds, rfl⟩ := gives_map_behind_iff.mp h
      obtain ⟨hdigits, -, hrest⟩ := gives_takeSomeDigits_iff.mp hds
      obtain ⟨sign, hsign, htail⟩ : ∃ sign, ((takeSign tail).value, sign) ∈ signs ∧
          tail = sign ++ (takeSign tail).rest := by
        unfold takeSign Decimal.takeSign
        split
        · exact ⟨['+'], by simp [signs], rfl⟩
        · exact ⟨['-'], by simp [signs], rfl⟩
        · exact ⟨[], by simp [signs], rfl⟩
      refine ⟨c :: (sign ++ ds), .present (by simpa using hletter) hsign hdigits, ?_⟩
      rw [List.cons_append, List.append_assoc, ← hrest, ← htail]
    next =>
      obtain ⟨rfl, rfl⟩ := gives_ok_iff.mp h
      exact ⟨_, .absent, rfl⟩

theorem takeSign_append {down : Bool} {sign : List Char} (hsign : (down, sign) ∈ signs)
    (hdigits : Digits ds) (rest : List Char) : (takeSign (sign ++ (ds ++ rest))).value = down ∧
      (takeSign (sign ++ (ds ++ rest))).rest = ds ++ rest := by
  obtain ⟨d, ds, rfl⟩ := List.exists_cons_of_ne_nil hdigits.1
  have hd : d.isDigit = true := hdigits.2 d List.mem_cons_self
  have hplus : d ≠ '+' := by rintro rfl; cases hd
  have hminus : d ≠ '-' := by rintro rfl; cases hd
  simp only [signs, List.mem_cons, Prod.mk.injEq, List.not_mem_nil, or_false] at hsign
  rcases hsign with ⟨rfl, rfl⟩ | ⟨rfl, rfl⟩ | ⟨rfl, rfl⟩ <;>
    simp [takeSign, Decimal.takeSign, hplus, hminus]

theorem gives_takeExponent (h : ExponentText exponent t) (hrest : Stops ofNumber rest) :
    Gives (takeExponent atEnd (t ++ rest)) exponent rest := by
  cases h with
  | absent =>
    cases rest with
    | nil => exact gives_ok_iff.mpr ⟨rfl, rfl⟩
    | cons c rest =>
      have hc := stops_cons_iff.mp hrest
      have hletter : ¬ (c = 'e' ∨ c = 'E') := by
        rintro (rfl | rfl) <;> cases hc
      simp [takeExponent, hletter]
  | @present letter down sign ds hletter hsign hdigits =>
    obtain ⟨hvalue, hleft⟩ := takeSign_append hsign hdigits rest
    rw [List.cons_append, List.append_assoc]
    simp only [takeExponent, List.mem_cons, List.not_mem_nil, or_false] at hletter ⊢
    rw [if_pos hletter]
    refine gives_map_behind_iff.mpr ⟨ds, ?_, by rw [hvalue]⟩
    rw [hleft]
    exact gives_takeSomeDigits_iff.mpr ⟨hdigits, hrest.digit, rfl⟩

theorem NumeralText.exists_digit (h : NumeralText n t) :
    ∃ c t', t = c :: t' ∧ c.isDigit = true := by
  cases h with
  | intro hwhole =>
    obtain ⟨⟨hsome, hdigits⟩, -⟩ := hwhole
    obtain ⟨d, ds, rfl⟩ := List.exists_cons_of_ne_nil hsome
    exact ⟨d, _, rfl, hdigits d List.mem_cons_self⟩

theorem not_isSpace_of_isDigit (h : c.isDigit = true) : isSpace c = false := by
  rw [← Bool.not_eq_true]
  intro hspace
  have hall : [' ', '\t', '\n', '\r'].all (!Char.isDigit ·) = true := by decide
  have hnot := List.all_eq_true.mp hall c (isSpace_iff.mp hspace)
  simp [h] at hnot

theorem FractionText.stops (h : FractionText ds t) : Stops Char.isDigit t := by
  cases h with
  | absent => exact .nil
  | present => exact stops_cons_iff.mpr rfl

theorem ExponentText.stops (h : ExponentText exponent t) :
    Stops (fun c => c.isDigit || c == '.') t := by
  cases h with
  | absent => exact .nil
  | present hletter =>
    rw [stops_cons_iff]
    simp only [List.mem_cons, List.not_mem_nil, or_false] at hletter
    rcases hletter with rfl | rfl <;> rfl

theorem digits_takeDigits (h : ¬ (takeDigits s).value.length = 0) : Digits (takeDigits s).value :=
  ⟨fun hnil => h (List.length_eq_zero_iff.mpr hnil), fun _ hd => List.mem_takeWhile_imp hd⟩

theorem numeralText_of_gives (h : Gives (takeNumeral atEnd s) n rest) :
    ∃ t, NumeralText n t ∧ s = t ++ rest := by
  simp only [takeNumeral] at h
  split at h
  next => exact absurd h not_gives_fail
  next hsome =>
    split at h
    next => exact absurd h not_gives_fail
    next hzero =>
      cases hfraction : takeFraction atEnd (takeDigits s).rest with
      | error e => simp [hfraction, bind, Except.bind] at h
      | ok x =>
        obtain ⟨ds, tail, within⟩ := x
        cases hexponent : takeExponent atEnd tail with
        | error e => simp [hfraction, hexponent, bind, Except.bind] at h
        | ok y =>
          obtain ⟨exponent, rest', within'⟩ := y
          simp only [hfraction, hexponent, bind, Except.bind, gives_ok_iff] at h
          obtain ⟨rfl, rfl⟩ := h
          obtain ⟨t, ht, hrest⟩ := fractionText_of_gives ⟨within, hfraction⟩
          obtain ⟨t', ht', rfl⟩ := exponentText_of_gives ⟨within', hexponent⟩
          refine ⟨_, .intro ⟨digits_takeDigits hsome, fun hhead => ?_⟩ ht ht', ?_⟩
          · have hlength : (takeDigits s).value.length = 1 := by
              have := not_and.mp hzero hhead
              omega
            obtain ⟨d, hd⟩ := List.length_eq_one_iff.mp hlength
            rw [hd] at hhead ⊢
            rw [Option.some.inj hhead]
          · rw [List.append_assoc, List.append_assoc, ← hrest]
            exact List.takeWhile_append_dropWhile.symm

theorem gives_takeNumeral_of {tail : List Char} (hwhole : WholeDigits (takeDigits s).value)
    (hfraction : Gives (takeFraction atEnd (takeDigits s).rest) ds tail)
    (hexponent : Gives (takeExponent atEnd tail) exponent rest) :
    Gives (takeNumeral atEnd s) ⟨(takeDigits s).value, ds, exponent⟩ rest := by
  obtain ⟨within, hfraction⟩ := hfraction
  obtain ⟨within', hexponent⟩ := hexponent
  have hsome : ¬ (takeDigits s).value.length = 0 :=
    fun hnil => hwhole.1.1 (List.length_eq_zero_iff.mp hnil)
  have hzero : ¬ ((takeDigits s).value.head? = some '0' ∧ 1 < (takeDigits s).value.length) := by
    rintro ⟨hhead, hlong⟩
    rw [hwhole.2 hhead] at hlong
    exact absurd hlong (by decide)
  simp only [takeNumeral]
  rw [dif_neg hsome, if_neg hzero]
  simp only [hfraction, hexponent, bind, Except.bind]
  exact gives_ok_iff.mpr ⟨rfl, rfl⟩

theorem gives_takeNumeral (h : NumeralText n t) (hrest : Stops ofNumber rest) :
    Gives (takeNumeral atEnd (t ++ rest)) n rest := by
  cases h with
  | @intro whole fraction t exponent t' hwhole ht ht' =>
    have hexponent : Stops (fun c => c.isDigit || c == '.') (t' ++ rest) :=
      ht'.stops.append (hrest.mono fun c hc => by simp_all [ofNumber])
    have hfraction : Stops Char.isDigit (t ++ (t' ++ rest)) :=
      ht.stops.append (hexponent.mono fun c hc => by simp [hc])
    obtain ⟨hvalue, hleft⟩ := takeDigits_append hwhole.1.2 hfraction
    have hgives : Gives (takeNumeral atEnd (whole ++ (t ++ (t' ++ rest)))) ⟨_, _, _⟩ rest :=
      gives_takeNumeral_of (hvalue.symm ▸ hwhole)
        (hleft.symm ▸ gives_takeFraction ht hexponent) (gives_takeExponent ht' hrest)
    rw [hvalue] at hgives
    rwa [List.append_assoc, List.append_assoc]

end Numbers

def Takes {α : Type} (reader : Reader α) (t : List Char) (a : α) : Prop :=
  ∀ blanks rest, Blanks blanks → Stops ofNumber rest →
    Gives (reader (blanks ++ (t ++ rest))) a rest

end CallFlow.Json
