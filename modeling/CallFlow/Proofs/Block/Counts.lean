import CallFlow.Block.Step
import CallFlow.Proofs.Binary64.Nearest

/-!
# Counts and speeds

A count is the configured number rounded to a whole one, as far as it can be stored, and the
default of its setting otherwise; nothing is cut off or wraps around. The speed of speech is kept
between half and double, and the rate that is written follows it.
-/

namespace CallFlow
set_option autoImplicit false

open Json (Fields Value)

/-! Numbers in settings. -/

namespace Json

/-- The number that a setting gives: a whole number of 64 bits or a binary64 number itself, a text
the binary64 number nearest to the decimal that it spells. -/
inductive Value.Gives : Value → ℚ → Prop
  | int {n : Int} : n.natAbs ≤ 2 ^ 64 → Gives (.number (.int n)) n
  | real (x : Binary64) : Gives (.number (.real x)) x.toRat
  | text {s : String} {d : Decimal} {x : Binary64} : Decimal.ofText? (Text.trim s).toList = some d →
      d.nearest? = some x → Gives (.string s) x.toRat

def Fields.Gives (config : Fields) (key : String) (q : ℚ) : Prop :=
  ∃ v, config.get? key = some v ∧ v.Gives q

end Json

theorem round_le_round {p q : ℚ} (h : p ≤ q) : round p ≤ round q := by
  rw [round_eq, round_eq]
  exact Int.floor_le_floor (by linarith)

namespace Config

variable {v : Value} {q : ℚ} {x : Binary64} {n : UInt32}

theorem count?_eq_some_iff :
    count? x = some n ↔ 0 ≤ x.toRat ∧ x.toRat ≤ maxCount ∧ (n.toNat : ℤ) = round x.toRat := by
  have hnonneg : 0 ≤ x.signedSteps ↔ 0 ≤ x.toRat := Binary64.toRat_nonneg_iff.symm
  have hmax : x.signedSteps ≤ maxCount * Binary64.unit ↔ x.toRat ≤ maxCount := by
    rw [Binary64.toRat, div_le_iff₀ Binary64.cast_unit_pos]
    exact_mod_cast Iff.rfl
  unfold count?
  split
  next h =>
    have hlow := hnonneg.mp h.1
    have hhigh := hmax.mp h.2
    have hround := round_toRat hlow
    have hbounds : 0 ≤ x.round ∧ x.round ≤ maxCount := by
      rw [← hround, ← round_natCast (α := ℚ) maxCount, ← round_zero (α := ℚ)]
      exact ⟨round_le_round hlow, round_le_round hhigh⟩
    have hnat : ((UInt32.ofNat x.round.toNat).toNat : ℤ) = x.round := by
      rw [UInt32.toNat_ofNat_of_lt']
      · exact Int.toNat_of_nonneg hbounds.1
      · simp only [maxCount, UInt32.size] at hbounds ⊢
        omega
    constructor
    · intro heq
      obtain rfl := Option.some.inj heq
      exact ⟨hlow, hhigh, hnat.trans hround.symm⟩
    · rintro ⟨-, -, hn⟩
      rw [hround] at hn
      exact congrArg some (UInt32.toNat_inj.mp (by omega))
  next h =>
    refine iff_of_false (Option.some_ne_none n).symm ?_
    rintro ⟨hlow, hhigh, -⟩
    exact h ⟨hnonneg.mpr hlow, hmax.mpr hhigh⟩

theorem toRat_of_ofInt {i : Int} (h : Binary64.ofInt i = some x) (hi : i.natAbs < 1 <<< 53) :
    x.toRat = i := by
  obtain ⟨y, hy⟩ := Binary64.exists_toRat_eq_int hi
  have hnear := Binary64.isNearest_ofInt h
  rw [← hy] at hnear ⊢
  exact hnear.toRat_eq

/-- A whole number is rounded into the range of counts only if it lies there, and is then kept. -/
theorem range_of_ofInt {i : Int} (h : Binary64.ofInt i = some x) (hlow : 0 ≤ x.toRat)
    (hhigh : x.toRat ≤ maxCount) : 0 ≤ i ∧ i ≤ maxCount := by
  have hnear := Binary64.isNearest_ofInt h
  constructor
  · by_contra hneg
    have hle : (i : ℚ) ≤ (-1 : ℤ) := Int.cast_le.mpr (by omega)
    have hx := hnear.toRat_le_int (by decide) hle
    rw [Int.cast_neg, Int.cast_one] at hx
    linarith
  · by_contra hlarge
    have hle : ((maxCount + 1 : ℤ) : ℚ) ≤ i := Int.cast_le.mpr (by omega)
    have hx := hnear.int_le_toRat (by decide) hle
    rw [Int.cast_add, Int.cast_one, Int.cast_natCast] at hx
    linarith

theorem usableNumber?_string_eq_some_iff {s : String} : usableNumber? (.string s) = some x ↔
    ∃ d, Decimal.ofText? (Text.trim s).toList = some d ∧ d.nearest? = some x := by
  rw [usableNumber?, Binary64.ofText?, Option.bind_eq_some_iff]

theorem bind_count?_eq_some_iff : (usableNumber? v).bind count? = some n ↔
    ∃ q, v.Gives q ∧ 0 ≤ q ∧ q ≤ maxCount ∧ (n.toNat : ℤ) = round q := by
  rw [Option.bind_eq_some_iff]
  simp only [count?_eq_some_iff]
  constructor
  · rintro ⟨x, hx, hlow, hhigh, hn⟩
    cases v with
    | number number =>
      cases number with
      | real y =>
        obtain rfl := Option.some.inj hx
        exact ⟨_, .real y, hlow, hhigh, hn⟩
      | int i =>
        obtain ⟨hi, hi'⟩ := range_of_ofInt hx hlow hhigh
        have hsmall : i.natAbs ≤ maxCount := by omega
        rw [toRat_of_ofInt hx (by simp only [maxCount, UInt32.size] at hsmall; omega)] at *
        exact ⟨i, .int (hsmall.trans (by decide)), hlow, hhigh, hn⟩
    | string s =>
      obtain ⟨d, hd, hx⟩ := usableNumber?_string_eq_some_iff.mp hx
      exact ⟨_, .text hd hx, hlow, hhigh, hn⟩
    | _ => cases hx
  · rintro ⟨q, hq, hlow, hhigh, hn⟩
    cases hq with
    | real x => exact ⟨x, rfl, hlow, hhigh, hn⟩
    | text hd hx => exact ⟨_, usableNumber?_string_eq_some_iff.mpr ⟨_, hd, hx⟩, hlow, hhigh, hn⟩
    | @int i hi =>
      obtain ⟨x, hx⟩ := Binary64.exists_ofInt hi
      have hsmall : i.natAbs ≤ maxCount := by
        have hlow : 0 ≤ i := by exact_mod_cast hlow
        have hhigh : i ≤ maxCount := by exact_mod_cast hhigh
        omega
      refine ⟨x, hx, ?_⟩
      rw [toRat_of_ofInt hx (by simp only [maxCount, UInt32.size] at hsmall; omega)]
      exact ⟨hlow, hhigh, hn⟩

/-- A setting that counts, with the least count that makes sense for it. -/
structure Counted where
  key : String
  least : UInt32
  default : Option UInt32

/-- The count of a setting is the number that it gives, rounded, where that is in range, and the
default where there is no such number. -/
structure Counted.Holds (c : Counted) (config : Fields) (count : Option UInt32) : Prop where
  configured : ∀ q, config.Gives c.key q → 0 ≤ q → q ≤ 2 ^ 32 - 1 → (c.least.toNat : ℤ) ≤ round q →
    ∃ n, count = some n ∧ (n.toNat : ℤ) = round q
  default : (∀ q, config.Gives c.key q → 0 ≤ q → q ≤ 2 ^ 32 - 1 → round q < c.least.toNat) →
    count = c.default
  least : ∀ n, count = some n → c.least ≤ n

theorem whole?_eq_some_iff {config : Fields} {key : String} : whole? config key = some n ↔
    ∃ q, config.Gives key q ∧ 0 ≤ q ∧ q ≤ 2 ^ 32 - 1 ∧ (n.toNat : ℤ) = round q := by
  have hmax : (maxCount : ℚ) = 2 ^ 32 - 1 := by norm_num [maxCount, UInt32.size]
  rw [whole?, number?, Option.bind_assoc, Option.bind_eq_some_iff]
  simp only [bind_count?_eq_some_iff, hmax]
  constructor
  · rintro ⟨v, hv, q, hq, hrange⟩
    exact ⟨q, ⟨v, hv, hq⟩, hrange⟩
  · rintro ⟨q, ⟨v, hv, hq⟩, hrange⟩
    exact ⟨v, hv, q, hq, hrange⟩

theorem Counted.holds_read (c : Counted) (config : Fields)
    (hdefault : ∀ n, c.default = some n → c.least ≤ n) :
    c.Holds config (((whole? config c.key).filter (c.least ≤ ·)).or c.default) where
  configured q hq hlow hhigh hleast := by
    have hbounds : 0 ≤ round q ∧ round q < UInt32.size := by
      have hhigh : q ≤ ((2 ^ 32 - 1 : ℤ) : ℚ) := by exact_mod_cast hhigh
      have hround := round_le_round hhigh
      rw [round_intCast] at hround
      have hzero := round_le_round hlow
      rw [round_zero] at hzero
      exact ⟨hzero, by simp only [UInt32.size]; omega⟩
    have hnat : ((UInt32.ofNat (round q).toNat).toNat : ℤ) = round q := by
      rw [UInt32.toNat_ofNat_of_lt' (by omega)]
      exact Int.toNat_of_nonneg hbounds.1
    have hread : whole? config c.key = some (UInt32.ofNat (round q).toNat) :=
      whole?_eq_some_iff.mpr ⟨q, hq, hlow, hhigh, hnat⟩
    have hle : c.least ≤ UInt32.ofNat (round q).toNat := by
      rw [UInt32.le_iff_toNat_le]
      omega
    refine ⟨_, ?_, hnat⟩
    rw [hread, Option.filter_some, if_pos (decide_eq_true hle), Option.some_or]
  default hnone := by
    have hfilter : (whole? config c.key).filter (c.least ≤ ·) = none := by
      apply Option.filter_eq_none_iff.mpr
      intro n hn hle
      obtain ⟨q, hq, hlow, hhigh, hround⟩ := whole?_eq_some_iff.mp hn
      have hless := hnone q hq hlow hhigh
      have hle : c.least ≤ n := of_decide_eq_true hle
      rw [UInt32.le_iff_toNat_le] at hle
      omega
    rw [hfilter, Option.none_or]
  least n hn := by
    rcases Option.or_eq_some_iff.mp hn with hn | ⟨-, hn⟩
    · exact of_decide_eq_true (Option.filter_eq_some_iff.mp hn).2
    · exact hdefault n hn

end Config

open Config (Counted)

def BlockKind.counted : BlockKind → List Counted
  | gather => [⟨"numDigits", 1, some Action.defaultGatherDigits⟩,
      ⟨"timeout", 0, some Action.defaultGatherTimeout⟩]
  | forward => [⟨"timeout", 0, some Action.defaultForwardTimeout⟩,
      ⟨"holdMusicLoop", 0, some Action.defaultHoldMusicLoop⟩]
  | record => [⟨"maxLength", 0, some Action.defaultRecordMaxLength⟩]
  | pause => [⟨"duration", 0, some Action.defaultPauseSeconds⟩]
  | play => [⟨"loop", 0, none⟩]
  | say | sms | hangup => []

namespace Action

def count? (key : String) : Action → Option UInt32
  | gather _ numDigits timeout _ _ =>
    if key = "numDigits" then some numDigits else if key = "timeout" then some timeout else none
  | forward _ timeout _ holdMusicLoop =>
    if key = "timeout" then some timeout
    else if key = "holdMusicLoop" then some holdMusicLoop else none
  | record _ maxLength _ _ => if key = "maxLength" then some maxLength else none
  | pause duration => if key = "duration" then some duration else none
  | play _ loopCount => if key = "loop" then loopCount else none
  | say .. | sms .. | hangup => none

theorem least_le_default (kind : BlockKind) :
    ∀ c ∈ kind.counted, ∀ n, c.default = some n → c.least ≤ n := by
  have hall : ∀ c ∈ kind.counted, c.default.all (c.least ≤ ·) = true := by
    cases kind <;> decide
  intro c hc n hn
  have hle := hall c hc
  rw [hn, Option.all_some] at hle
  exact of_decide_eq_true hle

theorem count?_ofConfig (kind : BlockKind) (config : Fields) :
    ∀ c ∈ kind.counted, (ofConfig kind config).count? c.key =
      ((Config.whole? config c.key).filter (c.least ≤ ·)).or c.default := by
  have hall : ∀ o : Option UInt32, o.filter (fun _ => true) = o := fun o => by cases o <;> rfl
  have hpositive : ∀ n : UInt32, decide (0 < n) = decide (1 ≤ n) := by
    intro n
    rw [decide_eq_decide, UInt32.lt_iff_toNat_lt, UInt32.le_iff_toNat_le]
    exact Iff.rfl
  cases kind with
  | gather =>
    rintro c hc
    rcases List.mem_pair.mp hc with rfl | rfl
    · simp [ofConfig, count?, hpositive]
    · simp [ofConfig, count?, hall]
  | forward =>
    rintro c hc
    rcases List.mem_pair.mp hc with rfl | rfl
    · simp [ofConfig, count?, hall]
    · simp [ofConfig, count?, hall]
  | record =>
    rintro c hc
    obtain rfl := List.mem_singleton.mp hc
    simp [ofConfig, count?, hall]
  | pause =>
    rintro c hc
    obtain rfl := List.mem_singleton.mp hc
    simp [ofConfig, count?, hall]
  | play =>
    rintro c hc
    obtain rfl := List.mem_singleton.mp hc
    simp [ofConfig, count?, hall]
  | _ => exact fun c hc => absurd hc List.not_mem_nil

/-! Speeds. -/

variable {x y : Binary64} {q q' : ℚ}

theorem toRat_clampSpeed (x : Binary64) :
    (clampSpeed x).toRat = max (1 / 2) (min 2 x.toRat) := by
  rw [clampSpeed, Binary64.toRat_clamp, Binary64.toRat_half, Binary64.two, Binary64.toRat_ofSmall,
    Nat.cast_two]
  rw [Binary64.le_iff_toRat_le, Binary64.toRat_half, Binary64.two, Binary64.toRat_ofSmall]
  norm_num

theorem clampSpeed_range (x : Binary64) :
    1 / 2 ≤ (clampSpeed x).toRat ∧ (clampSpeed x).toRat ≤ 2 := by
  rw [toRat_clampSpeed]
  exact ⟨le_max_left _ _, max_le (by norm_num) (min_le_left _ _)⟩

theorem clampSpeed_clampSpeed (x : Binary64) : clampSpeed (clampSpeed x) = clampSpeed x := by
  obtain ⟨hlow, hhigh⟩ := clampSpeed_range x
  apply Binary64.eq_of_toRat_eq
  · rw [toRat_clampSpeed (clampSpeed x), min_eq_right hhigh, max_eq_right hlow]
  · have hpos := (clampSpeed_range (clampSpeed x)).1
    linarith

/-- The percentage of a speed is rounded twice: to a binary64 number and to a whole one. -/
theorem speechRate_clampSpeed (x : Binary64) :
    ∃ y, (clampSpeed x).mul .hundred = some y ∧
      y.IsNearest ((clampSpeed x).toRat * 100) ∧ 50 ≤ y.toRat ∧ y.toRat ≤ 200 ∧
      (((speechRate (clampSpeed x)).getD 100).toNat : ℤ) = round y.toRat ∧
      speechRate (clampSpeed x) ≠ some 100 := by
  obtain ⟨hlow, hhigh⟩ := clampSpeed_range x
  have hhundred : Binary64.hundred.toRat = 100 := by
    rw [Binary64.hundred, Binary64.toRat_ofSmall, Nat.cast_ofNat]
  obtain ⟨double, hdouble⟩ := Binary64.exists_toRat_eq_int (n := 200) (by decide)
  rw [Int.cast_ofNat] at hdouble
  obtain ⟨y, hy⟩ : ∃ y, (clampSpeed x).mul .hundred = some y := by
    apply Binary64.exists_mul (z := double)
    rw [hhundred, hdouble, abs_of_nonneg (by linarith), abs_of_nonneg (by norm_num)]
    linarith
  have hnear := Binary64.isNearest_mul hy
  rw [hhundred] at hnear
  have hmin : 50 ≤ y.toRat := by
    have hle : ((50 : ℤ) : ℚ) ≤ (clampSpeed x).toRat * 100 := by
      rw [Int.cast_ofNat]
      linarith
    exact_mod_cast hnear.int_le_toRat (by decide) hle
  have hmax : y.toRat ≤ 200 := by
    have hle : (clampSpeed x).toRat * 100 ≤ ((200 : ℤ) : ℚ) := by
      rw [Int.cast_ofNat]
      linarith
    exact_mod_cast hnear.toRat_le_int (by decide) hle
  have hround := round_toRat (by linarith : 0 ≤ y.toRat)
  have hbounds : 50 ≤ y.round ∧ y.round ≤ 200 := by
    rw [← hround]
    constructor
    · exact (round_ofNat (α := ℚ) 50).ge.trans (round_le_round hmin)
    · exact (round_le_round hmax).trans (round_ofNat (α := ℚ) 200).le
  have hnat : (UInt32.ofNat y.round.toNat).toNat = y.round.toNat := by
    apply UInt32.toNat_ofNat_of_lt'
    simp only [UInt32.size]
    omega
  have hrate : speechRate (clampSpeed x) =
      if y.round.toNat = 100 then none else some (UInt32.ofNat y.round.toNat) := by
    rw [speechRate, clampSpeed_clampSpeed, hy]
  refine ⟨y, hy, hnear, hmin, hmax, ?_, ?_⟩
  · rw [hrate, hround]
    split
    next hnormal =>
      change ((100 : Nat) : ℤ) = y.round
      omega
    next =>
      rw [Option.getD_some, hnat]
      omega
  · rw [hrate]
    split
    next => exact nofun
    next hnormal =>
      intro heq
      have heq := congrArg UInt32.toNat (Option.some.inj heq)
      rw [hnat] at heq
      exact hnormal heq

end Action

theorem Json.Value.Gives.clampSpeed {v : Value} {q : ℚ} (h : v.Gives q) :
    ∃ x, Config.usableNumber? v = some x ∧
      (Action.clampSpeed x).toRat = max (1 / 2) (min 2 q) := by
  cases h with
  | real x => exact ⟨x, rfl, Action.toRat_clampSpeed x⟩
  | text hd hx =>
    exact ⟨_, Config.usableNumber?_string_eq_some_iff.mpr ⟨_, hd, hx⟩, Action.toRat_clampSpeed _⟩
  | @int n hn =>
    obtain ⟨x, hx⟩ := Binary64.exists_ofInt hn
    have hnear := Binary64.isNearest_ofInt hx
    refine ⟨x, hx, ?_⟩
    rw [Action.toRat_clampSpeed]
    -- Rounding takes no whole number past another one, so it stays on its side of the range.
    rcases (by omega : n ≤ 0 ∨ n = 1 ∨ 2 ≤ n) with hslow | rfl | hfast
    · have hn : (n : ℚ) ≤ (0 : ℤ) := Int.cast_le.mpr hslow
      have hx := hnear.toRat_le_int (by decide) hn
      rw [Int.cast_zero] at hn hx
      rw [max_eq_left (min_le_of_right_le (by linarith)),
        max_eq_left (min_le_of_right_le (by linarith))]
    · rw [Config.toRat_of_ofInt hx (by decide)]
    · have hn : ((2 : ℤ) : ℚ) ≤ n := Int.cast_le.mpr hfast
      have hx := hnear.int_le_toRat (by decide) hn
      rw [Int.cast_ofNat] at hn hx
      rw [min_eq_left hx, min_eq_left hn]

namespace Action

variable {config config' : Fields} {q q' : ℚ} {id id' : String} {options options' : Options}
  {speech speech' : Speech}

theorem mem_fragment_say {verb : Verb} (h : verb ∈ (ofConfig .say config).fragment id options) :
    ∃ speech, verb = .say speech ∧
      speech.rate = speechRate (clampSpeed ((Config.number? config "speed").getD .one)) := by
  cases htext : Config.text? config "text" with
  | none =>
    rw [ofConfig, htext] at h
    cases h
  | some text =>
    rw [ofConfig, htext] at h
    exact ⟨_, List.mem_singleton.mp h, rfl⟩

theorem rate_of_gives (hspeed : config.Gives "speed" q)
    (hverb : .say speech ∈ (ofConfig .say config).fragment id options) :
    ∃ x, (clampSpeed x).toRat = max (1 / 2) (min 2 q) ∧
      speech.rate = speechRate (clampSpeed x) := by
  obtain ⟨v, hv, hgives⟩ := hspeed
  obtain ⟨x, hx, hclamp⟩ := hgives.clampSpeed
  obtain ⟨_, hsay, hrate⟩ := mem_fragment_say hverb
  obtain rfl := Verb.say.inj hsay
  refine ⟨x, hclamp, ?_⟩
  rw [hrate, Config.number?, hv, Option.bind_some, hx, Option.getD_some]

/-- Faster speech has no lower rate. -/
theorem rate_le_rate (hspeed : config.Gives "speed" q) (hspeed' : config'.Gives "speed" q')
    (hle : q ≤ q') (hverb : .say speech ∈ (ofConfig .say config).fragment id options)
    (hverb' : .say speech' ∈ (ofConfig .say config').fragment id' options') :
    speech.rate.getD 100 ≤ speech'.rate.getD 100 := by
  obtain ⟨x, hx, hrate⟩ := rate_of_gives hspeed hverb
  obtain ⟨x', hx', hrate'⟩ := rate_of_gives hspeed' hverb'
  obtain ⟨y, hy, hnear, -, -, hround, -⟩ := speechRate_clampSpeed x
  obtain ⟨y', hy', hnear', -, -, hround', -⟩ := speechRate_clampSpeed x'
  have hclamped : (clampSpeed x).toRat ≤ (clampSpeed x').toRat := by
    rw [hx, hx']
    exact max_le_max le_rfl (min_le_min le_rfl hle)
  have hproducts : y.toRat ≤ y'.toRat := by
    rcases hclamped.lt_or_eq with hlt | heq
    · exact hnear.le_of_lt hnear' (by linarith)
    · have hpos := (clampSpeed_range x).1
      rw [Binary64.eq_of_toRat_eq heq (by linarith), hy'] at hy
      rw [Option.some.inj hy]
  have hle := round_le_round hproducts
  rw [hrate, hrate', UInt32.le_iff_toNat_le]
  omega

/-- A count is the number that its setting gives, rounded to a whole one, if it is between zero and
the largest that 32 bits hold, and is the setting's default in any other case; digits to wait for
are at least one. Speech has a rate between 50 and 200 or none, which stands for 100: the percentage
of its speed between half and double, never less for a higher speed. A text gives the binary64
number nearest to what it spells, unless that is larger than all of them. -/
theorem counts_exact_or_default :
    (∀ (kind : BlockKind) config, ∀ c ∈ kind.counted,
      c.Holds config ((ofConfig kind config).count? c.key)) ∧
    (∀ config id options, ∀ verb ∈ (ofConfig .say config).fragment id options,
      ∃ speech, verb = .say speech ∧
        ∀ rate, speech.rate = some rate → 50 ≤ rate ∧ rate ≤ 200 ∧ rate ≠ 100) ∧
    (∀ config q, config.Gives "speed" q → ∀ id options speech,
      .say speech ∈ (ofConfig .say config).fragment id options →
        (∃ y : Binary64, y.IsNearest (max (1 / 2) (min 2 q) * 100) ∧
          ((speech.rate.getD 100).toNat : ℤ) = round y.toRat) ∧
        ∀ config' q', config'.Gives "speed" q' → q ≤ q' → ∀ id' options' speech',
          .say speech' ∈ (ofConfig .say config').fragment id' options' →
            speech.rate.getD 100 ≤ speech'.rate.getD 100) ∧
    ∀ s d, Decimal.ofText? (Text.trim s).toList = some d → ∀ y : Binary64, |d.toRat| ≤ |y.toRat| →
      ∃ x : Binary64, (Value.string s).Gives x.toRat ∧ x.IsNearest d.toRat := by
  refine ⟨?_, ?_, ?_, ?_⟩
  · intro kind config c hc
    rw [count?_ofConfig kind config c hc]
    exact c.holds_read config (least_le_default kind c hc)
  · intro config id options verb hverb
    obtain ⟨speech, rfl, hrate⟩ := mem_fragment_say hverb
    obtain ⟨y, -, -, hmin, hmax, hround, hne⟩ :=
      speechRate_clampSpeed ((Config.number? config "speed").getD .one)
    refine ⟨speech, rfl, ?_⟩
    intro rate hsome
    rw [← hrate, hsome] at hround hne
    rw [Option.getD_some] at hround
    have hmin := round_le_round hmin
    have hmax := round_le_round hmax
    rw [round_ofNat, ← hround] at hmin hmax
    rw [UInt32.le_iff_toNat_le, UInt32.le_iff_toNat_le]
    exact ⟨by exact_mod_cast hmin, by exact_mod_cast hmax, fun heq => hne (congrArg some heq)⟩
  · intro config q hspeed id options speech hverb
    constructor
    · obtain ⟨x, hx, hrate⟩ := rate_of_gives hspeed hverb
      obtain ⟨y, -, hnear, -, -, hround, -⟩ := speechRate_clampSpeed x
      rw [hrate]
      exact ⟨y, hx ▸ hnear, hround⟩
    · intro config' q' hspeed' hle id' options' speech' hverb'
      exact rate_le_rate hspeed hspeed' hle hverb hverb'
  · intro s d hd y hle
    obtain ⟨x, hx⟩ := d.exists_nearest? hle
    exact ⟨x, .text hd hx, d.isNearest_nearest? hx⟩

def waitSettings : Fields := [("numDigits", .string " 2.5"), ("timeout", .number (.int 4294967296))]

def spokenAt (speed : Int) : Fields := [("speed", .number (.int speed)), ("text", .string "Hi")]

/-- A half goes up, the first number out of range is not cut off, and a speed below zero is the
lowest one, while normal speed has no rate. -/
theorem counts_exact_or_default_edges :
    waitSettings.Gives "numDigits" (5 / 2) ∧
    (ofConfig .gather waitSettings).count? "numDigits" = some 3 ∧
    waitSettings.Gives "timeout" 4294967296 ∧
    (ofConfig .gather waitSettings).count? "timeout" = some defaultGatherTimeout ∧
    .say ⟨"Hi", "alice", "en-US", some 50⟩ ∈ (ofConfig .say (spokenAt (-3))).fragment "a" {} ∧
    .say ⟨"Hi", "alice", "en-US", none⟩ ∈ (ofConfig .say (spokenAt 1)).fragment "b" {} ∧
    (some 50).getD 100 ≤ (none : Option UInt32).getD 100 := by
  obtain ⟨hcounts, -, hrates, -⟩ := counts_exact_or_default
  have hdigits : waitSettings.Gives "numDigits" (5 / 2) := by
    let x : Binary64 := ⟨false, 5 <<< 1073, by decide +kernel, 5, 1073, by decide, rfl⟩
    have hsteps : x.steps * 2 = 5 * Binary64.unit := by decide +kernel
    have hx : x.toRat = 5 / 2 := by
      apply Binary64.toRat_of_steps x
      have hcast : (x.steps * 2 : ℚ) = 5 * Binary64.unit := by exact_mod_cast hsteps
      linarith
    refine ⟨_, rfl, ?_⟩
    rw [← hx]
    exact .text (d := ⟨false, 25, -1⟩) (by decide +kernel) (by decide +kernel)
  have htimeout : waitSettings.Gives "timeout" 4294967296 := by
    have hgives := Json.Value.Gives.int (n := 4294967296) (by decide)
    rw [Int.cast_ofNat] at hgives
    exact ⟨_, rfl, hgives⟩
  have hround : round (5 / 2 : ℚ) = 3 := by
    rw [round_eq]
    norm_num
  refine ⟨hdigits, ?_, htimeout, ?_, by decide +kernel, by decide +kernel, ?_⟩
  · have hleast : ((1 : UInt32).toNat : ℤ) ≤ round (5 / 2 : ℚ) := by
      rw [hround]
      decide
    obtain ⟨n, hn, hthree⟩ := (hcounts .gather waitSettings _ List.mem_cons_self).configured _
      hdigits (by norm_num) (by norm_num) hleast
    rw [hround] at hthree
    rw [hn, show n = 3 from UInt32.toNat_inj.mp (by exact_mod_cast hthree)]
  · apply (hcounts .gather waitSettings _ (List.mem_cons_of_mem _ List.mem_cons_self)).default
    rintro q ⟨v, hv, hq⟩ - hhigh
    obtain rfl : Value.number (.int 4294967296) = v := Option.some.inj hv
    cases hq
    norm_num at hhigh
  · have hspeed : ∀ n : Int, n.natAbs ≤ 2 ^ 64 → (spokenAt n).Gives "speed" n :=
      fun n hn => ⟨_, rfl, .int hn⟩
    exact (hrates _ _ (hspeed (-3) (by decide)) "a" {} ⟨"Hi", "alice", "en-US", some 50⟩
      (by decide +kernel)).2 _ _ (hspeed 1 (by decide)) (by norm_num) "b" {}
      ⟨"Hi", "alice", "en-US", none⟩ (by decide +kernel)

end Action
end CallFlow
