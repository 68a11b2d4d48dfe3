import CallFlow.Proofs.Block.Contribution
import CallFlow.Proofs.Graph.Lockstep
import Mathlib.Data.List.TakeWhile

/-!
# Numbers and their digits

A setting that holds a whole number may hold its digits as text instead, and where a number is
expected there may be blanks around them. Blocks read the same from both.
-/

namespace CallFlow
set_option autoImplicit false

open Json (Fields Value)

/-! Digits. -/

theorem isDigit_of_mem_toDigits (n : Nat) : ∀ c ∈ Nat.toDigits 10 n, c.isDigit = true :=
  fun _ hc => Nat.isDigit_of_mem_toDigits (by decide) (by decide) hc

theorem toList_toString_int (n : Int) : (toString n).toList = (Json.Number.int n).text := by
  cases n with
  | ofNat k =>
    have hnonneg : ¬ Int.ofNat k < 0 := Int.not_lt.mpr (Int.natCast_nonneg k)
    rw [Json.Number.text, if_neg hnonneg]
    exact String.toList_ofList
  | negSucc k =>
    rw [Json.Number.text, if_pos (Int.negSucc_lt_zero k)]
    change ("-" ++ Nat.repr (k + 1)).toList = _
    rw [String.toList_append, Nat.toList_repr]
    rfl

namespace Decimal

theorem takeSign_toString (n : Int) :
    takeSign (toString n).toList = (decide (n < 0), Nat.toDigits 10 n.natAbs) := by
  have hdigits := isDigit_of_mem_toDigits n.natAbs
  rw [toList_toString_int, Json.Number.text]
  split
  next hneg => rw [takeSign, decide_eq_true hneg]
  next hneg =>
    rw [decide_eq_false hneg]
    unfold takeSign
    split
    next rest heq => exact absurd (hdigits '+' (heq ▸ List.mem_cons_self)) (by decide)
    next rest heq => exact absurd (hdigits '-' (heq ▸ List.mem_cons_self)) (by decide)
    next => rfl

theorem ofText?_toString (n : Int) :
    ofText? (toString n).toList = some ⟨decide (n < 0), n.natAbs, 0⟩ := by
  have hdigits := isDigit_of_mem_toDigits n.natAbs
  rw [ofText?, takeSign_toString]
  dsimp only
  rw [List.takeWhile_eq_self_iff.mpr hdigits, List.dropWhile_eq_nil_iff.mpr hdigits]
  dsimp only
  rw [List.append_nil, ofDigits_toDigits]
  simp [exponent?, Nat.toDigits_ne_nil]

end Decimal

namespace Binary64

theorem ofDecimal_int (n : Int) : ofDecimal (decide (n < 0)) n.natAbs 0 = ofInt n := by
  unfold ofDecimal
  split
  next hzero =>
    obtain rfl : n = 0 := Int.natAbs_eq_zero.mp hzero
    decide +kernel
  next =>
    rw [if_neg (by decide), if_neg (by omega), if_pos (Int.le_refl 0)]
    exact congrArg (ofRatio (decide (n < 0)) · 1) (Nat.mul_one _)

/-- Digits are rounded as the number that they are written for. -/
theorem ofText?_toString (n : Int) : ofText? (toString n).toList = ofInt n := by
  rw [ofText?, Decimal.ofText?_toString]
  exact ofDecimal_int n

end Binary64

namespace Text

theorem isBlank_of_isDigit {c : Char} (h : c.isDigit = true) : isBlank c = false := by
  have hrange : 48 ≤ c.toNat ∧ c.toNat ≤ 57 := by
    simpa [Char.isDigit, UInt32.le_iff_toNat_le] using h
  simp [isBlank]
  omega

theorem trimmed_toString (n : Int) : Trimmed (toString n).toList := by
  have hkept : ∀ c ∈ (toString n).toList, isBlank c = false := by
    intro c hc
    rw [toList_toString_int, Json.Number.text] at hc
    split at hc
    next =>
      rcases List.mem_cons.mp hc with rfl | hc
      · decide
      · exact isBlank_of_isDigit (isDigit_of_mem_toDigits _ c hc)
    next => exact isBlank_of_isDigit (isDigit_of_mem_toDigits _ c hc)
  exact ⟨fun c hc => hkept c (List.mem_of_head? hc), fun c hc => hkept c (List.mem_of_getLast? hc)⟩

theorem toString_ne_nil (n : Int) : (toString n).toList ≠ [] := by
  rw [toList_toString_int, Json.Number.text]
  split
  · exact List.cons_ne_nil _ _
  · exact Nat.toDigits_ne_nil

end Text

/-! Settings. -/

def BlockKind.ReadsNumber (kind : BlockKind) (key : String) : Prop :=
  ∃ reading ∈ [Config.Reading.number, .count, .positiveCount], (key, reading) ∈ kind.optional

instance (kind : BlockKind) (key : String) : Decidable (kind.ReadsNumber key) :=
  inferInstanceAs (Decidable (∃ _ ∈ _, _))

namespace Config

/-- A whole number is given by its digits, and where a number is expected by its digits between
blanks. -/
inductive Respelled (kind : BlockKind) (key : String) : Value → Value → Prop
  | same (v : Value) : Respelled kind key v v
  | digits (n : Int) : Respelled kind key (.number (.int n)) (.string (toString n))
  | padded (n : Int) {before after : List Char} : kind.ReadsNumber key →
      (∀ c ∈ before, Text.isBlank c = true) → (∀ c ∈ after, Text.isBlank c = true) →
      Respelled kind key (.number (.int n))
        (.string (String.ofList (before ++ (toString n).toList ++ after)))

def Respells (kind : BlockKind) (config config' : Fields) : Prop :=
  List.Forall₂ (fun p q => p.1 = q.1 ∧ Respelled kind p.1 p.2 q.2) config config'

variable {kind : BlockKind} {key : String} {v v' : Value} {config config' : Fields}

theorem Respelled.usableText?_eq (h : Respelled kind key v v') (hkey : ¬ kind.ReadsNumber key) :
    usableText? v' = usableText? v := by
  cases h with
  | same => rfl
  | digits n =>
    have hfilled : Text.blank (toString n) = false := by
      rw [← Text.isEmpty_trim, (Text.trimmed_toString n).trim_eq, ← Bool.not_eq_true,
        String.isEmpty_iff, ← String.toList_inj]
      exact Text.toString_ne_nil n
    rw [usableText?, hfilled, usableText?, ← toList_toString_int, String.ofList_toList]
    rfl
  | padded n hnumber => exact absurd hnumber hkey

theorem usableNumber?_string_int {s : String} {n : Int} (h : Text.trim s = toString n) :
    usableNumber? (.string s) = usableNumber? (.number (.int n)) := by
  have hread : usableNumber? (.string s) = Binary64.ofText? (Text.trim s).toList := rfl
  rw [hread, h, Binary64.ofText?_toString]
  rfl

theorem Respelled.usableNumber?_eq (h : Respelled kind key v v') :
    usableNumber? v' = usableNumber? v := by
  cases h with
  | same => rfl
  | digits n => exact usableNumber?_string_int (Text.trimmed_toString n).trim_eq
  | padded n _ hbefore hafter =>
    apply usableNumber?_string_int
    rw [Text.trim_padded hbefore (Text.trimmed_toString n) (Text.toString_ne_nil n) hafter,
      String.ofList_toList]

namespace Respells

theorem get? (h : Respells kind config config') (key : String) :
    Option.Rel (Respelled kind key) (config.get? key) (config'.get? key) := by
  induction h with
  | nil => exact .none
  | @cons p q rest rest' hpq _ ih =>
    obtain ⟨name, v⟩ := p
    obtain ⟨name', v'⟩ := q
    obtain ⟨rfl, hv⟩ := hpq
    rw [Fields.get?, Fields.get?, List.lookup_cons, List.lookup_cons]
    cases hkey : key == name with
    | true =>
      obtain rfl := eq_of_beq hkey
      exact .some hv
    | false => exact ih

theorem bind_eq {α : Type} {read : Value → Option α} (h : Respells kind config config')
    (key : String) (hread : ∀ {v v'}, Respelled kind key v v' → read v' = read v) :
    (config'.get? key).bind read = (config.get? key).bind read := by
  have hget := h.get? key
  generalize config.get? key = setting, config'.get? key = setting' at hget ⊢
  cases hget with
  | none => rfl
  | some hv => exact hread hv

theorem text?_eq (h : Respells kind config config') (key : String)
    (hkey : ¬ kind.ReadsNumber key) : text? config' key = text? config key :=
  h.bind_eq key fun hv => hv.usableText?_eq hkey

theorem number?_eq (h : Respells kind config config') (key : String) :
    number? config' key = number? config key := h.bind_eq key Respelled.usableNumber?_eq

theorem whole?_eq (h : Respells kind config config') (key : String) :
    whole? config' key = whole? config key := by
  rw [whole?, whole?, h.number?_eq]

theorem routes_eq (h : Respells kind config config') (key : String) :
    routes config' key = routes config key := by
  rw [routes, routes]
  have hget := h.get? key
  generalize config.get? key = setting, config'.get? key = setting' at hget ⊢
  cases hget with
  | none => rfl
  | some hv => cases hv <;> rfl

end Respells
end Config

theorem Action.ofConfig_respelled {kind : BlockKind} {config config' : Fields}
    (h : Config.Respells kind config config') : ofConfig kind config' = ofConfig kind config := by
  cases kind with
  | say =>
    simp only [ofConfig, h.number?_eq, h.text?_eq "text" (by decide),
      h.text?_eq "voice" (by decide), h.text?_eq "language" (by decide)]
  | gather =>
    simp only [ofConfig, h.whole?_eq, h.routes_eq, h.text?_eq "prompt" (by decide),
      h.text?_eq "voice" (by decide), h.text?_eq "language" (by decide)]
  | forward =>
    simp only [ofConfig, h.whole?_eq, h.text?_eq "number" (by decide),
      h.text?_eq "holdMusicUrl" (by decide)]
  | record =>
    simp only [ofConfig, h.whole?_eq, h.text?_eq "prompt" (by decide),
      h.text?_eq "finishOnKey" (by decide), h.text?_eq "voice" (by decide),
      h.text?_eq "language" (by decide)]
  | pause => simp only [ofConfig, h.whole?_eq]
  | play => simp only [ofConfig, h.whole?_eq, h.text?_eq "url" (by decide)]
  | sms => simp only [ofConfig, h.text?_eq "message" (by decide), h.text?_eq "to" (by decide)]
  | hangup => rfl

/-! Flows. -/

/-- Blocks whose settings are respelled and which are otherwise the same. -/
structure Registry.Respells (registry : Registry) (f : Block → Block) : Prop where
  id : ∀ b, (f b).id = b.id
  kindName : ∀ b, (f b).kindName = b.kindName
  connections : ∀ b, (f b).connections = b.connections
  config : ∀ b kind, registry.resolve? b.kindName = some kind →
    Config.Respells kind b.config (f b).config

namespace Compiler

variable {compiler : Compiler} {f : Block → Block}

theorem action_respelled {registry : Registry} (h : registry.Respells f) (b : Block) :
    registry.action (f b) = registry.action b := by
  rw [Registry.action, Registry.action, h.kindName, h.id]
  cases hkind : registry.resolve? b.kindName with
  | none => rfl
  | some kind => exact congrArg Except.ok (Action.ofConfig_respelled (h.config b kind hkind))

theorem lockstep_respelled (h : compiler.registry.Respells f) (blocks : List Block) :
    compiler.Lockstep compiler blocks (blocks.map f) f where
  id := h.id
  connections := h.connections
  find := findBlock?_map h.id blocks
  action := action_respelled h
  step _ _ := rfl

/-- Digits do for whole numbers in any number of settings at once: the block is set to do the same
and contributes the same, and flows compile and resume alike. -/
theorem numerals_interchangeable (compiler : Compiler) :
    (∀ kind config config', Config.Respells kind config config' →
      Action.ofConfig kind config' = Action.ofConfig kind config ∧
      ∀ id, (Action.ofConfig kind config').step id compiler.options =
        (Action.ofConfig kind config).step id compiler.options) ∧
    ∀ f, compiler.registry.Respells f → ∀ blocks,
      compiler.compileGraph (blocks.map f) = compiler.compileGraph blocks ∧
      ∀ id digits, compiler.resume (.graph (blocks.map f)) id digits =
        compiler.resume (.graph blocks) id digits := by
  constructor
  · intro kind config config' h
    have haction := Action.ofConfig_respelled h
    exact ⟨haction, fun id => congrArg (Action.step id compiler.options) haction⟩
  · intro f h blocks
    have hlockstep := lockstep_respelled h blocks
    exact ⟨hlockstep.compileGraph (entryBlock?_map h.id h.connections blocks), hlockstep.resume⟩

def inDigits (b : Block) : Block :=
  { b with config := b.config.map fun (key, v) =>
      (key, match v with
        | .number (.int n) => .string (toString n)
        | other => other) }

theorem respells_inDigits (registry : Registry) : registry.Respells inDigits where
  id _ := rfl
  kindName _ := rfl
  connections _ := rfl
  config b kind _ := by
    apply List.forall₂_map_right_iff.mpr
    apply List.forall₂_same.mpr
    rintro ⟨key, v⟩ -
    refine ⟨rfl, ?_⟩
    dsimp only
    split
    next n => exact .digits n
    next => exact .same v

def pinSettings : Fields := [("numDigits", .number (.int 4)),
  ("prompt", .number (.int 9007199254740993)), ("timeout", .number (.int (-1)))]

def typedPinSettings : Fields := [("numDigits", .string "\u00a04\n"),
  ("prompt", .string "9007199254740993"), ("timeout", .number (.int (-1)))]

/-- A count between blanks beside a prompt that no binary64 number holds. -/
theorem numerals_interchangeable_pin :
    Config.Respells .gather pinSettings typedPinSettings ∧
    Action.ofConfig .gather typedPinSettings = Action.ofConfig .gather pinSettings ∧
    (ofOptions {}).registry.Respells inDigits ∧
    (ofOptions {}).compileGraph [inDigits ⟨"a", "gather", pinSettings, [], none⟩] =
      (ofOptions {}).compileGraph [⟨"a", "gather", pinSettings, [], none⟩] := by
  have hpadded : Config.Respelled .gather "numDigits" (.number (.int 4)) (.string "\u00a04\n") :=
    @Config.Respelled.padded _ _ 4 ['\u00a0'] ['\n'] (by decide)
      (List.forall_mem_singleton.mpr rfl) (List.forall_mem_singleton.mpr rfl)
  have hrespells : Config.Respells .gather pinSettings typedPinSettings :=
    .cons ⟨rfl, hpadded⟩ (.cons ⟨rfl, .digits _⟩ (.cons ⟨rfl, .same _⟩ .nil))
  obtain ⟨hactions, hflows⟩ := numerals_interchangeable (ofOptions {})
  have hdigits := respells_inDigits (ofOptions {}).registry
  exact ⟨hrespells, (hactions _ _ _ hrespells).1, hdigits, (hflows _ hdigits [_]).1⟩

end Compiler
end CallFlow
