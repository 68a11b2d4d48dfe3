import CallFlow.Json.Scanner
import Mathlib.Data.List.Basic

/-!
# The grammar of JSON

Which texts are JSON, said without a reader. A string is a row of UTF-16 code units: characters stand
for their own, and an escape may stand for any unit, so a string of the grammar need not be the text
of any characters. Numbers may be of any size and values nested to any depth. The productions `ws`,
`member`, `array`, `object`, `value` and `JSON-text` are `Blanks`, `Entry.Named`, `ArrayText`,
`ObjectText`, `ValueText` and `IsJson`.
-/

namespace CallFlow.Json
set_option autoImplicit false

def Blanks (t : List Char) : Prop := ∀ c ∈ t, c ∈ [' ', '\t', '\n', '\r']

/-! Strings -/

def hexDigit? (c : Char) : Option Nat := "0123456789abcdef".toList.idxOf? c.toLower

def hexNumber? (digits : List Char) : Option Nat :=
  digits.foldlM (fun n c => (hexDigit? c).map (16 * n + ·)) 0

def escapes : List (Char × Char) := [('"', '"'), ('\\', '\\'), ('/', '/'), ('b', '\x08'),
  ('f', '\x0c'), ('n', '\n'), ('r', '\r'), ('t', '\t')]

/-- The UTF-16 code units of a character. -/
def units (c : Char) : List Nat :=
  if c.toNat < 0x10000 then [c.toNat]
  else [0xD800 + (c.toNat - 0x10000) / 0x400, 0xDC00 + (c.toNat - 0x10000) % 0x400]

/-- The production `char`, and the code units that are written. -/
inductive CharUnits : List Char → List Nat → Prop
  | plain {c : Char} : c ≠ '"' → c ≠ '\\' → 0x20 ≤ c.toNat → CharUnits [c] (units c)
  | escape {letter c : Char} : (letter, c) ∈ escapes → CharUnits ['\\', letter] [c.toNat]
  | code {a b c d : Char} {u : Nat} : hexNumber? [a, b, c, d] = some u →
      CharUnits ['\\', 'u', a, b, c, d] [u]

inductive StringUnits : List Char → List Nat → Prop
  | nil : StringUnits [] []
  | cons {part body : List Char} {us vs : List Nat} : CharUnits part us → StringUnits body vs →
      StringUnits (part ++ body) (us ++ vs)

def IsString (body : List Char) : Prop := ∃ us, StringUnits body us

/-- The string is that of a text. -/
def Spells (body : List Char) (s : List Char) : Prop := StringUnits body (s.flatMap units)

/-! Numbers -/

def Digits (ds : List Char) : Prop := ds ≠ [] ∧ ∀ d ∈ ds, d.isDigit = true

/-- The production `int`, without its sign. -/
def WholeDigits (ds : List Char) : Prop := Digits ds ∧ (ds.head? = some '0' → ds = ['0'])

inductive FractionText : List Char → List Char → Prop
  | absent : FractionText [] []
  | present {ds : List Char} : Digits ds → FractionText ds ('.' :: ds)

def signs : List (Bool × List Char) := [(false, []), (false, ['+']), (true, ['-'])]

inductive ExponentText : Option (Bool × List Char) → List Char → Prop
  | absent : ExponentText none []
  | present {letter : Char} {down : Bool} {sign ds : List Char} : letter ∈ ['e', 'E'] →
      (down, sign) ∈ signs → Digits ds → ExponentText (some (down, ds)) (letter :: (sign ++ ds))

/-- The production `number` for its parts, without the sign. -/
inductive NumeralText : Numeral → List Char → Prop
  | intro {whole fraction t : List Char} {exponent : Option (Bool × List Char)} {t' : List Char} :
      WholeDigits whole → FractionText fraction t → ExponentText exponent t' →
      NumeralText ⟨whole, fraction, exponent⟩ (whole ++ (t ++ t'))

def minus (negative : Bool) : List Char := if negative then ['-'] else []

def NumberText (t : List Char) : Prop :=
  ∃ negative n t', NumeralText n t' ∧ t = minus negative ++ t'

/-! Values -/

/-- A part of a text between blanks. -/
structure Padded where
  before : List Char
  core : List Char
  behind : List Char

namespace Padded

def text (p : Padded) : List Char := p.before ++ (p.core ++ p.behind)

def InBlanks (p : Padded) : Prop := Blanks p.before ∧ Blanks p.behind

end Padded

/-- A field of an object: what is between the quotes of its name, and the text of its value. -/
structure Entry where
  name : Padded
  value : Padded

namespace Entry

/-- The field as a part between the blanks before its name and those behind its value. -/
def padded (e : Entry) : Padded where
  before := e.name.before
  core := '"' :: (e.name.core ++
    '"' :: (e.name.behind ++ ':' :: (e.value.before ++ e.value.core)))
  behind := e.value.behind

structure Named (e : Entry) : Prop where
  name : IsString e.name.core
  blanks : e.name.InBlanks
  value : e.value.InBlanks

end Entry

def behindOthers (ps : List Padded) : List Char := ps.flatMap fun p => ',' :: p.text

/-- Parts between commas, or blanks alone, and the bracket behind them. -/
inductive Parted (close : Char) : List Padded → List Char → Prop
  | empty {blanks : List Char} : Blanks blanks → Parted close [] (blanks ++ [close])
  | parts (p : Padded) (ps : List Padded) :
      Parted close (p :: ps) (p.text ++ (behindOthers ps ++ [close]))

def ArrayText (items : List Padded) (t : List Char) : Prop :=
  ∃ body, Parted ']' items body ∧ (∀ p ∈ items, p.InBlanks) ∧ t = '[' :: body

def ObjectText (entries : List Entry) (t : List Char) : Prop :=
  ∃ body, Parted '\x7d' (entries.map Entry.padded) body ∧ (∀ e ∈ entries, e.Named) ∧
    t = '\x7b' :: body

inductive ValueText : List Char → Prop
  | null : ValueText "null".toList
  | bool (b : Bool) : ValueText (if b then "true".toList else "false".toList)
  | number {t : List Char} : NumberText t → ValueText t
  | string {body : List Char} : IsString body → ValueText ('"' :: (body ++ ['"']))
  | array {items : List Padded} {t : List Char} : ArrayText items t →
      (∀ p ∈ items, ValueText p.core) → ValueText t
  | object {entries : List Entry} {t : List Char} : ObjectText entries t →
      (∀ e ∈ entries, ValueText e.value.core) → ValueText t

def IsJson (text : String) : Prop :=
  ∃ p : Padded, p.InBlanks ∧ ValueText p.core ∧ text.toList = p.text

def IsObject (entries : List Entry) (text : String) : Prop :=
  ∃ p : Padded, p.InBlanks ∧ ObjectText entries p.core ∧
    (∀ e ∈ entries, ValueText e.value.core) ∧ text.toList = p.text

/-- A text that goes on as an object, whether it is one or not. -/
def OpensObject (text : String) : Prop :=
  ∃ blanks rest, Blanks blanks ∧ text.toList = blanks ++ '\x7b' :: rest

theorem IsObject.isJson {entries : List Entry} {text : String} (h : IsObject entries text) :
    IsJson text := by
  obtain ⟨p, hblanks, hobject, hvalues, htext⟩ := h
  exact ⟨p, hblanks, .object hobject hvalues, htext⟩

theorem IsObject.opensObject {entries : List Entry} {text : String} (h : IsObject entries text) :
    OpensObject text := by
  obtain ⟨p, hblanks, ⟨body, -, -, hcore⟩, -, htext⟩ := h
  refine ⟨p.before, body ++ p.behind, hblanks.1, ?_⟩
  rw [htext, Padded.text, hcore, List.cons_append]

end CallFlow.Json
