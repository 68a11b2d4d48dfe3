import CallFlow.Markup.Escape
import CallFlow.Text.Ranges

/-!
# Characters and references

What a reader of XML 1.0 makes of characters: which may stand in a document, and which of the five
predefined entities a reference means. Escaped text holds no character of markup, and resolving its
references gives the text back, less the characters that no document may hold.
-/

namespace CallFlow.Markup
set_option autoImplicit false

open Text (inRanges)

def charRanges : List (Nat × Nat) :=
  [(0x9, 0x9), (0xA, 0xA), (0xD, 0xD), (0x20, 0xD7FF), (0xE000, 0xFFFD), (0x10000, 0x10FFFF)]

def isXmlChar (c : Char) : Bool := inRanges charRanges c

def isSpace (c : Char) : Bool := c == ' ' || c == '\t' || c == '\r' || c == '\n'

/-- The entities that need no declaration. -/
def entities : List (List Char × Char) :=
  [("amp".toList, '&'), ("lt".toList, '<'), ("gt".toList, '>'), ("quot".toList, '"'),
    ("apos".toList, '\x27')]

/-- Text with its references resolved, from within a reference or outside of one. -/
def unescapeFrom : Option (List Char) → List Char → Option (List Char)
  | none, [] => some []
  | some _, [] => none
  | none, c :: cs =>
    if c = '&' then unescapeFrom (some []) cs else (unescapeFrom none cs).map (c :: ·)
  | some name, c :: cs =>
    if c = ';' then (entities.lookup name).bind fun d => (unescapeFrom none cs).map (d :: ·)
    else unescapeFrom (some (name ++ [c])) cs

/-- Text with its references resolved, if all of them mean something. -/
def unescape (cs : List Char) : Option (List Char) := unescapeFrom none cs

theorem isAllowed_eq_isXmlChar (c : Char) : isAllowed c = isXmlChar c := by
  have hle : c.toNat ≤ 0x10FFFF := by
    have hvalid := c.valid
    unfold UInt32.isValidChar Nat.isValidChar at hvalid
    change c.val.toNat ≤ 0x10FFFF
    omega
  have heq : ∀ d : Char, (c == d) = decide (c.toNat = d.toNat) := by
    intro d
    rw [Bool.eq_iff_iff, beq_iff_eq, decide_eq_true_eq]
    exact ⟨congrArg Char.toNat, fun h => Char.ext (UInt32.toNat_inj.mp h)⟩
  rw [Bool.eq_iff_iff]
  simp only [isAllowed, heq, isXmlChar, inRanges, charRanges, List.any_cons, List.any_nil,
    Bool.or_eq_true, Bool.and_eq_true, decide_eq_true_eq, Bool.or_false]
  have htab : '\t'.toNat = 9 := rfl
  have hline : '\n'.toNat = 10 := rfl
  have hreturn : '\r'.toNat = 13 := rfl
  omega

theorem unescape_cons {c : Char} (h : c ≠ '&') (cs : List Char) :
    unescape (c :: cs) = (unescape cs).map (c :: ·) := by
  rw [unescape, unescapeFrom, if_neg h]
  rfl

theorem unescape_of_notMem {cs : List Char} (h : '&' ∉ cs) : unescape cs = some cs := by
  induction cs with
  | nil => rfl
  | cons c cs ih =>
    obtain ⟨hc, hcs⟩ := not_or.mp (fun hmem => h (List.mem_cons.mpr hmem))
    rw [unescape_cons (Ne.symm hc), ih hcs, Option.map_some]

def reserved : List Char := ['&', '<', '>', '"', '\x27']

theorem escapeChar_of_notMem {c : Char} (h : c ∉ reserved) : escapeChar c = [c] := by
  simp only [reserved, List.mem_cons, List.not_mem_nil, or_false, not_or] at h
  obtain ⟨hamp, hlt, hgt, hquot, hapos⟩ := h
  simp only [escapeChar, if_neg hamp, if_neg hlt, if_neg hgt, if_neg hquot, if_neg hapos]

theorem unescape_escapeChar_append (c : Char) (cs : List Char) :
    unescape (escapeChar c ++ cs) = (unescape cs).map (c :: ·) := by
  by_cases hmem : c ∈ reserved
  · simp only [reserved, List.mem_cons, List.not_mem_nil, or_false] at hmem
    rcases hmem with rfl | rfl | rfl | rfl | rfl <;> rfl
  · rw [escapeChar_of_notMem hmem]
    refine unescape_cons ?_ cs
    rintro rfl
    exact hmem List.mem_cons_self

theorem unescape_flatMap_escapeChar (cs : List Char) :
    unescape (cs.flatMap escapeChar) = some cs := by
  induction cs with
  | nil => rfl
  | cons c cs ih => rw [List.flatMap_cons, unescape_escapeChar_append, ih, Option.map_some]

/-- Resolving undoes escaping, but for the characters that were dropped. -/
theorem unescape_escapeChars (cs : List Char) :
    unescape (escapeChars cs) = some (cs.filter isXmlChar) := by
  have heq : isAllowed = isXmlChar := funext isAllowed_eq_isXmlChar
  rw [escapeChars_eq, unescape_flatMap_escapeChar, heq]

def referenceChars : List Char := "&amp;&lt;&gt;&quot;&apos;".toList

theorem mem_escapeChar {c d : Char} (h : d ∈ escapeChar c) :
    (d = c ∧ d ∉ reserved) ∨ d ∈ referenceChars := by
  have hreference : (reserved.flatMap escapeChar).all referenceChars.contains = true := by decide
  by_cases hmem : c ∈ reserved
  · have hd := List.all_eq_true.mp hreference d (List.mem_flatMap.mpr ⟨c, hmem, h⟩)
    exact .inr (List.contains_iff_mem.mp hd)
  · rw [escapeChar_of_notMem hmem] at h
    obtain rfl := List.mem_singleton.mp h
    exact .inl ⟨rfl, hmem⟩

/-- Escaped text holds no bracket and no quote. -/
theorem notMem_escapeChars {c : Char} (h : c ∈ ['<', '>', '"', '\x27']) (cs : List Char) :
    c ∉ escapeChars cs := by
  intro hmem
  rw [escapeChars_eq] at hmem
  obtain ⟨d, -, hd⟩ := List.mem_flatMap.mp hmem
  rcases mem_escapeChar hd with ⟨-, hnot⟩ | hreference
  · exact hnot (List.mem_cons_of_mem '&' h)
  · have hnone : referenceChars.filter ['<', '>', '"', '\x27'].contains = [] := by decide
    exact List.filter_eq_nil_iff.mp hnone c hreference (List.contains_iff_mem.mpr h)

theorem isXmlChar_of_mem_escapeChars {c : Char} {cs : List Char} (h : c ∈ escapeChars cs) :
    isXmlChar c = true := by
  rw [escapeChars_eq] at h
  obtain ⟨d, hd, hc⟩ := List.mem_flatMap.mp h
  rcases mem_escapeChar hc with ⟨rfl, -⟩ | hreference
  · rw [← isAllowed_eq_isXmlChar]
    exact (List.mem_filter.mp hd).2
  · have hall : referenceChars.all isXmlChar = true := by decide
    exact List.all_eq_true.mp hall c hreference

end CallFlow.Markup
