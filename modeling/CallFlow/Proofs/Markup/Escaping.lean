import CallFlow.Proofs.Markup.Entity

/-!
# Escaping as a map of texts

Escaping goes character by character, so it respects the joining of texts, whether there is something
to drop in one of them or not. What comes out may stand between tags and between quotes, and an
ampersand in it is the start of a reference, also where the text already looked like one.
-/

namespace CallFlow.Markup
set_option autoImplicit false

def references : List (List Char) := entities.map fun (name, _) => name ++ [';']

theorem exists_reference {c : Char} (h : c ∈ reserved) :
    ∃ reference ∈ references, escapeChar c = '&' :: reference := by
  simp only [reserved, List.mem_cons, List.not_mem_nil, or_false] at h
  rcases h with rfl | rfl | rfl | rfl | rfl
  · exact ⟨"amp;".toList, by decide, rfl⟩
  · exact ⟨"lt;".toList, by decide, rfl⟩
  · exact ⟨"gt;".toList, by decide, rfl⟩
  · exact ⟨"quot;".toList, by decide, rfl⟩
  · exact ⟨"apos;".toList, by decide, rfl⟩

theorem notMem_reference {reference : List Char} (h : reference ∈ references) :
    '&' ∉ reference := by
  have hall : references.all (fun reference => !reference.contains '&') = true := by decide
  simpa using List.all_eq_true.mp hall reference h

theorem eq_append_of_notMem {c : Char} {part rest before behind : List Char} (h : c ∉ part)
    (heq : part ++ rest = before ++ c :: behind) :
    ∃ between, rest = between ++ c :: behind := by
  induction part generalizing before with
  | nil => exact ⟨before, heq⟩
  | cons d part ih =>
    obtain ⟨hd, hpart⟩ := not_or.mp fun hmem => h (List.mem_cons.mpr hmem)
    cases before with
    | nil => exact absurd (List.cons.inj heq).1.symm hd
    | cons e before => exact ih hpart (List.cons.inj heq).2

/-- Behind an ampersand of escaped text stands the rest of a reference. -/
theorem reference_behind_ampersand {cs before behind : List Char}
    (h : escapeChars cs = before ++ '&' :: behind) :
    ∃ reference ∈ references, reference <+: behind := by
  rw [escapeChars_eq] at h
  generalize cs.filter isAllowed = kept at h
  induction kept generalizing before with
  | nil =>
    rw [List.flatMap_nil] at h
    exact absurd h.symm (List.append_ne_nil_of_right_ne_nil _ (List.cons_ne_nil _ _))
  | cons c kept ih =>
    rw [List.flatMap_cons] at h
    by_cases hc : c ∈ reserved
    · obtain ⟨reference, hreference, hescape⟩ := exists_reference hc
      rw [hescape] at h
      cases before with
      | nil => exact ⟨reference, hreference, kept.flatMap escapeChar, (List.cons.inj h).2⟩
      | cons d before =>
        have hbehind : reference ++ kept.flatMap escapeChar = before ++ '&' :: behind :=
          (List.cons.inj h).2
        obtain ⟨between, hrest⟩ := eq_append_of_notMem (notMem_reference hreference) hbehind
        exact ih hrest
    · have hplain : '&' ∉ escapeChar c := by
        rw [escapeChar_of_notMem hc, List.mem_singleton]
        rintro rfl
        exact hc List.mem_cons_self
      obtain ⟨between, hrest⟩ := eq_append_of_notMem hplain h
      exact ih hrest

theorem toList_escape (s : String) : (escape s).toList = escapeChars s.toList :=
  String.toList_ofList

theorem escape_append (s t : String) : escape (s ++ t) = escape s ++ escape t := by
  rw [← String.toList_inj, String.toList_append, toList_escape, toList_escape, toList_escape,
    String.toList_append, escapeChars_append]

theorem unescape_escape (s : String) :
    unescape (escape s).toList = some (s.toList.filter isXmlChar) := by
  rw [toList_escape, unescape_escapeChars]

theorem escape_ne {s t : String} (hs : ∀ c ∈ s.toList, isXmlChar c = true)
    (ht : ∀ c ∈ t.toList, isXmlChar c = true) (hne : s ≠ t) : escape s ≠ escape t := by
  refine mt (fun heq => ?_) hne
  have hread : some (s.toList.filter isXmlChar) = some (t.toList.filter isXmlChar) := by
    rw [← unescape_escape, ← unescape_escape, heq]
  rw [List.filter_eq_self.mpr hs, List.filter_eq_self.mpr ht] at hread
  exact String.toList_inj.mp (Option.some.inj hread)

/-- Escaping loses the characters that no document may hold, and nothing else: resolving the
references gives back the others, so that texts without such characters stay apart. Joined texts are
escaped one by one. What is written may stand in a document, holds no bracket and no quote, and has
ampersands only where a reference starts. A text with nothing to drop is not copied, which makes no
difference. -/
theorem escape_lossless (s t : String) :
    unescape (escape s).toList = some (s.toList.filter isXmlChar) ∧
    ((∀ c ∈ s.toList, isXmlChar c = true) → (∀ c ∈ t.toList, isXmlChar c = true) →
      s ≠ t → escape s ≠ escape t) ∧
    escape (s ++ t) = escape s ++ escape t ∧
    (∀ c ∈ (escape s).toList, isXmlChar c = true ∧ c ∉ ['<', '>', '"', '\x27']) ∧
    (∀ before behind, (escape s).toList = before ++ '&' :: behind →
      ∃ reference ∈ references, reference <+: behind) ∧
    (stripped? s.toList = none ↔ ∀ c ∈ s.toList, isXmlChar c = true) ∧
    escape s = String.ofList ((s.toList.filter isXmlChar).flatMap escapeChar) := by
  have hsame : isAllowed = isXmlChar := funext isAllowed_eq_isXmlChar
  refine ⟨unescape_escape s, escape_ne, escape_append s t, fun c hc => ?_,
    fun before behind h => ?_, ?_, ?_⟩
  · rw [toList_escape] at hc
    exact ⟨isXmlChar_of_mem_escapeChars hc, fun hsign => notMem_escapeChars hsign _ hc⟩
  · rw [toList_escape] at h
    exact reference_behind_ampersand h
  · rw [stripped?, hsame, ← List.all_eq_true]
    cases s.toList.all isXmlChar <;> simp
  · rw [escape, escapeChars_eq, hsame]

/-- A text that already holds a reference stays apart from what that means; a character is dropped
from within what then looks like a reference. -/
theorem escape_lossless_nested :
    escape "&lt;" ≠ escape "<" ∧ (∃ reference ∈ references, reference <+: "amp;lt;".toList) ∧
    unescape (escape "&\x01lt;").toList = some "&lt;".toList := by
  obtain ⟨-, hapart, -, -, hreference, -⟩ := escape_lossless "&lt;" "<"
  have hlegal : "&lt;".toList.all isXmlChar = true ∧ "<".toList.all isXmlChar = true := by decide
  refine ⟨hapart (List.all_eq_true.mp hlegal.1) (List.all_eq_true.mp hlegal.2) (by decide),
    hreference [] _ (by decide), ?_⟩
  rw [(escape_lossless "&\x01lt;" "").1]
  decide

end CallFlow.Markup
