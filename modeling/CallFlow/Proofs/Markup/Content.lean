import CallFlow.Markup.Document
import CallFlow.Proofs.Markup.Entity
import CallFlow.Proofs.Text.Trim

/-!
# Text in documents

Every verb with a text is written with that text, escaped, between two tags. Escaping drops what no
document may hold, so something to speak is left exactly if some of it in the text may stand in a
document.
-/

namespace CallFlow
set_option autoImplicit false

namespace Markup

/-- Text with something to speak in it that a document may hold. -/
def Printable (s : String) : Prop := ∃ c ∈ s.toList, isAllowed c = true ∧ Text.isBlank c = false

theorem Printable.filled {s : String} (h : Printable s) : Text.Filled s := by
  obtain ⟨c, hmem, -, hc⟩ := h
  exact ⟨c, hmem, hc⟩

theorem filled_escape_iff (s : String) : Text.Filled (escape s) ↔ Printable s := by
  have hreserved : reserved.any Text.isBlank = false := by decide
  rw [Text.Filled, escape, String.toList_ofList, escapeChars_eq]
  constructor
  · rintro ⟨c, hmem, hc⟩
    obtain ⟨d, hd, hmem⟩ := List.mem_flatMap.mp hmem
    obtain ⟨hd, hallowed⟩ := List.mem_filter.mp hd
    refine ⟨d, hd, hallowed, ?_⟩
    by_cases hin : d ∈ reserved
    · exact Bool.eq_false_iff.mpr (List.any_eq_false.mp hreserved d hin)
    · rw [escapeChar_of_notMem hin, List.mem_singleton] at hmem
      exact hmem ▸ hc
  · rintro ⟨d, hd, hallowed, hkept⟩
    have hwritten : ∃ c ∈ escapeChar d, Text.isBlank c = false := by
      by_cases hin : d ∈ reserved
      · refine ⟨'&', ?_, by decide⟩
        simp only [reserved, List.mem_cons, List.not_mem_nil, or_false] at hin
        rcases hin with rfl | rfl | rfl | rfl | rfl <;> decide
      · exact ⟨d, by rw [escapeChar_of_notMem hin, List.mem_singleton], hkept⟩
    obtain ⟨c, hmem, hc⟩ := hwritten
    exact ⟨c, List.mem_flatMap.mpr ⟨d, List.mem_filter.mpr ⟨hd, hallowed⟩, hmem⟩, hc⟩

inductive Element.Carries (content : String) : Element → Prop
  | text (tag : Tag) : Carries content (.text tag content)
  | nested {tag : Tag} {children : List Element} {child : Element} : child ∈ children →
      Carries content child → Carries content (.nested tag children)

theorem infix_writeChildren {child : Element} {children : List Element} (h : child ∈ children)
    (pretty : Bool) (depth : Nat) :
    child.write pretty depth <:+: writeChildren pretty depth children := by
  induction children with
  | nil => cases h
  | cons element rest ih =>
    rw [writeChildren]
    rcases List.mem_cons.mp h with rfl | h
    · exact List.infix_append ..
    · exact (ih h).trans (List.suffix_append ..).isInfix

theorem Element.Carries.infix_write {content : String} {element : Element}
    (h : element.Carries content) (pretty : Bool) (depth : Nat) :
    ∃ tag : Tag, tag.openText ++ (escape content).toList ++ tag.closeText <:+:
      element.write pretty depth := by
  induction h generalizing depth with
  | text tag =>
    have hwrite : (Element.text tag content).write pretty depth =
        tag.openText ++ (escape content).toList ++ tag.closeText := by
      rw [Element.write, escape, String.toList_ofList]
    exact ⟨tag, hwrite ▸ List.infix_refl _⟩
  | nested hmem _ ih =>
    obtain ⟨tag, htag⟩ := ih (depth + 1)
    refine ⟨tag, htag.trans ((infix_writeChildren hmem pretty (depth + 1)).trans ?_)⟩
    rw [Element.write, List.append_assoc, List.append_assoc]
    exact List.infix_append' ..

end Markup

open Markup

namespace Verb

def text? : Verb → Option String
  | say speech => some speech.text
  | gather g => g.prompt.map (·.text)
  | dial d => some d.number
  | play playback => some playback.url
  | sms reply => some reply.body
  | pause _ => none
  | record _ => none
  | hangup => none

end Verb

theorem Speech.carries_element (speech : Speech) : speech.element.Carries speech.text := by
  unfold Speech.element
  split
  · exact .nested List.mem_cons_self (.text _)
  · exact .text _

theorem Verb.carries_element {verb : Verb} {text : String} (h : verb.text? = some text)
    (context : CallContext) (options : Options) : (verb.element context options).Carries text := by
  cases verb with
  | say speech =>
    cases h
    exact speech.carries_element
  | gather g =>
    obtain ⟨prompt, hprompt, rfl⟩ := Option.map_eq_some_iff.mp h
    rw [Verb.element, hprompt]
    exact .nested List.mem_cons_self prompt.carries_element
  | dial d =>
    cases h
    exact .nested (List.mem_append_right _ List.mem_cons_self) (.text _)
  | play playback =>
    cases h
    exact .text _
  | sms reply =>
    cases h
    exact .text _
  | _ => cases h

/-- A document of verbs holds their texts, each between tags of its own. -/
theorem infix_renderDocument {verbs : List Verb} {verb : Verb} {text : String}
    (hverb : verb ∈ verbs) (htext : verb.text? = some text) (context : CallContext)
    (options : Options) :
    ∃ tag : Tag, tag.openText ++ (escape text).toList ++ tag.closeText <:+:
      (renderDocument context options verbs).toList := by
  have hroot : (responseElement context options verbs).Carries text := by
    rw [responseElement, if_neg (by simpa using List.ne_nil_of_mem hverb)]
    exact .nested (List.mem_map_of_mem hverb) (verb.carries_element htext context options)
  obtain ⟨tag, htag⟩ := hroot.infix_write options.pretty 0
  refine ⟨tag, htag.trans ?_⟩
  rw [renderDocument, String.toList_ofList, writeDocument]
  exact (List.suffix_append ..).isInfix

end CallFlow
