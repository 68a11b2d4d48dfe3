import CallFlow.Text.Blank

/-!
# Blank ends

Trimming takes away the blanks at both ends and nothing else. So a text is what trimming leaves of
some text exactly if it neither begins nor ends with a blank, and nothing is left exactly of a text
that is blank throughout.
-/

namespace CallFlow.Text
set_option autoImplicit false

variable {c : Char} {cs : List Char} {s : String}

structure Trimmed (cs : List Char) : Prop where
  head : ∀ c ∈ cs.head?, isBlank c = false
  last : ∀ c ∈ cs.getLast?, isBlank c = false

def Filled (s : String) : Prop := ∃ c ∈ s.toList, isBlank c = false

theorem blank_eq_false_iff : blank s = false ↔ Filled s := by
  rw [blank, List.all_eq_false]
  simp only [Bool.not_eq_true]
  rfl

theorem head?_trimLeft : ∀ c ∈ (trimLeft cs).head?, isBlank c = false := by
  intro c hc
  have hnot := List.head?_dropWhile_not isBlank cs
  rw [show (cs.dropWhile isBlank).head? = some c from hc] at hnot
  exact hnot

theorem trimLeft_eq_self (h : ∀ c ∈ cs.head?, isBlank c = false) : trimLeft cs = cs := by
  cases cs with
  | nil => rfl
  | cons c cs =>
    have hc : isBlank c = false := h c rfl
    exact List.dropWhile_cons_of_neg (by simp [hc])

theorem mem_trimLeft_iff (h : isBlank c = false) : c ∈ trimLeft cs ↔ c ∈ cs := by
  induction cs with
  | nil => rfl
  | cons d cs ih =>
    rw [trimLeft, List.dropWhile_cons]
    split
    next hd =>
      have hne : c ≠ d := by
        rintro rfl
        rw [h] at hd
        cases hd
      exact ih.trans (by simp [hne])
    next => rfl

theorem head?_trimRight (h : ∀ c ∈ cs.head?, isBlank c = false) :
    ∀ c ∈ (trimRight cs).head?, isBlank c = false := by
  intro c hc
  apply h
  obtain ⟨blanks, hblanks⟩ := List.dropWhile_suffix (l := cs.reverse) isBlank
  have hcs : cs = trimRight cs ++ blanks.reverse := by
    rw [trimRight, trimLeft, ← List.reverse_append, hblanks, List.reverse_reverse]
  rw [hcs, List.head?_append, hc]
  rfl

theorem trimmed_trim (s : String) : Trimmed (trim s).toList := by
  rw [trim, String.toList_ofList]
  refine ⟨head?_trimRight head?_trimLeft, fun c hc => ?_⟩
  rw [trimRight, List.getLast?_reverse] at hc
  exact head?_trimLeft c hc

theorem Trimmed.trim_eq (h : Trimmed s.toList) : trim s = s := by
  have hlast : trimLeft s.toList.reverse = s.toList.reverse := by
    apply trimLeft_eq_self
    intro c hc
    exact h.last c (List.head?_reverse ▸ hc)
  rw [trim, trimLeft_eq_self h.head, trimRight, hlast, List.reverse_reverse, String.ofList_toList]

/-- Blanks around a text are taken away, and the text is left. -/
theorem trim_padded {before after : List Char} (hbefore : ∀ c ∈ before, isBlank c = true)
    (h : Trimmed cs) (hcs : cs ≠ []) (hafter : ∀ c ∈ after, isBlank c = true) :
    trim (String.ofList (before ++ cs ++ after)) = String.ofList cs := by
  have hleft : trimLeft (before ++ cs ++ after) = cs ++ after := by
    rw [List.append_assoc, trimLeft, List.dropWhile_append_of_pos hbefore]
    apply trimLeft_eq_self
    obtain ⟨d, ds, rfl⟩ := List.exists_cons_of_ne_nil hcs
    exact h.head
  have hright : trimLeft (cs ++ after).reverse = cs.reverse := by
    rw [List.reverse_append, trimLeft, List.dropWhile_append_of_pos]
    · apply trimLeft_eq_self
      rw [List.head?_reverse]
      exact h.last
    · intro c hc
      exact hafter c (List.mem_reverse.mp hc)
  rw [trim, String.toList_ofList, hleft, trimRight, hright, List.reverse_reverse]

theorem trim_eq_self_iff : trim s = s ↔ Trimmed s.toList :=
  ⟨fun h => h ▸ trimmed_trim s, Trimmed.trim_eq⟩

theorem trim_trim (s : String) : trim (trim s) = trim s := (trimmed_trim s).trim_eq

theorem exists_trim_eq_iff : (∃ t, trim t = s) ↔ trim s = s := by
  constructor
  · rintro ⟨t, rfl⟩
    exact trim_trim t
  · exact fun h => ⟨s, h⟩

theorem mem_trim_iff (h : isBlank c = false) : c ∈ (trim s).toList ↔ c ∈ s.toList := by
  rw [trim, String.toList_ofList, trimRight, List.mem_reverse, mem_trimLeft_iff h,
    List.mem_reverse, mem_trimLeft_iff h]

theorem filled_trim_iff : Filled (trim s) ↔ Filled s :=
  exists_congr fun _ => and_congr_left fun hc => mem_trim_iff hc

theorem isEmpty_trim (s : String) : (trim s).isEmpty = blank s := by
  cases hblank : blank s with
  | true =>
    rw [String.isEmpty_iff]
    apply String.toList_inj.mp
    cases htrim : (trim s).toList with
    | nil => rfl
    | cons c cs =>
      have hc : isBlank c = false := (trimmed_trim s).head c (by rw [htrim]; rfl)
      have hmem : c ∈ s.toList := (mem_trim_iff hc).mp (htrim ▸ List.mem_cons_self)
      rw [blank_eq_false_iff.mpr ⟨c, hmem, hc⟩] at hblank
      cases hblank
  | false =>
    obtain ⟨c, hc, hkept⟩ := blank_eq_false_iff.mp hblank
    have hmem := (mem_trim_iff hkept).mpr hc
    apply Bool.eq_false_iff.mpr
    intro hempty
    rw [String.isEmpty_iff.mp hempty] at hmem
    cases hmem

end CallFlow.Text
