import CallFlow.Proofs.Json.Steps

/-!
# Parts behind one another

Items and fields are read alike: at the bracket that opens a list or an object any part may come, and
behind another part it comes behind a comma.
-/

namespace CallFlow.Json
set_option autoImplicit false

variable {close : Char} {first : Bool} {p : Padded} {ps : List Padded} {s t rest : List Char}

/-- What stands before a part: blanks, and a comma unless it is the first. -/
inductive Leads : Bool → List Char → Prop
  | first {blanks : List Char} : Blanks blanks → Leads true blanks
  | next {gap blanks : List Char} : Blanks gap → Blanks blanks → Leads false (gap ++ ',' :: blanks)

/-- A text that goes on with parts and their bracket, and with the rest behind it. -/
def GoesOn (close : Char) : Bool → List Padded → List Char → List Char → Prop
  | true, ps, s, rest => ∃ body, Parted close ps body ∧ s = body ++ rest
  | false, ps, s, rest => ∃ gap, Blanks gap ∧ s = gap ++ (behindOthers ps ++ close :: rest)

def Starts (core : List Char) : Prop :=
  ∃ c t, core = c :: t ∧ isSpace c = false ∧ c ≠ ']' ∧ c ≠ '\x7d'

theorem Padded.text_append (p : Padded) (s : List Char) :
    p.text ++ s = p.before ++ (p.core ++ (p.behind ++ s)) := by
  simp [text]

namespace GoesOn

theorem nil_iff : GoesOn close first [] s rest ↔ ∃ gap, Blanks gap ∧ s = gap ++ close :: rest := by
  cases first with
  | false => exact Iff.rfl
  | true =>
    constructor
    · rintro ⟨_, ⟨hgap⟩, rfl⟩
      exact ⟨_, hgap, by simp⟩
    · rintro ⟨gap, hgap, rfl⟩
      exact ⟨_, .empty hgap, by simp⟩

theorem skipSpace_eq (h : GoesOn close first [] s rest) (hclose : isSpace close = false) :
    skipSpace s = close :: rest := by
  obtain ⟨gap, hgap, rfl⟩ := nil_iff.mp h
  exact skipSpace_append_cons hgap hclose

theorem behind (hp : p.InBlanks) (ps : List Padded) (rest : List Char) :
    GoesOn close false ps (p.behind ++ (behindOthers ps ++ close :: rest)) rest :=
  ⟨_, hp.2, rfl⟩

theorem cons (h : GoesOn close first (p :: ps) s rest) (hp : p.InBlanks) :
    ∃ lead tail, Leads first lead ∧ GoesOn close false ps (p.behind ++ tail) rest ∧
      s = lead ++ (p.core ++ (p.behind ++ tail)) := by
  refine match first, h with
  | true, ⟨_, .parts _ _, hs⟩ => ⟨p.before, _, .first hp.1, behind hp ps rest, ?_⟩
  | false, ⟨gap, hgap, hs⟩ => ⟨_, _, .next hgap hp.1, behind hp ps rest, ?_⟩
  · rw [hs, List.append_assoc, List.append_assoc, List.singleton_append, Padded.text_append]
  · rw [hs, behindOthers, List.flatMap_cons]
    simp [Padded.text, behindOthers]

theorem exists_cons {lead tail : List Char} (htail : GoesOn close false ps tail rest)
    (hlead : Leads first lead) (core : List Char) :
    ∃ before behind, Blanks before ∧ Blanks behind ∧
      GoesOn close first (⟨before, core, behind⟩ :: ps) (lead ++ (core ++ tail)) rest := by
  obtain ⟨behind, hbehind, rfl⟩ := htail
  cases hlead with
  | first hlead =>
    exact ⟨lead, behind, hlead, hbehind, _, .parts _ _, by simp [Padded.text]⟩
  | @next gap before hgap hbefore =>
    exact ⟨before, behind, hbefore, hbehind, gap, hgap, by simp [Padded.text, behindOthers]⟩

theorem stops (h : GoesOn close false ps s rest) (hclose : ofNumber close = false) :
    Stops ofNumber s := by
  obtain ⟨gap, hgap, rfl⟩ := h
  refine (stops_blanks hgap).append ?_
  cases ps with
  | nil => exact stops_cons_iff.mpr hclose
  | cons p ps => exact stops_cons_iff.mpr rfl

end GoesOn
end CallFlow.Json
