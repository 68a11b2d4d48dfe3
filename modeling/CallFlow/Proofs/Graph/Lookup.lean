import CallFlow.Flow.Basic

/-! Looking blocks up in a graph. Several blocks may share an id; a look-up gives the first of them,
and so does the choice of the entry, since it asks for nothing but ids. -/

namespace CallFlow
set_option autoImplicit false

variable {blocks : List Block} {id : String} {b : Block}

theorem id_of_findBlock? (h : findBlock? blocks id = some b) : b.id = id := by
  unfold findBlock? at h
  have hid := List.find?_some h
  exact beq_iff_eq.mp hid

theorem findBlock?_id_of_findBlock? (h : findBlock? blocks id = some b) :
    findBlock? blocks b.id = some b := by
  rw [id_of_findBlock? h]
  exact h

theorem isTargeted_eq_false_iff :
    isTargeted blocks id = false ↔ ∀ c ∈ blocks, c.id ≠ id → id ∉ c.connections := by
  simp [isTargeted]

/-- The first block whose id has a property is the first one with its id. -/
theorem findBlock?_id_of_find? {p : String → Bool} (h : blocks.find? (fun c => p c.id) = some b) :
    findBlock? blocks b.id = some b := by
  obtain ⟨hb, before, after, rfl, hbefore⟩ := List.find?_eq_some_iff_append.mp h
  refine List.find?_eq_some_iff_append.mpr ⟨beq_self_eq_true b.id, before, after, rfl, ?_⟩
  intro c hc
  by_cases hid : c.id = b.id
  · have hnot := hbefore c hc
    rw [hid, hb] at hnot
    exact absurd hnot (by decide)
  · simpa using hid

theorem findBlock?_entryBlock? (h : entryBlock? blocks = some b) :
    findBlock? blocks b.id = some b := by
  rcases Option.or_eq_some_iff.mp h with hfirst | ⟨-, hhead⟩
  · exact findBlock?_id_of_find? (p := fun name => !isTargeted blocks name) hfirst
  · obtain ⟨rest, rfl⟩ := List.head?_eq_some_iff.mp hhead
    exact List.find?_cons_of_pos (beq_self_eq_true b.id)

theorem exists_entryBlock? (h : blocks ≠ []) : ∃ b, entryBlock? blocks = some b := by
  obtain ⟨b, rest, rfl⟩ := List.exists_cons_of_ne_nil h
  cases hfirst : (b :: rest).find? (fun c => !isTargeted (b :: rest) c.id) with
  | none => exact ⟨b, by simp [entryBlock?, hfirst]⟩
  | some c => exact ⟨c, by simp [entryBlock?, hfirst]⟩

end CallFlow
