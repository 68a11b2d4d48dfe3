import CallFlow.Proofs.Graph.Compilation

/-!
# Paths from a later block

From a block in the middle of a maximal path the walk goes on as before. It only ends elsewhere if the
path leads back to a block that is no longer in front of it: then the walk goes once around the cycle,
up to the block it began at. `IsMaximalPath.suffix` and `IsPath.rotate` are the two cases.
-/

namespace CallFlow
set_option autoImplicit false

variable {registry : Registry} {compiler : Compiler} {blocks : List Block} {start b c last : Block}
variable {path first middle rest before : List Block} {stop : StopReason} {script : Script}

theorem IsMaximalPath.id_mem_of_next? (h : IsMaximalPath registry blocks start path)
    (hlast : path.getLast? = some last) (hpasses : registry.Passes last)
    (hc : last.next? blocks = some c) : c.id ∈ path.map (·.id) := by
  by_contra hid
  exact h.unextendable c (h.append_next hlast hpasses hc hid)

namespace IsPath

theorem suffix (h : IsPath registry blocks start (before ++ b :: rest)) :
    IsPath registry blocks b (b :: rest) where
  starts := rfl
  linked := h.linked.right_of_append
  distinct := by
    have hdistinct := h.distinct
    rw [List.map_append] at hdistinct
    exact hdistinct.of_append_right
  passing := by
    intro x hx
    apply h.passing
    rw [List.dropLast_append_of_ne_nil (List.cons_ne_nil b rest)]
    exact List.mem_append_right before hx

theorem passes_of_passes_last (h : IsPath registry blocks start path)
    (hlast : path.getLast? = some last) (hpasses : registry.Passes last) :
    ∀ x ∈ path, registry.Passes x := by
  intro x hx
  rw [← List.dropLast_append_getLast? last hlast] at hx
  rcases List.mem_append.mp hx with hx | hx
  · exact h.passing x hx
  · rwa [List.mem_singleton.mp hx]

theorem next?_getLast (h : IsPath registry blocks start (path ++ b :: rest))
    (hlast : path.getLast? = some last) : last.next? blocks = some b :=
  (List.isChain_append.mp h.linked).2.2 last hlast b rfl

/-- A path that leads back to its first block can be begun at any of its blocks. -/
theorem rotate (h : IsPath registry blocks c (c :: middle ++ b :: rest))
    (hlast : (b :: rest).getLast? = some last) (hpasses : registry.Passes last)
    (hback : last.next? blocks = some c) :
    IsMaximalPath registry blocks b (b :: rest ++ c :: middle) := by
  have hend : (c :: middle ++ b :: rest).getLast? = some last := by
    rw [List.getLast?_append_cons, hlast]
  have hall := h.passes_of_passes_last hend hpasses
  have hperm : (b :: rest ++ c :: middle).Perm (c :: middle ++ b :: rest) :=
    List.perm_append_comm
  have hrotated : IsPath registry blocks b (b :: rest ++ c :: middle) := by
    refine ⟨rfl, ?_, ?_, fun x hx => hall x (hperm.subset (List.dropLast_subset _ hx))⟩
    · refine List.isChain_append.mpr ⟨h.linked.right_of_append, h.linked.left_of_append, ?_⟩
      intro x hx y hy
      obtain rfl := Option.some.inj (hlast.symm.trans hx)
      obtain rfl := Option.some.inj hy
      exact hback
    · exact (hperm.map (·.id)).nodup_iff.mpr h.distinct
  obtain ⟨final, hfinal⟩ : ∃ final, (c :: middle).getLast? = some final :=
    ⟨_, List.getLast?_eq_some_getLast (List.cons_ne_nil c middle)⟩
  have hclosed : (b :: rest ++ c :: middle).getLast? = some final := by
    rw [List.getLast?_append_cons, hfinal]
  -- Its last block leads to the first one, so there is nothing to add.
  refine hrotated.maximal hclosed fun _ x hx => ?_
  obtain rfl := Option.some.inj ((h.next?_getLast hfinal).symm.trans hx)
  simp

end IsPath

theorem IsMaximalPath.suffix (h : IsMaximalPath registry blocks start (before ++ b :: rest))
    (hlast : (b :: rest).getLast? = some last)
    (hnoback : registry.Passes last → ∀ c, last.next? blocks = some c →
      c.id ∉ before.map (·.id)) : IsMaximalPath registry blocks b (b :: rest) := by
  refine h.toIsPath.suffix.maximal hlast fun hpasses c hc => ?_
  have hend : (before ++ b :: rest).getLast? = some last := by
    rw [List.getLast?_append_cons, hlast]
  have hid := h.id_mem_of_next? hend hpasses hc
  rw [List.map_append] at hid
  exact (List.mem_append.mp hid).resolve_left (hnoback hpasses c hc)

/-! Reasons to stop. -/

/-- Where a path ends it ends from every block of it, unless it leads back to one in front. -/
theorem StopsFor.suffix (h : StopsFor registry blocks (before ++ b :: rest) stop)
    (hnoback : ∀ name target, stop = .revisited name target → target ∉ before.map (·.id)) :
    StopsFor registry blocks (b :: rest) stop := by
  have hend : (before ++ b :: rest).getLast? = (b :: rest).getLast? :=
    List.getLast?_append_cons before b rest
  cases h with
  | hangup hlast hkind => exact .hangup (hend ▸ hlast) hkind
  | awaitingInput hlast hkind => exact .awaitingInput (hend ▸ hlast) hkind
  | endOfFlow hlast hpasses hnil => exact .endOfFlow (hend ▸ hlast) hpasses hnil
  | danglingConnection hlast hpasses hhead hmissing =>
    exact .danglingConnection (hend ▸ hlast) hpasses hhead hmissing
  | revisited hlast hpasses hhead hmem =>
    rw [List.map_append] at hmem
    have hbehind := (List.mem_append.mp hmem).resolve_left (hnoback _ _ rfl)
    exact .revisited (hend ▸ hlast) hpasses hhead hbehind

theorem StopsFor.eq_revisited (h : StopsFor registry blocks path stop)
    (hfound : ∀ b ∈ path, findBlock? blocks b.id = some b) (hlast : path.getLast? = some last)
    (hpasses : registry.Passes last) (hc : last.next? blocks = some c)
    (hmem : c.id ∈ path.map (·.id)) : stop = .revisited last.id c.id :=
  h.unique hfound (.revisited hlast hpasses (id_eq_of_next? hc) hmem)

namespace Script.Follows

/-- Blocks that are all on the path of a script are of known kinds, so that a walk along them is no
failure. -/
theorem exists_scriptFrom (h : script.Follows compiler blocks start path)
    (hb : findBlock? blocks b.id = some b) (hpath : IsMaximalPath compiler.registry blocks b rest)
    (hsubset : ∀ x ∈ rest, x ∈ path) :
    ∃ resumed, compiler.scriptFrom blocks (some b) = .ok resumed ∧
      resumed.Follows compiler blocks b rest := by
  obtain ⟨other, hother, hyields⟩ := compiler.scriptFrom_yields hb
  obtain rfl := hother.unique hpath
  exact hyields.exists_script fun x hx => h.resolve? (hsubset x hx)

theorem scriptFrom_suffix (h : script.Follows compiler blocks start (before ++ b :: rest))
    (hpath : IsMaximalPath compiler.registry blocks start (before ++ b :: rest))
    (hstart : findBlock? blocks start.id = some start)
    (hnoback : ∀ name target, script.stop = .revisited name target →
      target ∉ before.map (·.id)) :
    ∃ resumed, compiler.scriptFrom blocks (some b) = .ok resumed ∧
      resumed.Follows compiler blocks b (b :: rest) ∧ resumed.stop = script.stop := by
  have hfound := hpath.findBlock?_id hstart
  obtain ⟨last, hlast⟩ := hpath.toIsPath.suffix.exists_getLast?
  have hend : (before ++ b :: rest).getLast? = some last := by
    rw [List.getLast?_append_cons, hlast]
  have hstop := (h.stop _).mp rfl
  have hsuffix : IsMaximalPath compiler.registry blocks b (b :: rest) := by
    refine hpath.suffix hlast fun hpasses c hc hmem => ?_
    have hback : c.id ∈ (before ++ b :: rest).map (·.id) := by
      rw [List.map_append]
      exact List.mem_append_left _ hmem
    exact hnoback _ _ (hstop.eq_revisited hfound hend hpasses hc hback) hmem
  obtain ⟨resumed, hresumed, hfollows⟩ := h.exists_scriptFrom (hfound b (by simp)) hsuffix
    fun x hx => List.mem_append_right before hx
  exact ⟨resumed, hresumed, hfollows, (hfollows.stop _).mpr (hstop.suffix hnoback)⟩

theorem scriptFrom_cycle
    (h : script.Follows compiler blocks start (first ++ (c :: middle ++ b :: rest)))
    (hpath : IsMaximalPath compiler.registry blocks start (first ++ (c :: middle ++ b :: rest)))
    (hstart : findBlock? blocks start.id = some start) {name : String}
    (hback : script.stop = .revisited name c.id) :
    ∃ resumed final, compiler.scriptFrom blocks (some b) = .ok resumed ∧
      resumed.Follows compiler blocks b (b :: rest ++ c :: middle) ∧
      (c :: middle).getLast? = some final ∧ resumed.stop = .revisited final.id b.id := by
  have hfound := hpath.findBlock?_id hstart
  have hcycle : IsPath compiler.registry blocks c (c :: middle ++ b :: rest) :=
    hpath.toIsPath.suffix
  obtain ⟨last, hlast⟩ := (IsPath.suffix hcycle).exists_getLast?
  obtain ⟨final, hfinal⟩ : ∃ final, (c :: middle).getLast? = some final :=
    ⟨_, List.getLast?_eq_some_getLast (List.cons_ne_nil c middle)⟩
  have hlastCycle : (c :: middle ++ b :: rest).getLast? = some last := by
    rw [List.getLast?_append_cons, hlast]
  have hlastPath : (first ++ (c :: middle ++ b :: rest)).getLast? = some last := by
    rw [List.getLast?_append_of_ne_nil _ (by simp), hlastCycle]
  have hlastRotated : (b :: rest ++ c :: middle).getLast? = some final := by
    rw [List.getLast?_append_cons, hfinal]
  cases (h.stop _).mp hback with
  | @revisited x target hx hpasses hhead hmem =>
    obtain rfl := Option.some.inj (hlastPath.symm.trans hx)
    -- The flow goes on behind every block of the cycle, the last one included.
    have hnext : last.next? blocks = some c := by
      rw [Block.next?, hhead]
      exact hfound c (by simp)
    have hall := hcycle.passes_of_passes_last hlastCycle hpasses
    have hmaximal := hcycle.rotate hlast hpasses hnext
    obtain ⟨resumed, hresumed, hfollows⟩ := h.exists_scriptFrom (hfound b (by simp)) hmaximal
      fun y hy => List.mem_append_right first (List.perm_append_comm.subset hy)
    have hstop : StopsFor compiler.registry blocks (b :: rest ++ c :: middle)
        (.revisited final.id b.id) :=
      .revisited hlastRotated (hall final (List.mem_append_left _ (List.mem_of_getLast? hfinal)))
        (id_eq_of_next? (hcycle.next?_getLast hfinal)) (by simp)
    exact ⟨resumed, final, hresumed, hfollows, hfinal, (hfollows.stop _).mpr hstop⟩

end Script.Follows
end CallFlow
