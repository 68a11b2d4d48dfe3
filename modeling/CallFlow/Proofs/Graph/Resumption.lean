import CallFlow.Proofs.Graph.Attempt
import CallFlow.Proofs.Graph.Conversation
import CallFlow.Proofs.Graph.Rotation
import Mathlib.Data.List.SplitLengths
import Mathlib.Data.Option.Basic

/-!
# Resuming into a compiled path

The verbs of a script fall into fragments, one for each step of its trace. Resuming at a block that
was compiled gives the fragments from that block on: up to the end of the script, or, if the script
stopped because it led back to an earlier block, once around the cycle. So what a caller hears behind a
gather is what the compiled script says there.
-/

namespace CallFlow
set_option autoImplicit false

def Script.fragments (script : Script) : List (List Verb) :=
  (script.trace.map (·.verbsEmitted.toNat)).splitLengths script.verbs

/-- The script stopped because its last block leads to the one of step `j`. -/
def Script.LeadsBackTo (script : Script) (j : Nat) : Prop :=
  ∃ name earlier, script.trace[j]? = some earlier ∧ script.stop = .revisited name earlier.blockId

structure Script.IsTail (resumed script : Script) (i : Nat) : Prop where
  trace : resumed.trace = script.trace.drop i
  fragments : resumed.fragments = script.fragments.drop i
  verbs : script.verbs = (script.fragments.take i).flatten ++ resumed.verbs
  stop : resumed.stop = script.stop

/-- The first script is the second one from step `i` to its end and on from the earlier step `j`, up to
the step in front of `i`. -/
structure Script.IsRound (resumed script : Script) (j i : Nat) : Prop where
  trace : resumed.trace = script.trace.drop i ++ (script.trace.take i).drop j
  fragments : resumed.fragments = script.fragments.drop i ++ (script.fragments.take i).drop j
  verbs : resumed.verbs = (script.fragments.drop i ++ (script.fragments.take i).drop j).flatten
  stop : ∃ final step, script.trace[i - 1]? = some final ∧ script.trace[i]? = some step ∧
    resumed.stop = .revisited final.blockId step.blockId

variable {compiler : Compiler} {blocks path : List Block} {start b : Block} {script : Script}

theorem splitLengths_flatten {α : Type} (parts : List (List α)) :
    (parts.map List.length).splitLengths parts.flatten = parts := by
  induction parts with
  | nil => rfl
  | cons part parts ih =>
    rw [List.map_cons, List.flatten_cons, List.splitLengths_cons, List.take_left, List.drop_left, ih]

theorem exists_eq_append_cons {α : Type} {l : List α} {i : Nat} {a : α} (h : l[i]? = some a) :
    ∃ before rest, l = before ++ a :: rest ∧ before.length = i := by
  obtain ⟨hi, rfl⟩ := List.getElem?_eq_some_iff.mp h
  refine ⟨l.take i, l.drop (i + 1), ?_, by simp; omega⟩
  rw [← List.drop_eq_getElem_cons hi, List.take_append_drop]

theorem Compiler.Records.record? {b : Block} {step : TraceStep} (h : compiler.Records b step) :
    compiler.record? b = some step := by
  rw [Compiler.record?_of_some h.kind, ← h.blockId, ← h.verbsEmitted, UInt64.ofNat_toNat]

namespace Script.Follows

theorem map_some_trace (h : script.Follows compiler blocks start path) :
    script.trace.map some = path.map compiler.record? := by
  have htrace := h.trace
  clear h
  generalize script.trace = trace at htrace ⊢
  induction htrace with
  | nil => rfl
  | cons hstep _ ih => rw [List.map_cons, List.map_cons, ih, hstep.record?]

theorem fragments_eq (h : script.Follows compiler blocks start path) :
    script.fragments = path.map compiler.fragment := by
  rw [fragments, h.map_verbsEmitted, h.verbs, List.flatMap_def, splitLengths_flatten]

theorem verbs_eq_flatten (h : script.Follows compiler blocks start path) :
    script.verbs = script.fragments.flatten := by
  rw [h.fragments_eq, h.verbs, List.flatMap_def]

theorem exists_block (h : script.Follows compiler blocks start path)
    (hpath : IsPath compiler.registry blocks start path)
    (hstart : findBlock? blocks start.id = some start) {i : Nat} {step : TraceStep}
    (hstep : script.trace[i]? = some step) :
    ∃ b, path[i]? = some b ∧ b.id = step.blockId ∧ findBlock? blocks step.blockId = some b ∧
      script.fragments[i]? = some (compiler.fragment b) := by
  have hids : (path.map (·.id))[i]? = some step.blockId := by
    rw [← h.map_blockId, List.getElem?_map, hstep, Option.map_some]
  rw [List.getElem?_map] at hids
  obtain ⟨b, hb, hid⟩ := Option.map_eq_some_iff.mp hids
  refine ⟨b, hb, hid, ?_, ?_⟩
  · rw [← hid]
    exact hpath.findBlock?_id hstart b (List.mem_of_getElem? hb)
  · rw [h.fragments_eq, List.getElem?_map, hb, Option.map_some]

theorem exists_step (h : script.Follows compiler blocks start path) {i : Nat}
    (hb : path[i]? = some b) : ∃ step, script.trace[i]? = some step ∧ step.blockId = b.id := by
  have hids : (script.trace.map (·.blockId))[i]? = some b.id := by
    rw [h.map_blockId, List.getElem?_map, hb, Option.map_some]
  rw [List.getElem?_map] at hids
  exact Option.map_eq_some_iff.mp hids

/-- Scripts of paths that are made of the same blocks are made of the same steps and fragments. -/
theorem round_eq {resumed : Script} {b : Block} {j i : Nat}
    (h : script.Follows compiler blocks start path)
    (h' : resumed.Follows compiler blocks b (path.drop i ++ (path.take i).drop j)) :
    resumed.trace = script.trace.drop i ++ (script.trace.take i).drop j ∧
    resumed.fragments = script.fragments.drop i ++ (script.fragments.take i).drop j := by
  constructor
  · refine List.map_injective_iff.mpr (Option.some_injective TraceStep) ?_
    simp only [List.map_append, List.map_drop, List.map_take, h.map_some_trace,
      h'.map_some_trace]
  · simp only [h.fragments_eq, h'.fragments_eq, List.map_append, List.map_drop, List.map_take]

theorem isTail {resumed : Script} {b : Block} {i : Nat}
    (h : script.Follows compiler blocks start path)
    (h' : resumed.Follows compiler blocks b (path.drop i)) (hstop : resumed.stop = script.stop) :
    resumed.IsTail script i := by
  have hround : resumed.Follows compiler blocks b (path.drop i ++ (path.take i).drop i) := by
    simpa using h'
  obtain ⟨htrace, hfragments⟩ := h.round_eq hround
  have hnone : (script.fragments.take i).drop i = [] := by simp
  rw [hnone, List.append_nil] at hfragments
  refine ⟨by simpa using htrace, hfragments, ?_, hstop⟩
  rw [h'.verbs_eq_flatten, hfragments, ← List.flatten_append, List.take_append_drop,
    h.verbs_eq_flatten]

theorem exists_isTail (h : script.Follows compiler blocks start path)
    (hpath : IsMaximalPath compiler.registry blocks start path)
    (hstart : findBlock? blocks start.id = some start) {i : Nat} (hb : path[i]? = some b)
    (hnoback : ∀ j < i, ¬ script.LeadsBackTo j) :
    ∃ resumed, compiler.scriptFrom blocks (some b) = .ok resumed ∧ resumed.IsTail script i := by
  obtain ⟨before, rest, rfl, rfl⟩ := exists_eq_append_cons hb
  have hnotIn : ∀ name target, script.stop = .revisited name target →
      target ∉ before.map (·.id) := by
    rintro name target hstop hmem
    obtain ⟨c, hc, rfl⟩ := List.mem_map.mp hmem
    obtain ⟨j, hj⟩ := List.mem_iff_getElem?.mp hc
    have hlt : j < before.length := (List.getElem?_eq_some_iff.mp hj).1
    have hpathj : (before ++ b :: rest)[j]? = some c := by
      rw [List.getElem?_append_left hlt]
      exact hj
    obtain ⟨earlier, hearlier, hid⟩ := h.exists_step hpathj
    exact hnoback j hlt ⟨name, earlier, hearlier, hid ▸ hstop⟩
  obtain ⟨resumed, hresumed, hfollows, hstop⟩ := h.scriptFrom_suffix hpath hstart hnotIn
  have htail : resumed.Follows compiler blocks b ((before ++ b :: rest).drop before.length) := by
    rw [List.drop_left]
    exact hfollows
  exact ⟨resumed, hresumed, h.isTail htail hstop⟩

theorem exists_isRound (h : script.Follows compiler blocks start path)
    (hpath : IsMaximalPath compiler.registry blocks start path)
    (hstart : findBlock? blocks start.id = some start) {j i : Nat} (hb : path[i]? = some b)
    (hji : j < i) (hback : script.LeadsBackTo j) :
    ∃ resumed, compiler.scriptFrom blocks (some b) = .ok resumed ∧ resumed.IsRound script j i := by
  obtain ⟨name, earlier, hearlier, hstop⟩ := hback
  obtain ⟨c, hc, hid, -⟩ := h.exists_block hpath.toIsPath hstart hearlier
  obtain ⟨before, rest, rfl, rfl⟩ := exists_eq_append_cons hb
  rw [List.getElem?_append_left hji] at hc
  obtain ⟨first, middle, rfl, rfl⟩ := exists_eq_append_cons hc
  have hsplit : first ++ c :: middle ++ b :: rest = first ++ (c :: middle ++ b :: rest) :=
    List.append_assoc _ _ _
  obtain ⟨resumed, final, hresumed, hfollows, hfinal, hround⟩ :=
    (hsplit ▸ h).scriptFrom_cycle (hsplit ▸ hpath) hstart (hid ▸ hstop)
  have hblocks : resumed.Follows compiler blocks b
      ((first ++ c :: middle ++ b :: rest).drop (first ++ c :: middle).length ++
        ((first ++ c :: middle ++ b :: rest).take (first ++ c :: middle).length).drop
          first.length) := by
    rw [List.drop_left, List.take_left, List.drop_left]
    exact hfollows
  obtain ⟨htrace, hfragments⟩ := h.round_eq hblocks
  refine ⟨resumed, hresumed, htrace, hfragments, hfragments ▸ hfollows.verbs_eq_flatten, ?_⟩
  have hlast : (first ++ c :: middle ++ b :: rest)[(first ++ c :: middle).length - 1]? =
      some final := by
    rw [List.getElem?_append_left (by omega), ← List.getLast?_eq_getElem?,
      List.getLast?_append_cons, hfinal]
  obtain ⟨finalStep, hfinalStep, hfinalId⟩ := h.exists_step hlast
  obtain ⟨step, hstep, hstepId⟩ := h.exists_step hb
  exact ⟨finalStep, step, hfinalStep, hstep, by rw [hround, hfinalId, hstepId]⟩

theorem exists_resumed (h : script.Follows compiler blocks start path)
    (hpath : IsMaximalPath compiler.registry blocks start path)
    (hstart : findBlock? blocks start.id = some start) {i : Nat} (hb : path[i]? = some b) :
    ∃ resumed, compiler.scriptFrom blocks (some b) = .ok resumed ∧
      ((∀ j < i, ¬ script.LeadsBackTo j) → resumed.IsTail script i) ∧
      ∀ j < i, script.LeadsBackTo j → resumed.IsRound script j i := by
  -- Walking has one result, so both lemmas speak of the same script.
  by_cases hback : ∃ j < i, script.LeadsBackTo j
  · obtain ⟨j, hji, hj⟩ := hback
    obtain ⟨resumed, hresumed, -⟩ := h.exists_isRound hpath hstart hb hji hj
    refine ⟨resumed, hresumed, fun hnoback => absurd hj (hnoback j hji), fun k hki hk => ?_⟩
    obtain ⟨other, hother, hround⟩ := h.exists_isRound hpath hstart hb hki hk
    obtain rfl := Except.ok.inj (hresumed.symm.trans hother)
    exact hround
  · have hnoback : ∀ j < i, ¬ script.LeadsBackTo j := fun j hji hj => hback ⟨j, hji, hj⟩
    obtain ⟨resumed, hresumed, htail⟩ := h.exists_isTail hpath hstart hb hnoback
    exact ⟨resumed, hresumed, fun _ => htail, fun j hji hj => absurd hj (hnoback j hji)⟩

end Script.Follows

namespace Compiler

/-- Whatever block of a compiled graph is resumed with whatever digits: if that leads to the block of
step `i`, the compiled script is reproduced from there. The result is its tail, unless the script stopped
for leading back to a step in front of `i`; then it is the rest of it and the cycle up to step `i`. From
the first step on it is the whole script. -/
theorem resume_reproduces_tail {compiler : Compiler} {blocks : List Block} {script : Script}
    (hscript : compiler.compileGraph blocks = .ok script) {i : Nat} {step : TraceStep}
    (hstep : script.trace[i]? = some step) {id digits : String}
    (hleads : compiler.LeadsTo blocks id digits (some step.blockId)) :
    ∃ resumed, compiler.resume (.graph blocks) id digits = .ok resumed ∧
      resumed.entry = some step.blockId ∧
      ((∀ j < i, ¬ script.LeadsBackTo j) → resumed.IsTail script i) ∧
      (∀ j < i, script.LeadsBackTo j → resumed.IsRound script j i) ∧
      (i = 0 → resumed = script) ∧
      ∀ (k : Nat) (other : TraceStep), script.trace[k]? = some other → ∃ b,
        findBlock? blocks other.blockId = some b ∧
        script.fragments[k]? = some (compiler.fragment b) := by
  rcases eq_empty_or_exists_path hscript with
    rfl | ⟨start, path, hstart, hwhole, hpath, hfollows⟩
  · cases hstep
  obtain ⟨b, hb, hid, hfound, -⟩ := hfollows.exists_block hpath.toIsPath hstart hstep
  obtain ⟨resumed, hresumed, htail, hround⟩ := hfollows.exists_resumed hpath hstart hb
  obtain ⟨rest, -, hrest⟩ :=
    exists_path_of_scriptFrom (findBlock?_id_of_findBlock? hfound) hresumed
  refine ⟨resumed, ?_, hid ▸ hrest.entry, htail, hround, ?_, ?_⟩
  · rw [resume_of_leadsTo hleads hfound, hresumed]
  · rintro rfl
    rw [← List.head?_eq_getElem?, hpath.starts] at hb
    obtain rfl := Option.some.inj hb
    exact Except.ok.inj (hresumed.symm.trans hwhole)
  · intro k other hother
    obtain ⟨c, -, -, hc, hfragment⟩ := hfollows.exists_block hpath.toIsPath hstart hother
    exact ⟨c, hc, hfragment⟩

/-- A cycle of two blocks behind an entry, and a menu that leads into the middle of it. -/
def ringBlocks : List Block := [
  ⟨"entry", "pause", [], ["left"], none⟩,
  ⟨"left", "pause", [], ["right"], none⟩,
  ⟨"right", "play", [("url", .string "a.mp3")], ["left"], none⟩,
  ⟨"menu", "gather", [("routes", .object [("1", .string "right")])], [], none⟩]

def ringScript : Script where
  format := .graph
  entry := some "entry"
  verbs := [.pause 2, .pause 2, .play ⟨"a.mp3", none⟩]
  trace := [⟨"entry", .pause, 1⟩, ⟨"left", .pause, 1⟩, ⟨"right", .play, 1⟩]
  stop := .revisited "right" "left"

theorem resume_reproduces_tail_ring :
    (ofOptions {}).compileGraph ringBlocks = .ok ringScript ∧
    ringScript.trace[2]? = some ⟨"right", .play, 1⟩ ∧
    (ofOptions {}).LeadsTo ringBlocks "menu" "1" (some "right") ∧ ringScript.LeadsBackTo 1 ∧
    ∃ resumed, (ofOptions {}).resume (.graph ringBlocks) "menu" "1" = .ok resumed ∧
      resumed.IsRound ringScript 1 2 := by
  have hcompile : (ofOptions {}).compileGraph ringBlocks = .ok ringScript := by decide +kernel
  have hleads : (ofOptions {}).LeadsTo ringBlocks "menu" "1" (some "right") :=
    ⟨_, _, rfl, rfl, by decide +kernel⟩
  have hback : ringScript.LeadsBackTo 1 := ⟨"right", ⟨"left", .pause, 1⟩, rfl, rfl⟩
  obtain ⟨resumed, hresumed, -, -, hround, -⟩ :=
    resume_reproduces_tail hcompile (i := 2) rfl hleads
  exact ⟨hcompile, rfl, hleads, hback, resumed, hresumed, hround 1 (by decide) hback⟩

end Compiler
end CallFlow
