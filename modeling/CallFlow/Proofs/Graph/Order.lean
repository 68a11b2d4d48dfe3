import CallFlow.Proofs.Graph.Lockstep
import Mathlib.Data.List.Perm.Basic

/-!
# The order of blocks

Where every block has an id of its own, looking one up does not depend on the order in which blocks
are listed. So the order can matter only to the choice of the entry, and a graph with a single root
is entered there wherever the root is listed.
-/

namespace CallFlow
set_option autoImplicit false

variable {blocks blocks' : List Block} {id : String} {b c root : Block}

structure IsRoot (blocks : List Block) (b : Block) : Prop where
  mem : b ∈ blocks
  untargeted : ∀ c ∈ blocks, c ≠ b → b.id ∉ c.connections

section Distinct
variable (hdistinct : (blocks.map (·.id)).Nodup)
include hdistinct

theorem findBlock?_eq_some_iff : findBlock? blocks id = some b ↔ b ∈ blocks ∧ b.id = id := by
  constructor
  · intro h
    exact ⟨mem_of_findBlock? h, id_of_findBlock? h⟩
  · rintro ⟨hmem, rfl⟩
    cases hfound : findBlock? blocks b.id with
    | none => exact absurd (beq_self_eq_true b.id) (List.find?_eq_none.mp hfound b hmem)
    | some c =>
      have hid := id_of_findBlock? hfound
      rw [List.inj_on_of_nodup_map hdistinct (mem_of_findBlock? hfound) hmem hid]

theorem findBlock?_perm (hperm : blocks.Perm blocks') (id : String) :
    findBlock? blocks' id = findBlock? blocks id := by
  have hdistinct' : (blocks'.map (·.id)).Nodup := (hperm.map _).nodup_iff.mp hdistinct
  apply Option.ext
  intro b
  rw [findBlock?_eq_some_iff hdistinct', findBlock?_eq_some_iff hdistinct, hperm.mem_iff]

theorem isRoot_iff (hmem : b ∈ blocks) : IsRoot blocks b ↔ isTargeted blocks b.id = false := by
  rw [isTargeted_eq_false_iff]
  constructor
  · intro hroot c hc hid
    exact hroot.untargeted c hc fun heq => hid (congrArg Block.id heq)
  · intro h
    refine ⟨hmem, fun c hc hne => h c hc ?_⟩
    intro hid
    exact hne (List.inj_on_of_nodup_map hdistinct hc hmem hid)

/-- The only root is the entry, wherever it is listed. -/
theorem entryBlock?_of_unique (hroot : IsRoot blocks root)
    (hunique : ∀ b, IsRoot blocks b → b = root) : entryBlock? blocks = some root := by
  have hfree : ∀ b ∈ blocks, isTargeted blocks b.id = false → b = root :=
    fun b hb h => hunique b ((isRoot_iff hdistinct hb).mpr h)
  have huntargeted := (isRoot_iff hdistinct hroot.mem).mp hroot
  cases hfirst : blocks.find? fun b => !isTargeted blocks b.id with
  | none =>
    have hnone := List.find?_eq_none.mp hfirst root hroot.mem
    rw [huntargeted] at hnone
    exact absurd rfl hnone
  | some b =>
    have hb : isTargeted blocks b.id = false := by simpa using List.find?_some hfirst
    rw [entryBlock?, hfirst, hfree b (List.mem_of_find?_eq_some hfirst) hb]
    rfl

end Distinct

theorem IsRoot.perm (hperm : blocks.Perm blocks') (h : IsRoot blocks b) : IsRoot blocks' b where
  mem := hperm.mem_iff.mp h.mem
  untargeted c hc := h.untargeted c (hperm.mem_iff.mpr hc)

namespace Compiler

theorem lockstep_perm (compiler : Compiler) (hdistinct : (blocks.map (·.id)).Nodup)
    (hperm : blocks.Perm blocks') : compiler.Lockstep compiler blocks blocks' (fun b => b) where
  id _ := rfl
  connections _ := rfl
  find name := by rw [findBlock?_perm hdistinct hperm, Option.map_id']
  action _ := rfl
  step _ _ := rfl

/-- For blocks with ids of their own, any order gives the same scripts and failures behind a block,
and also behind the entry that it chooses. A single root is always the choice. -/
theorem blockOrder_irrelevant (compiler : Compiler) (hdistinct : (blocks.map (·.id)).Nodup)
    (hperm : blocks.Perm blocks') :
    (∀ id digits, compiler.resume (.graph blocks') id digits =
      compiler.resume (.graph blocks) id digits) ∧
    compiler.compileGraph blocks' = compiler.scriptFrom blocks (entryBlock? blocks') ∧
    ((∃! b, IsRoot blocks b) → compiler.compileGraph blocks' = compiler.compileGraph blocks) := by
  have hstep := compiler.lockstep_perm hdistinct hperm
  have hentry : compiler.compileGraph blocks' =
      compiler.scriptFrom blocks (entryBlock? blocks') := by
    rw [compileGraph, ← hstep.scriptFrom, Option.map_id']
  refine ⟨hstep.resume, hentry, ?_⟩
  rintro ⟨root, hroot, hunique⟩
  have hdistinct' : (blocks'.map (·.id)).Nodup := (hperm.map _).nodup_iff.mp hdistinct
  have hunique' : ∀ b, IsRoot blocks' b → b = root := fun b hb => hunique b (hb.perm hperm.symm)
  rw [hentry, compileGraph, entryBlock?_of_unique hdistinct hroot hunique,
    entryBlock?_of_unique hdistinct' (hroot.perm hperm) hunique']

def bookingStart : Block :=
  ⟨"start", "say", [("text", .string "Hello")], ["menu", "start"], none⟩

def bookingMenu : Block :=
  ⟨"menu", "gather",
    [("prompt", .string "Press one"), ("routes", .object [("1", .string "fax")])],
    ["bye", "fax"], none⟩

def bookingBye : Block := ⟨"bye", "hangup", [], ["menu"], none⟩

def bookingFax : Block := ⟨"fax", "fax", [], ["menu"], none⟩

/-- Only the first block is a root: it connects to itself, and no other one connects to it. -/
def booking : List Block := [bookingStart, bookingMenu, bookingBye, bookingFax]

theorem blockOrder_irrelevant_booking :
    (booking.map (·.id)).Nodup ∧ booking.Perm booking.reverse ∧ (∃! b, IsRoot booking b) ∧
    entryBlock? booking = some bookingStart ∧ booking.reverse.head? = some bookingFax ∧
    (ofOptions {}).compileGraph booking.reverse = (ofOptions {}).compileGraph booking ∧
    (ofOptions {}).resume (.graph booking.reverse) "menu" "1" =
      .error (.unknownKind "fax" "fax") ∧
    (ofOptions {}).resume (.graph booking.reverse) "menu" "2" = .ok {
      format := .graph
      entry := some "bye"
      verbs := [.hangup]
      trace := [⟨"bye", .hangup, 1⟩]
      stop := .hangup "bye" } := by
  have hdistinct : (booking.map (·.id)).Nodup := by decide
  have hperm : booking.Perm booking.reverse := (List.reverse_perm booking).symm
  have hstart : bookingStart ∈ booking := List.mem_cons_self
  have hroot : ∃! b, IsRoot booking b := by
    refine ⟨bookingStart, (isRoot_iff hdistinct hstart).mpr (by decide), ?_⟩
    intro b hb
    have huntargeted := (isRoot_iff hdistinct hb.mem).mp hb
    have hmem := hb.mem
    simp only [booking, List.mem_cons, List.not_mem_nil, or_false] at hmem
    rcases hmem with rfl | rfl | rfl | rfl
    · rfl
    · exact absurd huntargeted (by decide)
    · exact absurd huntargeted (by decide)
    · exact absurd huntargeted (by decide)
  obtain ⟨hresume, -, hcompile⟩ := blockOrder_irrelevant (ofOptions {}) hdistinct hperm
  refine ⟨hdistinct, hperm, hroot, rfl, rfl, hcompile hroot, (hresume "menu" "1").trans ?_,
    (hresume "menu" "2").trans ?_⟩
  · decide +kernel
  · decide +kernel

end Compiler
end CallFlow
