import CallFlow.Proofs.Graph.Compilation
import Mathlib.Data.Fintype.Card
import Mathlib.Data.Set.Finite.List
import Mathlib.Logic.Relation

/-!
# The entry of a graph

A graph is entered at the first block that no block of another id connects to, and only where there
is no such block at the first block of all. That does not happen in a graph without cycles: going
from block to block against the connections has to end, since there are finitely many ids. Nor does
a walk there turn back, unless to the very block it is at.
-/

namespace CallFlow
set_option autoImplicit false

def Untargeted (blocks : List Block) (b : Block) : Prop :=
  ∀ c ∈ blocks, c.id ≠ b.id → b.id ∉ c.connections

inductive EntersAt (blocks : List Block) (b : Block) : Prop
  | untargeted (before after : List Block) : blocks = before ++ b :: after →
      Untargeted blocks b → (∀ c ∈ before, ¬ Untargeted blocks c) → EntersAt blocks b
  | fallback : blocks.head? = some b → (∀ c ∈ blocks, ¬ Untargeted blocks c) → EntersAt blocks b

/-- A block of the first id connects to the second one, which is the id of another block. -/
structure Leads (blocks : List Block) (x y : String) : Prop where
  connected : ∃ b ∈ blocks, b.id = x ∧ y ∈ b.connections
  other : y ≠ x
  found : ∃ c ∈ blocks, c.id = y

/-- No way leads from a block to itself, apart from its own connections. -/
def Acyclic (blocks : List Block) : Prop := ∀ id, ¬ Relation.TransGen (Leads blocks) id id

variable {compiler : Compiler} {blocks path : List Block} {b start : Block}
variable {script : Script} {id target : String}

theorem not_isTargeted_iff : !isTargeted blocks b.id ↔ Untargeted blocks b := by
  rw [Bool.not_eq_true', isTargeted_eq_false_iff, Untargeted]

theorem entryBlock?_eq_some_iff : entryBlock? blocks = some b ↔ EntersAt blocks b := by
  have hnone : (blocks.find? fun c => !isTargeted blocks c.id) = none ↔
      ∀ c ∈ blocks, ¬ Untargeted blocks c := by
    simp only [List.find?_eq_none, not_isTargeted_iff]
  have hfirst : (blocks.find? fun c => !isTargeted blocks c.id) = some b ↔
      Untargeted blocks b ∧ ∃ before after, blocks = before ++ b :: after ∧
        ∀ c ∈ before, ¬ Untargeted blocks c := by
    simp only [List.find?_eq_some_iff_append, ← not_isTargeted_iff, Bool.not_eq_true]
    simp
  rw [entryBlock?, Option.or_eq_some_iff, hfirst, hnone]
  constructor
  · rintro (⟨huntargeted, before, after, hsplit, hbefore⟩ | ⟨hall, hhead⟩)
    · exact .untargeted before after hsplit huntargeted hbefore
    · exact .fallback hhead hall
  · rintro (⟨before, after, hsplit, huntargeted, hbefore⟩ | ⟨hhead, hall⟩)
    · exact .inl ⟨huntargeted, before, after, hsplit, hbefore⟩
    · exact .inr ⟨hall, hhead⟩

/-! Graphs without cycles. -/

theorem acyclic_of_rank (rank : String → Nat)
    (hrank : ∀ b ∈ blocks, ∀ y ∈ b.connections, y = b.id ∨ y ∉ blocks.map (·.id) ∨
      rank b.id < rank y) : Acyclic blocks := by
  have hleads : ∀ x y, Leads blocks x y → rank x < rank y := by
    rintro x y ⟨⟨b, hb, rfl, hy⟩, hother, c, hc, rfl⟩
    rcases hrank b hb c.id hy with hsame | hmissing | hless
    · exact absurd hsame hother
    · exact absurd (List.mem_map_of_mem hc) hmissing
    · exact hless
  have hway : ∀ x y, Relation.TransGen (Leads blocks) x y → rank x < rank y := by
    intro x y hxy
    induction hxy with
    | single h => exact hleads _ _ h
    | tail _ h ih => exact Nat.lt_trans ih (hleads _ _ h)
  exact fun id hcycle => Nat.lt_irrefl _ (hway id id hcycle)

/-- The way against the connections ends at a block that no other one connects to. -/
theorem exists_untargeted_of_acyclic (hne : blocks ≠ []) (hacyclic : Acyclic blocks) :
    ∃ b ∈ blocks, Untargeted blocks b := by
  let Before (x y : {id // id ∈ blocks.map (·.id)}) : Prop :=
    Relation.TransGen (Leads blocks) x y
  have hfinite : Finite {id // id ∈ blocks.map (·.id)} := List.finite_toSet _
  have htrans : IsTrans _ Before := ⟨fun _ _ _ => Relation.TransGen.trans⟩
  have hirrefl : Std.Irrefl Before := ⟨fun x => hacyclic x⟩
  have hwellFounded : WellFounded Before := Finite.wellFounded_of_trans_of_irrefl Before
  obtain ⟨b, hb⟩ := List.exists_mem_of_ne_nil blocks hne
  obtain ⟨⟨id, hid⟩, -, hfirst⟩ :=
    hwellFounded.has_min Set.univ ⟨⟨b.id, List.mem_map_of_mem hb⟩, trivial⟩
  obtain ⟨first, hmem, rfl⟩ := List.mem_map.mp hid
  refine ⟨first, hmem, fun c hc hother htargeted => ?_⟩
  have hleads : Leads blocks c.id first.id :=
    ⟨⟨c, hc, rfl, htargeted⟩, hother.symm, first, hmem, rfl⟩
  exact hfirst ⟨c.id, List.mem_map_of_mem hc⟩ trivial (.single hleads)

theorem EntersAt.untargeted_of_acyclic (h : EntersAt blocks b) (hne : blocks ≠ [])
    (hacyclic : Acyclic blocks) : Untargeted blocks b := by
  cases h with
  | untargeted _ _ _ huntargeted => exact huntargeted
  | fallback _ hall =>
    obtain ⟨c, hc, huntargeted⟩ := exists_untargeted_of_acyclic hne hacyclic
    exact absurd huntargeted (hall c hc)

/-! Walks that turn back. -/

theorem IsPath.isChain_leads {registry : Registry} (h : IsPath registry blocks start path)
    (hstart : findBlock? blocks start.id = some start) :
    (path.map (·.id)).IsChain (Leads blocks) := by
  have hfound := h.findBlock?_id hstart
  have hdistinct : path.IsChain fun b c => b.id ≠ c.id :=
    (List.isChain_map _).mp h.distinct.isChain
  rw [List.isChain_map, List.isChain_iff_forall_rel_of_append_cons_cons]
  rintro b c before after rfl
  obtain ⟨-, hnext, -⟩ := List.isChain_append_cons_cons.mp h.linked
  obtain ⟨-, hother, -⟩ := List.isChain_append_cons_cons.mp hdistinct
  have hb := mem_of_findBlock? (hfound b (by simp))
  have hc := mem_of_findBlock? (hfound c (by simp))
  exact ⟨⟨b, hb, rfl, List.mem_of_head? (id_eq_of_next? hnext)⟩, hother.symm, c, hc, rfl⟩

theorem transGen_getLast {R : String → String → Prop} {ids : List String} {x y : String}
    (hchain : ids.IsChain R) (hlast : ids.getLast? = some y) (hx : x ∈ ids) (hne : x ≠ y) :
    Relation.TransGen R x y := by
  obtain ⟨before, after, rfl⟩ := List.append_of_mem hx
  rw [List.getLast?_append_cons] at hlast
  have hbehind : y ∈ after :=
    (List.mem_cons.mp (List.mem_of_getLast? hlast)).resolve_left hne.symm
  have hreach : (x :: after).IsChain (Relation.TransGen R) :=
    hchain.right_of_append.imp fun _ _ => .single
  exact hreach.rel_cons hbehind

/-- A walk that turns back to an earlier block has gone round a cycle. -/
theorem StopsFor.eq_of_acyclic {registry : Registry} (hpath : IsPath registry blocks start path)
    (hstart : findBlock? blocks start.id = some start) (hacyclic : Acyclic blocks)
    (hstop : StopsFor registry blocks path (.revisited id target)) : target = id := by
  cases hstop with
  | @revisited last _ hlast hpasses hhead hback =>
  have hfound := hpath.findBlock?_id hstart
  by_contra hother
  have hlastId : (path.map (·.id)).getLast? = some last.id := by
    rw [List.getLast?_map, hlast, Option.map_some]
  have hround := transGen_getLast (hpath.isChain_leads hstart) hlastId hback hother
  obtain ⟨c, hc, rfl⟩ := List.mem_map.mp hback
  have hleads : Leads blocks last.id c.id :=
    ⟨⟨last, mem_of_findBlock? (hfound last (List.mem_of_getLast? hlast)), rfl,
      List.mem_of_head? hhead⟩, hother, c, mem_of_findBlock? (hfound c hc), rfl⟩
  exact hacyclic c.id (hround.tail hleads)

theorem Compiler.revisited_of_acyclic (hacyclic : Acyclic blocks)
    (h : compiler.compileGraph blocks = .ok script) (hstop : script.stop = .revisited id target) :
    target = id := by
  rcases eq_empty_or_exists_path h with rfl | ⟨start, path, hstart, -, hpath, hfollows⟩
  · cases hstop
  · exact ((hfollows.stop _).mp hstop).eq_of_acyclic hpath.toIsPath hstart hacyclic

/-- A graph with blocks is entered at its first block that no block of another id connects to, or
else at its first block, and the id of the entry leads to it. Without cycles there always is such a
block, and whatever kinds are known, a walk turns back to no other block than the one it is at. -/
theorem entryBlock?_untargeted_of_acyclic (hne : blocks ≠ []) :
    ∃ entry, entryBlock? blocks = some entry ∧ EntersAt blocks entry ∧
      (∀ b, EntersAt blocks b → b = entry) ∧ findBlock? blocks entry.id = some entry ∧
      (Acyclic blocks → Untargeted blocks entry ∧
        ∀ (compiler : Compiler) (script : Script) (id target : String),
          compiler.compileGraph blocks = .ok script → script.stop = .revisited id target →
            target = id) := by
  obtain ⟨entry, hentry⟩ := exists_entryBlock? hne
  have hat := entryBlock?_eq_some_iff.mp hentry
  refine ⟨entry, hentry, hat, fun b hb => ?_, findBlock?_entryBlock? hentry, fun hacyclic => ?_⟩
  · exact Option.some.inj ((entryBlock?_eq_some_iff.mpr hb).symm.trans hentry)
  · exact ⟨hat.untargeted_of_acyclic hne hacyclic, fun compiler script id target =>
      Compiler.revisited_of_acyclic hacyclic⟩

def loungeHold : Block := ⟨"hold", "pause", [("duration", .string "5")], ["hold", "gone"], none⟩

def loungeHello : Block := ⟨"hello", "say", [("text", .string "Hello")], ["hold"], none⟩

def loungeAgain : Block := ⟨"hello", "hangup", [], ["hold", "hello"], none⟩

/-- The first block is not the entry. It connects to itself and to an id that is missing, and two
blocks share the id of the entry. -/
def lounge : List Block := [loungeHold, loungeHello, loungeAgain]

theorem entryBlock?_untargeted_of_acyclic_lounge :
    lounge ≠ [] ∧ Acyclic lounge ∧ entryBlock? lounge = some loungeHello ∧
    Untargeted lounge loungeHello ∧ ∃ script,
      (Compiler.ofOptions {}).compileGraph lounge = .ok script ∧
      script.stop = .revisited "hold" "hold" ∧
      ∀ id target, script.stop = .revisited id target → target = id := by
  have hne : lounge ≠ [] := List.cons_ne_nil _ _
  have hacyclic : Acyclic lounge :=
    acyclic_of_rank (fun id => if id = "hello" then 0 else 1) (by decide)
  obtain ⟨entry, hentry, -, -, -, hroot⟩ := entryBlock?_untargeted_of_acyclic hne
  obtain rfl : loungeHello = entry := Option.some.inj hentry
  obtain ⟨huntargeted, hback⟩ := hroot hacyclic
  have hscript : (Compiler.ofOptions {}).compileGraph lounge = .ok {
      format := .graph
      entry := some "hello"
      verbs := [.say ⟨"Hello", "alice", "en-US", none⟩, .pause 5]
      trace := [⟨"hello", .say, 1⟩, ⟨"hold", .pause, 1⟩]
      stop := .revisited "hold" "hold" } := by
    decide +kernel
  exact ⟨hne, hacyclic, rfl, huntargeted, _, hscript, rfl,
    fun id target => hback _ _ id target hscript⟩

end CallFlow
