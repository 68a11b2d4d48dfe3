import CallFlow.Compiler.Walk
import CallFlow.Proofs.Graph.Lookup
import Mathlib.Data.List.Chain
import Mathlib.Data.List.Nodup

/-!
# Paths along first connections

`IsPath` says which lists of blocks a walk may pass, without a walk: each block is the first one that
the first connection of the block before it names, no id occurs twice, and only the last block may be
of a kind that ends the call, waits for digits, or is unknown. A walk goes on as long as it can, which
is `IsMaximalPath`; from every block there is exactly one such path.
-/

namespace CallFlow
set_option autoImplicit false

def Block.next? (blocks : List Block) (b : Block) : Option Block :=
  b.connections.head?.bind (findBlock? blocks)

/-- A block that a flow goes on behind: its kind is known, and neither ends the call nor waits for
digits. -/
def Registry.Passes (registry : Registry) (b : Block) : Prop :=
  ∃ kind, registry.resolve? b.kindName = some kind ∧ kind ≠ .gather ∧ kind ≠ .hangup

structure IsPath (registry : Registry) (blocks : List Block) (start : Block)
    (path : List Block) : Prop where
  starts : path.head? = some start
  linked : path.IsChain fun b c => b.next? blocks = some c
  distinct : (path.map (·.id)).Nodup
  passing : ∀ b ∈ path.dropLast, registry.Passes b

structure IsMaximalPath (registry : Registry) (blocks : List Block) (start : Block)
    (path : List Block) : Prop extends IsPath registry blocks start path where
  unextendable : ∀ c, ¬ IsPath registry blocks start (path ++ [c])

variable {registry : Registry} {blocks : List Block} {start b c : Block} {path rest : List Block}

theorem id_eq_of_next? (h : b.next? blocks = some c) : b.connections.head? = some c.id := by
  obtain ⟨target, htarget, hc⟩ := Option.bind_eq_some_iff.mp h
  rw [htarget, id_of_findBlock? hc]

theorem findBlock?_id_of_next? (h : b.next? blocks = some c) : findBlock? blocks c.id = some c := by
  obtain ⟨target, -, hc⟩ := Option.bind_eq_some_iff.mp h
  exact findBlock?_id_of_findBlock? hc

namespace IsPath

theorem single : IsPath registry blocks start [start] :=
  ⟨rfl, .singleton start, List.nodup_singleton start.id, by simp⟩

theorem ne_nil (h : IsPath registry blocks start path) : path ≠ [] := by
  rintro rfl
  exact absurd h.starts (by simp)

theorem exists_cons (h : IsPath registry blocks start path) : ∃ rest, path = start :: rest :=
  List.head?_eq_some_iff.mp h.starts

theorem exists_getLast? (h : IsPath registry blocks start path) : ∃ b, path.getLast? = some b :=
  ⟨path.getLast h.ne_nil, List.getLast?_eq_some_getLast h.ne_nil⟩

/-- One step of a walk: the block behind the last one is new, so the path is longer by it. -/
theorem append_next (h : IsPath registry blocks start path) (hlast : path.getLast? = some b)
    (hb : registry.Passes b) (hc : b.next? blocks = some c) (hid : c.id ∉ path.map (·.id)) :
    IsPath registry blocks start (path ++ [c]) where
  starts := by
    rw [List.head?_append_of_ne_nil path h.ne_nil]
    exact h.starts
  linked := by
    refine List.isChain_append.mpr ⟨h.linked, .singleton c, ?_⟩
    intro x hx y hy
    obtain rfl : b = x := Option.some.inj (hlast.symm.trans hx)
    obtain rfl : c = y := Option.some.inj hy
    exact hc
  distinct := by
    rw [List.map_append]
    refine List.Nodup.append h.distinct (List.nodup_singleton c.id) ?_
    intro name hname hmem
    obtain rfl : name = c.id := List.mem_singleton.mp hmem
    exact hid hname
  passing := by
    intro x hx
    rw [List.dropLast_concat, ← List.dropLast_append_getLast? b hlast] at hx
    rcases List.mem_append.mp hx with hx | hx
    · exact h.passing x hx
    · obtain rfl : x = b := List.mem_singleton.mp hx
      exact hb

theorem next_of_append (h : IsPath registry blocks start (path ++ [c]))
    (hlast : path.getLast? = some b) :
    registry.Passes b ∧ b.next? blocks = some c ∧ c.id ∉ path.map (·.id) := by
  refine ⟨?_, ?_, ?_⟩
  · apply h.passing
    rw [List.dropLast_concat]
    exact List.mem_of_getLast? hlast
  · exact (List.isChain_append.mp h.linked).2.2 b hlast c rfl
  · have hdisjoint := h.distinct
    rw [List.map_append] at hdisjoint
    intro hmem
    exact List.disjoint_of_nodup_append hdisjoint hmem (by simp)

theorem of_append (h : IsPath registry blocks start (path ++ rest)) (hne : path ≠ []) :
    IsPath registry blocks start path where
  starts := by
    rw [← List.head?_append_of_ne_nil path hne]
    exact h.starts
  linked := (List.isChain_append.mp h.linked).1
  distinct := by
    have hdistinct := h.distinct
    rw [List.map_append] at hdistinct
    exact hdistinct.of_append_left
  passing := by
    intro x hx
    apply h.passing
    cases rest with
    | nil => simpa using hx
    | cons c rest =>
      rw [List.dropLast_append_of_ne_nil (List.cons_ne_nil c rest)]
      exact List.mem_append_left _ (List.dropLast_subset path hx)

theorem getLast?_of_not_passes (h : IsPath registry blocks start path) (hmem : b ∈ path)
    (hb : ¬ registry.Passes b) : path.getLast? = some b := by
  obtain ⟨last, hlast⟩ := h.exists_getLast?
  rw [← List.dropLast_append_getLast? last hlast] at hmem
  rcases List.mem_append.mp hmem with hmem | hmem
  · exact absurd (h.passing b hmem) hb
  · rw [hlast, List.mem_singleton.mp hmem]

/-- A path is maximal if its last block ends the walk, leads nowhere, or leads back. -/
theorem maximal (h : IsPath registry blocks start path) (hlast : path.getLast? = some b)
    (hstuck : registry.Passes b → ∀ c, b.next? blocks = some c → c.id ∈ path.map (·.id)) :
    IsMaximalPath registry blocks start path where
  toIsPath := h
  unextendable := by
    intro c hlonger
    obtain ⟨hb, hc, hid⟩ := hlonger.next_of_append hlast
    exact hid (hstuck hb c hc)

theorem findBlock?_id (h : IsPath registry blocks start path)
    (hstart : findBlock? blocks start.id = some start) :
    ∀ b ∈ path, findBlock? blocks b.id = some b := by
  obtain ⟨rest, rfl⟩ := h.exists_cons
  have hlinked := h.linked
  clear h
  induction rest generalizing start with
  | nil =>
    intro b hb
    obtain rfl : b = start := List.mem_singleton.mp hb
    exact hstart
  | cons c rest ih =>
    obtain ⟨hc, hlinked⟩ := List.isChain_cons_cons.mp hlinked
    intro b hb
    rcases List.mem_cons.mp hb with rfl | hb
    · exact hstart
    · exact ih (findBlock?_id_of_next? hc) hlinked b hb

end IsPath

/-- Along a relation with one successor at most, one of two chains from the same element goes on
where the other ends. -/
theorem prefix_or_prefix_of_isChain {α : Type} {R : α → α → Prop}
    (hR : ∀ {a b c}, R a b → R a c → b = c) {a : α} {p q : List α}
    (hp : (a :: p).IsChain R) (hq : (a :: q).IsChain R) :
    a :: p <+: a :: q ∨ a :: q <+: a :: p := by
  induction p generalizing a q with
  | nil => exact .inl ⟨q, rfl⟩
  | cons b p ih =>
    cases q with
    | nil => exact .inr ⟨b :: p, rfl⟩
    | cons c q =>
      obtain ⟨hb, hp⟩ := List.isChain_cons_cons.mp hp
      obtain ⟨hc, hq⟩ := List.isChain_cons_cons.mp hq
      obtain rfl := hR hb hc
      simpa [List.prefix_cons_inj] using ih hp hq

namespace IsMaximalPath

theorem eq_of_prefix {p q : List Block} (hp : IsMaximalPath registry blocks start p)
    (hq : IsPath registry blocks start q) (h : p <+: q) : p = q := by
  obtain ⟨rest, rfl⟩ := h
  cases rest with
  | nil => simp
  | cons c rest =>
    rw [List.append_cons] at hq
    exact absurd (hq.of_append (by simp)) (hp.unextendable c)

/-- From every block there is one maximal path at most. -/
theorem unique {p q : List Block} (hp : IsMaximalPath registry blocks start p)
    (hq : IsMaximalPath registry blocks start q) : p = q := by
  obtain ⟨p', rfl⟩ := hp.exists_cons
  obtain ⟨q', rfl⟩ := hq.exists_cons
  have hnext : ∀ {a b c : Block}, a.next? blocks = some b → a.next? blocks = some c → b = c :=
    fun hb hc => Option.some.inj (hb.symm.trans hc)
  rcases prefix_or_prefix_of_isChain (R := fun (b c : Block) => b.next? blocks = some c) hnext
    hp.linked hq.linked with h | h
  · exact hp.eq_of_prefix hq.toIsPath h
  · exact (hq.eq_of_prefix hp.toIsPath h).symm

end IsMaximalPath
end CallFlow
