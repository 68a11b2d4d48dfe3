import CallFlow.Proofs.Graph.Lockstep

/-!
# Names for kinds

Mapping names to kinds comes to the same as storing other names in the flow: `translate` puts a
built-in name in place of every mapped one, and compiling without any mapping then makes the same
scripts and fails alike. What a name is mapped to is looked up among the built-in names and in no
other mapping, so neither the order of different names nor a new meaning of a built-in name matters
to it.
-/

namespace CallFlow
set_option autoImplicit false

def BlockKind.names : List String := all.map name

/-- What the last mapping of a name to a built-in one gives it. -/
def mappedName? (mappings : List (String × String)) (name : String) : Option String :=
  ((mappings.filter fun m => m.1 = name ∧ m.2 ∈ BlockKind.names).getLast?).map (·.2)

/-- The name to store in place of a mapped one. -/
def translate (mappings : List (String × String)) (name : String) : String :=
  (mappedName? mappings name).getD name

def Block.retype (f : String → String) (b : Block) : Block := { b with kindName := f b.kindName }

def Flow.retype (f : String → String) : Flow → Flow
  | .graph blocks => .graph (blocks.map (Block.retype f))
  | .legacy flow => .legacy flow

variable {mappings before after : List (String × String)} {name other : String}

/-! The built-in names. -/

namespace BlockKind

theorem name_mem_names (kind : BlockKind) : kind.name ∈ names := List.mem_map_of_mem (mem_all kind)

theorem isSome_ofName?_iff : (ofName? name).isSome ↔ name ∈ names := by
  simp [ofName?, names]

theorem ofName?_eq_none_iff : ofName? name = none ↔ name ∉ names := by
  rw [← Option.not_isSome_iff_eq_none, isSome_ofName?_iff]

end BlockKind

theorem Registry.resolve?_builtin (name : String) :
    builtin.resolve? name = BlockKind.ofName? name := by
  unfold resolve? builtin BlockKind.ofName?
  induction BlockKind.all with
  | nil => rfl
  | cons kind kinds ih => rw [List.map_cons, List.lookup_cons, List.find?_cons, ih, BEq.comm]

/-! What a name is mapped to. -/

theorem mappedName?_append (before after : List (String × String)) (name : String) :
    mappedName? (before ++ after) name = (mappedName? after name).or (mappedName? before name) := by
  rw [mappedName?, List.filter_append, List.getLast?_append, Option.map_or]
  rfl

theorem mappedName?_cons (m : String × String) (after : List (String × String)) (name : String) :
    mappedName? (m :: after) name =
      (mappedName? after name).or
        (if m.1 = name ∧ m.2 ∈ BlockKind.names then some m.2 else none) := by
  have happend := mappedName?_append [m] after name
  rw [List.singleton_append] at happend
  rw [happend]
  by_cases h : m.1 = name ∧ m.2 ∈ BlockKind.names <;> simp [mappedName?, h]

theorem mappedName?_eq_none (h : ∀ m ∈ mappings, m.1 = name → m.2 ∉ BlockKind.names) :
    mappedName? mappings name = none := by
  have hnone : mappings.filter (fun m => m.1 = name ∧ m.2 ∈ BlockKind.names) = [] := by
    apply List.filter_eq_nil_iff.mpr
    intro m hm
    simpa using h m hm
  rw [mappedName?, hnone]
  rfl

theorem mem_names_of_mappedName? (h : mappedName? mappings name = some other) :
    other ∈ BlockKind.names := by
  obtain ⟨m, hm, rfl⟩ := Option.map_eq_some_iff.mp h
  have hlast := (List.mem_filter.mp (List.mem_of_getLast? hm)).2
  exact (of_decide_eq_true hlast).2

theorem mappedName?_swap {m m' : String × String} (h : m.1 ≠ m'.1) (name : String) :
    mappedName? (before ++ m :: m' :: after) name =
      mappedName? (before ++ m' :: m :: after) name := by
  simp only [mappedName?_append, mappedName?_cons]
  by_cases hm : m.1 = name
  · have hm' : m'.1 ≠ name := fun heq => h (hm.trans heq.symm)
    simp only [hm', false_and, if_false, Option.or_none]
  · simp only [hm, false_and, if_false, Option.or_none]

theorem translate_of_notMem (h : translate mappings name ∉ BlockKind.names) :
    translate mappings name = name := by
  unfold translate at h ⊢
  cases hmapped : mappedName? mappings name with
  | none => rfl
  | some other =>
    rw [hmapped] at h
    exact absurd (mem_names_of_mappedName? hmapped) h

theorem translate_mem_names (h : name ∈ BlockKind.names) :
    translate mappings name ∈ BlockKind.names := by
  by_contra hnot
  rw [translate_of_notMem hnot] at hnot
  exact hnot h

theorem translate_of_last (kind : BlockKind)
    (hafter : ∀ m ∈ after, m.1 = name → m.2 ∉ BlockKind.names) :
    translate (before ++ (name, kind.name) :: after) name = kind.name := by
  rw [translate, mappedName?_append, mappedName?_cons, mappedName?_eq_none hafter,
    if_pos ⟨rfl, kind.name_mem_names⟩]
  rfl

namespace Compiler

/-! Names in a compiler with mappings. -/

theorem withTypeMappings_append (compiler : Compiler) (before after : List (String × String)) :
    compiler.withTypeMappings (before ++ after) =
      (compiler.withTypeMappings before).withTypeMappings after :=
  List.foldl_append

theorem options_withTypeMappings (compiler : Compiler) (mappings : List (String × String)) :
    (compiler.withTypeMappings mappings).options = compiler.options := by
  induction mappings generalizing compiler with
  | nil => rfl
  | cons m mappings ih => exact ih (compiler.withTypeMapping m.1 m.2)

theorem withTypeMapping_of_notMem (compiler : Compiler) (h : other ∉ BlockKind.names) :
    compiler.withTypeMapping name other = compiler := by
  rw [withTypeMapping, Registry.alias?, BlockKind.ofName?_eq_none_iff.mpr h]
  rfl

theorem resolve?_withTypeMapping (compiler : Compiler) (m : String × String) (name : String) :
    (compiler.withTypeMapping m.1 m.2).registry.resolve? name =
      if m.1 = name ∧ m.2 ∈ BlockKind.names then BlockKind.ofName? m.2
      else compiler.registry.resolve? name := by
  cases hkind : BlockKind.ofName? m.2 with
  | none =>
    have hnot := BlockKind.ofName?_eq_none_iff.mp hkind
    rw [compiler.withTypeMapping_of_notMem hnot, if_neg fun h => hnot h.2]
  | some kind =>
    have hbuiltin : m.2 ∈ BlockKind.names := by
      rw [← BlockKind.isSome_ofName?_iff, hkind]
      rfl
    simp only [withTypeMapping, Registry.alias?, hkind, Option.map_some, Option.getD_some,
      Registry.resolve?, List.lookup_cons, hbuiltin, and_true]
    by_cases hname : m.1 = name
    · simp [hname]
    · have hbeq : (name == m.1) = false := by simpa using Ne.symm hname
      simp only [hbeq, if_neg hname]

/-- A name stands for the kind whose own name it is translated to. -/
theorem resolve?_withTypeMappings (options : Options) (mappings : List (String × String))
    (name : String) :
    ((ofOptions options).withTypeMappings mappings).registry.resolve? name =
      BlockKind.ofName? (translate mappings name) := by
  induction mappings using List.reverseRecOn with
  | nil => exact Registry.resolve?_builtin name
  | append_singleton mappings m ih =>
    rw [withTypeMappings_append]
    have hlast : ((ofOptions options).withTypeMappings mappings).withTypeMappings [m] =
        ((ofOptions options).withTypeMappings mappings).withTypeMapping m.1 m.2 := rfl
    rw [hlast, resolve?_withTypeMapping, ih, translate, translate, mappedName?_append,
      mappedName?_cons]
    split <;> rfl

/-- Translating the names of blocks leaves a compiler without mappings in step with the one that has
them. -/
theorem lockstep_retype (options : Options) (mappings : List (String × String))
    (blocks : List Block) :
    ((ofOptions options).withTypeMappings mappings).Lockstep (ofOptions options) blocks
      (blocks.map (Block.retype (translate mappings))) (Block.retype (translate mappings)) where
  id _ := rfl
  connections _ := rfl
  find := findBlock?_map (f := Block.retype (translate mappings)) (fun _ => rfl) blocks
  action b := by
    have hresolve := resolve?_withTypeMappings options mappings b.kindName
    have hbuiltin : (ofOptions options).registry.resolve? (translate mappings b.kindName) =
        BlockKind.ofName? (translate mappings b.kindName) := Registry.resolve?_builtin _
    simp only [Registry.action, Block.retype, hbuiltin, hresolve]
    cases hkind : BlockKind.ofName? (translate mappings b.kindName) with
    | some kind => rfl
    | none =>
      -- The failure names the kind as the flow does.
      have hname := translate_of_notMem (BlockKind.ofName?_eq_none_iff.mp hkind)
      simp only [hname]
  step id action := by rw [options_withTypeMappings]

theorem compile_retype (options : Options) (mappings : List (String × String)) (flow : Flow) :
    ((ofOptions options).withTypeMappings mappings).compile flow =
      (ofOptions options).compile (flow.retype (translate mappings)) := by
  cases flow with
  | graph blocks =>
    have hentry := entryBlock?_map (f := Block.retype (translate mappings)) (fun _ => rfl)
      (fun _ => rfl) blocks
    exact ((lockstep_retype options mappings blocks).compileGraph hentry).symm
  | legacy flow =>
    rw [compile, compileLegacy, options_withTypeMappings]
    rfl

theorem resume_retype (options : Options) (mappings : List (String × String)) (flow : Flow)
    (id digits : String) :
    ((ofOptions options).withTypeMappings mappings).resume flow id digits =
      (ofOptions options).resume (flow.retype (translate mappings)) id digits := by
  cases flow with
  | graph blocks => exact ((lockstep_retype options mappings blocks).resume id digits).symm
  | legacy flow => rfl

/-- Mapping names gives what translating the flow gives, and nothing else comes of it. A mapping to
a name that is not built in is void; a name keeps the kind that it was given last, whatever else is
mapped before and after, built-in names included; different names may be mapped in any order; and
every built-in name goes on to stand for some kind. -/
theorem typeMappings_translate (options : Options) :
    let mapped := fun mappings => (ofOptions options).withTypeMappings mappings
    (∀ mappings flow,
      (mapped mappings).compile flow =
        (ofOptions options).compile (flow.retype (translate mappings)) ∧
      ∀ id digits, (mapped mappings).resume flow id digits =
        (ofOptions options).resume (flow.retype (translate mappings)) id digits) ∧
    (∀ before name other after, other ∉ BlockKind.names →
      mapped (before ++ (name, other) :: after) = mapped (before ++ after)) ∧
    (∀ before name kind after, (∀ m ∈ after, m.1 = name → m.2 ∉ BlockKind.names) →
      (mapped (before ++ (name, BlockKind.name kind) :: after)).registry.resolve? name =
        some kind) ∧
    (∀ before m m' after, m.1 ≠ m'.1 →
      (mapped (before ++ m :: m' :: after)).compile =
        (mapped (before ++ m' :: m :: after)).compile ∧
      (mapped (before ++ m :: m' :: after)).resume =
        (mapped (before ++ m' :: m :: after)).resume) ∧
    ∀ mappings kind, ∃ kind',
      (mapped mappings).registry.resolve? (BlockKind.name kind) = some kind' := by
  intro mapped
  refine ⟨?_, ?_, ?_, ?_, ?_⟩
  · intro mappings flow
    exact ⟨compile_retype options mappings flow, resume_retype options mappings flow⟩
  · intro before name other after hother
    change (ofOptions options).withTypeMappings _ = (ofOptions options).withTypeMappings _
    rw [withTypeMappings_append, withTypeMappings_append]
    exact congrArg (withTypeMappings · after) (withTypeMapping_of_notMem _ hother)
  · intro before name kind after hafter
    rw [resolve?_withTypeMappings, translate_of_last kind hafter]
    exact BlockKind.ofName?_name kind
  · intro before m m' after hne
    have htranslate : translate (before ++ m :: m' :: after) =
        translate (before ++ m' :: m :: after) := by
      funext name
      rw [translate, translate, mappedName?_swap hne]
    constructor
    · funext flow
      rw [compile_retype, compile_retype, htranslate]
    · funext flow id digits
      rw [resume_retype, resume_retype, htranslate]
  · intro mappings kind
    apply Option.isSome_iff_exists.mp
    rw [resolve?_withTypeMappings, BlockKind.isSome_ofName?_iff]
    exact translate_mem_names kind.name_mem_names

/-- The second mapping gives a built-in name to another kind, and the last two name no kind. -/
def editorMappings : List (String × String) :=
  [("greet", "say"), ("say", "gather"), ("greet", "talk"), ("ask", "greet")]

def editorFlow : Flow := .graph [
  ⟨"hello", "greet", [("text", .string "Hello")], ["question"], none⟩,
  ⟨"question", "say",
    [("prompt", .string "Press one"), ("routes", .object [("1", .string "again")])], [], none⟩,
  ⟨"again", "ask", [("prompt", .string "Again?")], [], none⟩]

theorem typeMappings_translate_editor :
    let editor := (ofOptions {}).withTypeMappings editorMappings
    editor.compile editorFlow = .ok {
      format := .graph
      entry := some "hello"
      verbs := [
        .say ⟨"Hello", "alice", "en-US", none⟩,
        .gather ⟨1, 10, .gather "question", some ⟨"Press one", "alice", "en-US", none⟩⟩,
        .say ⟨"We didn't receive any input. Goodbye!", "alice", "en-US", none⟩,
        .hangup]
      trace := [⟨"hello", .say, 1⟩, ⟨"question", .gather, 3⟩]
      stop := .awaitingInput "question" } ∧
    editor.resume editorFlow "question" "1" = .error (.unknownKind "again" "ask") ∧
    ("talk" ∉ BlockKind.names ∧
      editor = (ofOptions {}).withTypeMappings
        [("greet", "say"), ("say", "gather"), ("ask", "greet")]) ∧
    ((∀ m ∈ editorMappings.tail, m.1 = "greet" → m.2 ∉ BlockKind.names) ∧
      editor.registry.resolve? "greet" = some .say) ∧
    ("greet" ≠ "say" ∧ editor.compile = ((ofOptions {}).withTypeMappings
      [("say", "gather"), ("greet", "say"), ("greet", "talk"), ("ask", "greet")]).compile) ∧
    ∃ kind, editor.registry.resolve? "say" = some kind := by
  intro editor
  obtain ⟨hflow, hvoid, hlast, hswap, hbuiltin⟩ := typeMappings_translate {}
  obtain ⟨hcompile, hresume⟩ := hflow editorMappings editorFlow
  have htalk : "talk" ∉ BlockKind.names := by decide
  have hgreet : ∀ m ∈ editorMappings.tail, m.1 = "greet" → m.2 ∉ BlockKind.names := by decide
  have hne : "greet" ≠ "say" := by decide
  refine ⟨hcompile.trans ?_, (hresume "question" "1").trans ?_, ⟨htalk, ?_⟩, ⟨hgreet, ?_⟩,
    ⟨hne, ?_⟩, hbuiltin editorMappings .say⟩
  · decide +kernel
  · decide +kernel
  · exact hvoid [("greet", "say"), ("say", "gather")] "greet" "talk" [("ask", "greet")] htalk
  · exact hlast [] "greet" .say editorMappings.tail hgreet
  · exact (hswap [] ("greet", "say") ("say", "gather") [("greet", "talk"), ("ask", "greet")] hne).1

end Compiler
end CallFlow
