import CallFlow.Compiler.Sections
import CallFlow.Compiler.Walk

/-! Compiling flows to scripts, and going on with a flow once digits are pressed. -/

namespace CallFlow.Compiler
set_option autoImplicit false

def ofOptions (options : Options) : Compiler := ⟨.builtin, options⟩

/-- Lets blocks be stored with another name for a kind. A name that is not built in changes
nothing. -/
def withTypeMapping (compiler : Compiler) (name builtinName : String) : Compiler :=
  { compiler with registry := (compiler.registry.alias? name builtinName).getD compiler.registry }

def withTypeMappings (compiler : Compiler) (mappings : List (String × String)) : Compiler :=
  mappings.foldl (fun c (name, builtinName) => c.withTypeMapping name builtinName) compiler

def scriptFrom (compiler : Compiler) (blocks : List Block) (start : Option Block) :
    Except CompileError Script :=
  match start with
  | none => .ok ⟨.graph, none, [], [], .emptyFlow⟩
  | some block =>
    (compiler.walk blocks [block.id] block).map fun w =>
      ⟨.graph, some block.id, w.verbs, w.trace, w.stop⟩

def compileGraph (compiler : Compiler) (blocks : List Block) : Except CompileError Script :=
  compiler.scriptFrom blocks (entryBlock? blocks)

def compileLegacy (compiler : Compiler) (flow : LegacyFlow) : Script :=
  ⟨.legacy, none, flow.verbs compiler.options, [], .legacySequence⟩

def compile (compiler : Compiler) : Flow → Except CompileError Script
  | .graph blocks => compiler.compileGraph blocks
  | .legacy flow => .ok (compiler.compileLegacy flow)

def successor? (action : Action) (digits : String) (connections : List String) : Option String :=
  match action with
  | .gather _ _ _ routes _ => Action.nextBlock? routes digits connections
  | _ => connections.head?

/-- Goes on behind a block of a graph. Blocks visited before may be visited again. -/
def resume (compiler : Compiler) (flow : Flow) (blockId digits : String) :
    Except CompileError Script :=
  match flow with
  | .legacy _ => .error .notGraph
  | .graph blocks =>
    match findBlock? blocks blockId with
    | none => .error (.blockNotFound blockId)
    | some block =>
      match compiler.registry.action block with
      | .error e => .error e
      | .ok action =>
        match successor? action digits block.connections with
        | none => compiler.scriptFrom blocks none
        | some target =>
          match findBlock? blocks target with
          | none => .ok ⟨.graph, none, [], [], .danglingConnection blockId target⟩
          | some next => compiler.scriptFrom blocks (some next)

def flowOf (source : FlowSource) : Except (Failure CompileError) Flow :=
  source.flow.mapError fun
    | .refused cause => .refused (.conversion cause)
    | .crashed => .crashed

def compileSource (compiler : Compiler) (source : FlowSource) :
    Except (Failure CompileError) Script := do
  let flow ← flowOf source
  (compiler.compile flow).mapError .refused

def resumeSource (compiler : Compiler) (source : FlowSource) (blockId digits : String) :
    Except (Failure CompileError) Script := do
  let flow ← flowOf source
  (compiler.resume flow blockId digits).mapError .refused

end CallFlow.Compiler
