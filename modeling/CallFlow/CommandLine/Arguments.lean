import CallFlow.Text.Blank

/-! The arguments of the command line. Options that hold for every command may stand before or
behind its name; those behind it count if both do. -/

namespace CallFlow.CommandLine
set_option autoImplicit false

structure CallArguments where
  caller : String := "+15550000001"
  called : String := "+15550000002"
  callSid : String := "CA00000000000000000000000000000000"
  callbackBase : String := "http://localhost:3000/api/voice"
deriving DecidableEq

inductive Command
  | compile (flowPath : String) (call : CallArguments) (save : Option String) (trace : Bool)
  | resume (flowPath block digits : String) (call : CallArguments)
  | render (scriptPath : String) (call : CallArguments)
deriving DecidableEq

structure Invocation where
  command : Command
  options : Option String
  pretty : Bool
  typeMappings : List (String × String)
deriving DecidableEq

/-- Arguments by what they are: options with a value, options without, and the others. -/
structure Arguments where
  values : List (String × String)
  flags : List String
  others : List String
deriving DecidableEq

structure Grammar where
  valued : List String
  flags : List String

def sharedValued : List String := ["options", "type-mapping"]
def sharedFlags : List String := ["pretty"]
def callOptions : List String := ["caller", "called", "call-sid", "callback-base"]

def grammar? : String → Option Grammar
  | "compile" => some ⟨callOptions ++ ["save"], ["trace"]⟩
  | "resume" => some ⟨callOptions ++ ["block", "digits"], []⟩
  | "render" => some ⟨callOptions, []⟩
  | _ => none

inductive Shape
  | long (name : String) (value : Option String)
  | other (text : String)
  | separator
  | short

def shapeOf (argument : String) : Shape :=
  match argument.toList with
  | ['-', '-'] => .separator
  | '-' :: '-' :: rest =>
    let name := String.ofList (rest.takeWhile (· != '='))
    match rest.dropWhile (· != '=') with
    | _ :: value => .long name (some (String.ofList value))
    | [] => .long name none
  | '-' :: _ :: _ => .short
  | _ => .other argument

/-- A value may be a lone dash, but nothing else that starts with one. -/
def isValue (argument : String) : Bool :=
  match shapeOf argument with
  | .other _ => true
  | _ => false

def Arguments.addValue (a : Arguments) (name value : String) : Arguments :=
  { a with values := a.values ++ [(name, value)] }

/-- Takes the options at the start of the arguments, up to the first other one where those end the
list. None where an option is unknown, lacks its value or has one that it does not take. -/
def takeOptions? (grammar : Grammar) (stopAtOther : Bool) (taken : Arguments) :
    List String → Option (Arguments × List String)
  | [] => some (taken, [])
  | argument :: rest =>
    match shapeOf argument with
    | .short => none
    | .separator =>
      if stopAtOther then none else some ({ taken with others := taken.others ++ rest }, [])
    | .other text =>
      if stopAtOther then some (taken, argument :: rest)
      else
        takeOptions? grammar stopAtOther { taken with others := taken.others ++ [text] } rest
    | .long name value =>
      if (sharedValued ++ grammar.valued).contains name then
        match value with
        | some v => takeOptions? grammar stopAtOther (taken.addValue name v) rest
        | none =>
          match rest.head? with
          | some v =>
            if isValue v then takeOptions? grammar stopAtOther (taken.addValue name v) rest.tail
            else none
          | none => none
      else if (sharedFlags ++ grammar.flags).contains name && value.isNone then
        takeOptions? grammar stopAtOther { taken with flags := taken.flags ++ [name] } rest
      else none
termination_by arguments => arguments.length
decreasing_by all_goals simp only [List.length_cons, List.length_tail]; omega

/-- Only type mappings may be given more than once at one place. -/
def Arguments.repeatsNothing (a : Arguments) : Bool :=
  let once := (a.values.map (·.1)).filter (· != "type-mapping") ++ a.flags
  once.eraseDups.length == once.length

def Arguments.value? (a : Arguments) (name : String) : Option String := a.values.lookup name

def mapping? (text : String) : Option (String × String) :=
  match text.toList.dropWhile (· != '=') with
  | _ :: builtin =>
    some (Text.trim (String.ofList (text.toList.takeWhile (· != '='))),
      Text.trim (String.ofList builtin))
  | [] => none

def Arguments.mappings? (a : Arguments) : Option (List (String × String)) :=
  ((a.values.filter (·.1 == "type-mapping")).map (·.2)).mapM mapping?

def Arguments.call (a : Arguments) : CallArguments :=
  let start : CallArguments := {}
  { caller := (a.value? "caller").getD start.caller
    called := (a.value? "called").getD start.called
    callSid := (a.value? "call-sid").getD start.callSid
    callbackBase := (a.value? "callback-base").getD start.callbackBase }

def command? (name : String) (a : Arguments) : Option Command :=
  match a.others with
  | [path] =>
    match name with
    | "compile" => some (.compile path a.call (a.value? "save") (a.flags.contains "trace"))
    | "resume" => do return .resume path (← a.value? "block") (← a.value? "digits") a.call
    | "render" => some (.render path a.call)
    | _ => none
  | _ => none

def Invocation.ofArguments? (arguments : List String) : Option Invocation := do
  let (before, rest) ← takeOptions? ⟨[], []⟩ true ⟨[], [], []⟩ arguments
  match rest with
  | [] => none
  | name :: rest =>
    let grammar ← grammar? name
    let (behind, _) ← takeOptions? grammar false ⟨[], [], []⟩ rest
    let earlier ← before.mappings?
    let later ← behind.mappings?
    guard (before.repeatsNothing && behind.repeatsNothing)
    return {
      command := ← command? name behind
      options := (behind.value? "options").or (before.value? "options")
      pretty := before.flags.contains "pretty" || behind.flags.contains "pretty"
      typeMappings := if later.isEmpty then earlier else later }

end CallFlow.CommandLine
