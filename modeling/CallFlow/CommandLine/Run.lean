import CallFlow.CommandLine.Arguments
import CallFlow.Files
import CallFlow.Response

/-! Running a command: what it prints, and with which code it ends. -/

namespace CallFlow.CommandLine
set_option autoImplicit false

structure Report where
  exitCode : UInt8
  output : String
  notices : List String
deriving DecidableEq

/-- Everything is right but the arguments. -/
def Report.misused : Report := ⟨2, "", []⟩

def Report.failed (message : String) : Report := ⟨1, "", ["", "Error: " ++ message]⟩

def Report.printing (text : String) (notices : List String) : Report :=
  ⟨0, text ++ "\n", notices⟩

/-- A report that goes on with another one's notices and ends as that one does. -/
def Report.followedBy (first second : Report) : Report :=
  ⟨second.exitCode, first.output ++ second.output, first.notices ++ second.notices⟩

variable {m : Type → Type} [Monad m]

def compilerOf (files : FileAccess m) (invocation : Invocation) :
    m (Except String Compiler) := do
  let options : Except Options.Error Options ← match invocation.options with
    | some path => Options.load files path
    | none => pure (.ok {})
  match options with
  | .error e => return .error e.message
  | .ok o =>
    let o := { o with pretty := o.pretty || invocation.pretty }
    return .ok ((Compiler.ofOptions o).withTypeMappings invocation.typeMappings)

def contextOf (call : CallArguments) : Except String CallContext :=
  (CallContext.ofText call.caller call.called call.callSid call.callbackBase).mapError
    CallContext.Error.message

def readFlow (files : FileAccess m) (path : String) : m (Except String String) := do
  return (← files.readText path).mapError fun cause =>
    "Failed to read '" ++ path ++ "': " ++ cause

def reportScript (files : FileAccess m) (script : Option Script) (savePath : Option String)
    (trace : Bool) : m Report := do
  match script, savePath with
  | none, none => return ⟨0, "", []⟩
  | none, some _ => return ⟨0, "", ["Nothing compiled, no script saved"]⟩
  | some s, path =>
    let traced : Report := ⟨0, "", if trace then ["Trace: " ++ s.describe] else []⟩
    match path with
    | none => return traced
    | some path =>
      match ← s.save files path with
      | .ok _ =>
        return traced.followedBy ⟨0, "", ["Saved compiled script to '" ++ path ++ "'"]⟩
      | .error e => return traced.followedBy (.failed e.message)

def execute (files : FileAccess m) (compiler : Compiler) (command : Command) :
    m (Except String Report) := do
  match command with
  | .compile path call savePath trace =>
    match contextOf call, ← readFlow files path with
    | .error e, _ => return .error e
    | .ok _, .error e => return .error e
    | .ok context, .ok flow =>
      let response := compiler.respond (some (.text flow)) context
      let printed := Report.printing response.body ["Outcome: " ++ response.outcome.name]
      return .ok (printed.followedBy (← reportScript files response.script savePath trace))
  | .resume path block digits call =>
    match contextOf call, ← readFlow files path with
    | .error e, _ => return .error e
    | .ok _, .error e => return .error e
    | .ok context, .ok flow =>
      let response := compiler.respondToInput (.text flow) block digits context
      return .ok (.printing response.body ["Outcome: " ++ response.outcome.name])
  | .render path call =>
    match contextOf call, ← Script.load files path with
    | .error e, _ => return .error e
    | .ok _, .error e => return .error e.message
    | .ok context, .ok script =>
      match compiler.rendered context script.verbs with
      | .ok body => return .ok (.printing body [])
      | .error e => return .error e.message

def run (files : FileAccess m) (arguments : List String) : m Report := do
  match Invocation.ofArguments? arguments with
  | none => return .misused
  | some invocation =>
    match ← compilerOf files invocation with
    | .error e => return .failed e
    | .ok compiler =>
      match ← execute files compiler invocation.command with
      | .error e => return .failed e
      | .ok report => return report

end CallFlow.CommandLine
