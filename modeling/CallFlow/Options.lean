import CallFlow.Json.Printer
import CallFlow.Json.Record

/-! What can be set for compiling flows and answering calls. Whatever is not set has a default. -/

namespace CallFlow
set_option autoImplicit false

structure Options where
  voice : String := "alice"
  language : String := "en-US"
  defaultGreeting : String :=
    "Thank you for calling. This number has not been configured yet. Goodbye."
  noInputMessage : String := "We didn't receive any input. Goodbye!"
  configurationErrorMessage : String :=
    "We're sorry, this number is not configured correctly. Goodbye."
  apologyMessage : String := "We're sorry, an application error has occurred. Goodbye."
  /-- The path below the callback base that receives the digits of a gather. -/
  gatherPath : String := "gather"
  statusPath : String := "status"
  recordingPath : String := "recording"
  menuPath : String := "menu"
  /-- Whether documents are indented. -/
  pretty : Bool := false
deriving DecidableEq

namespace Options
open Json (Member Shape Value)

def textField (name : String) (put : String → Options → Options) : Member Options :=
  .scalar name .defaulted Json.Head.asString put

def shape : Shape Options where
  name := "CompilerOptions"
  start := {}
  fields := [
    textField "voice" fun v o => { o with voice := v },
    textField "language" fun v o => { o with language := v },
    textField "defaultGreeting" fun v o => { o with defaultGreeting := v },
    textField "noInputMessage" fun v o => { o with noInputMessage := v },
    textField "configurationErrorMessage" fun v o => { o with configurationErrorMessage := v },
    textField "apologyMessage" fun v o => { o with apologyMessage := v },
    textField "gatherPath" fun v o => { o with gatherPath := v },
    textField "statusPath" fun v o => { o with statusPath := v },
    textField "recordingPath" fun v o => { o with recordingPath := v },
    textField "menuPath" fun v o => { o with menuPath := v },
    .scalar "pretty" .defaulted Json.Head.asBool fun v o => { o with pretty := v }]

/-- Why a document of options is refused. -/
inductive Error
  | malformed (cause : Json.Error)
  | unreadable (path cause : String)
deriving DecidableEq

def Error.message : Error → String
  | .malformed cause => "Failed to parse options JSON: " ++ cause.message
  | .unreadable path cause => "Could not read options file '" ++ path ++ "': " ++ cause

def ofText (text : String) : Except Error Options :=
  match Json.readText (shape.read Json.maxNesting) text with
  | .ok o => .ok o
  | .error cause => .error (.malformed cause)

def toJson (o : Options) : Value := .object [
  ("voice", .string o.voice),
  ("language", .string o.language),
  ("defaultGreeting", .string o.defaultGreeting),
  ("noInputMessage", .string o.noInputMessage),
  ("configurationErrorMessage", .string o.configurationErrorMessage),
  ("apologyMessage", .string o.apologyMessage),
  ("gatherPath", .string o.gatherPath),
  ("statusPath", .string o.statusPath),
  ("recordingPath", .string o.recordingPath),
  ("menuPath", .string o.menuPath),
  ("pretty", .bool o.pretty)]

end Options
end CallFlow
