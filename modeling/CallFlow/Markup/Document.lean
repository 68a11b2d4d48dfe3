import CallFlow.CallContext
import CallFlow.Markup.Element

/-! The document that a call is answered with: the verbs of a script as elements, with the addresses
and numbers of the call. -/

namespace CallFlow
set_option autoImplicit false

open Markup (Element)

/-- The events of a forwarded call that are reported. -/
def dialStatusEvents : String := "initiated ringing answered completed"

def Speech.element (speech : Speech) : Element :=
  let attributes := [("voice", speech.voice), ("language", speech.language)]
  match speech.rate with
  | some rate =>
    .nested ⟨"Say", attributes⟩
      [.text ⟨"prosody", [("rate", toString rate ++ "%")]⟩ speech.text]
  | none => .text ⟨"Say", attributes⟩ speech.text

def Playback.element (playback : Playback) : Element :=
  let attributes := match playback.loopCount with
    | some count => [("loop", toString count)]
    | none => []
  .text ⟨"Play", attributes⟩ playback.url

def Verb.element (context : CallContext) (options : Options) : Verb → Element
  | .say speech => speech.element
  | .pause length => .empty ⟨"Pause", [("length", toString length)]⟩
  | .gather g =>
    let attributes := [("numDigits", toString g.numDigits), ("timeout", toString g.timeout),
      ("action", context.callbackUrl options g.action), ("method", "POST")]
    match g.prompt with
    | some prompt => .nested ⟨"Gather", attributes⟩ [prompt.element]
    | none => .empty ⟨"Gather", attributes⟩
  | .dial d =>
    let music := match d.holdMusic with
      | some playback => [playback.element]
      | none => []
    let number := Element.text ⟨"Number", [
      ("statusCallback", context.callbackUrl options d.statusCallback),
      ("statusCallbackEvent", dialStatusEvents)]⟩ d.number
    .nested ⟨"Dial", [("timeout", toString d.timeout)]⟩ (music ++ [number])
  | .play playback => playback.element
  | .record r => .empty ⟨"Record", [
      ("maxLength", toString r.maxLength),
      ("finishOnKey", r.finishOnKey),
      ("transcribe", if r.transcribe then "true" else "false"),
      ("recordingStatusCallback", context.callbackUrl options r.callback)]⟩
  | .sms reply => .text ⟨"Sms", [("to", context.recipient reply.recipient)]⟩ reply.body
  | .hangup => .empty ⟨"Hangup", []⟩

/-- The root of the document for some verbs. -/
def responseElement (context : CallContext) (options : Options) (verbs : List Verb) : Element :=
  if verbs.isEmpty then .empty ⟨"Response", []⟩
  else .nested ⟨"Response", []⟩ (verbs.map (Verb.element context options))

def renderDocument (context : CallContext) (options : Options) (verbs : List Verb) : String :=
  String.ofList (Markup.writeDocument options.pretty (responseElement context options verbs))

/-- The verbs without a document around them. -/
def renderFragment (context : CallContext) (options : Options) (verbs : List Verb) : String :=
  String.ofList
    (Markup.writeFragment options.pretty (verbs.map (Verb.element context options)))

end CallFlow
