import CallFlow.Block.Step
import CallFlow.Flow.Basic

/-! The fixed sequence of the older format. A section that is missing contributes nothing. -/

namespace CallFlow.LegacyFlow
set_option autoImplicit false

def filled? (text : Option String) : Option String :=
  (text.map Text.trim).filter fun s => !s.isEmpty

def greetingVerbs (options : Options) (greeting : Option String) : List Verb :=
  match filled? greeting with
  | some text => [.say (options.plainSpeech text)]
  | none => []

/-- A menu without a prompt is not there, whatever its action. -/
def menuVerbs (options : Options) (menu : LegacyMenu) : List Verb :=
  match filled? menu.prompt with
  | some prompt =>
    let action : Callback := match filled? menu.action with
      | some target => .custom target
      | none => .menu
    [.gather ⟨Action.defaultGatherDigits, Action.defaultGatherTimeout, action,
      some (options.plainSpeech prompt)⟩]
  | none => []

/-- A voicemail section records even without a prompt. -/
def voicemailVerbs (options : Options) (voicemail : LegacyVoicemail) : List Verb :=
  let spoken := greetingVerbs options voicemail.prompt
  let callback : Callback := match filled? voicemail.callback with
    | some target => .custom target
    | none => .recordingStatus
  spoken ++
    [.record ⟨Action.defaultRecordMaxLength, Action.defaultFinishOnKey, true, callback⟩]

def forwardVerbs (forward : LegacyForward) : List Verb :=
  match filled? forward.number with
  | some number => [.dial ⟨number, Action.defaultForwardTimeout, none, .dialStatus⟩]
  | none => []

def verbs (options : Options) (flow : LegacyFlow) : List Verb :=
  greetingVerbs options flow.greeting ++
    (flow.menu.map (menuVerbs options)).getD [] ++
    (flow.voicemail.map (voicemailVerbs options)).getD [] ++
    (flow.forward.map forwardVerbs).getD []

end CallFlow.LegacyFlow
