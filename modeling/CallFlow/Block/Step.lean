import CallFlow.Block.Action
import CallFlow.Options
import CallFlow.Verb

/-! What one block contributes to a script. -/

namespace CallFlow
set_option autoImplicit false

inductive Continuation
  /-- At the first connection. -/
  | next
  | terminate
  /-- With whoever gets the digits. -/
  | awaitInput
deriving DecidableEq, Repr

structure Step where
  fragment : List Verb
  continuation : Continuation
deriving DecidableEq

def Options.speech (options : Options) (text : String) (voicing : Voicing) : Speech :=
  ⟨text, voicing.voice.getD options.voice, voicing.language.getD options.language, none⟩

def Options.plainSpeech (options : Options) (text : String) : Speech :=
  options.speech text ⟨none, none⟩

/-- The speed in percent, which is left out at normal speed. -/
def speechRate (speed : Binary64) : Option UInt32 :=
  let percent := match (Action.clampSpeed speed).mul .hundred with
    | some x => x.round.toNat
    | none => 100
  if percent = 100 then none else some (UInt32.ofNat percent)

namespace Action

/-- The verbs of an action. Without what it needs to speak, dial, play or send there are none. -/
def fragment (blockId : String) (options : Options) : Action → List Verb
  | .say text speed voicing =>
    match text with
    | some t => [.say { options.speech t voicing with rate := speechRate speed }]
    | none => []
  | .gather prompt numDigits timeout _ voicing =>
    match prompt with
    | some p => [
        .gather ⟨numDigits, timeout, .gather blockId, some (options.speech p voicing)⟩,
        .say (options.plainSpeech options.noInputMessage),
        .hangup]
    | none => []
  | .forward number timeout holdMusicUrl holdMusicLoop =>
    match number with
    | some n =>
      let music := holdMusicUrl.map fun url => ⟨url, some holdMusicLoop⟩
      [.dial ⟨n, timeout, music, .dialStatus⟩]
    | none => []
  | .record prompt maxLength finishOnKey voicing =>
    let spoken : List Verb := match prompt with
      | some p => [.say (options.speech p voicing)]
      | none => []
    spoken ++ [.record ⟨maxLength, finishOnKey, true, .recordingStatus⟩]
  | .pause duration => [.pause duration]
  | .play url loopCount =>
    match url with
    | some u => [.play ⟨u, loopCount⟩]
    | none => []
  | .sms message recipient =>
    match message with
    | some body => [.sms ⟨(recipient.map .number).getD .caller, body⟩]
    | none => []
  | .hangup => [.hangup]

end Action

def BlockKind.continuation : BlockKind → Continuation
  | .gather => .awaitInput
  | .hangup => .terminate
  | _ => .next

def Action.step (blockId : String) (options : Options) (action : Action) : Step :=
  ⟨action.fragment blockId options, action.kind.continuation⟩

end CallFlow
