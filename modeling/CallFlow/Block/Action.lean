import CallFlow.Block.Config
import CallFlow.Block.Kind

/-! What a block is set to do: its settings, read as its kind expects them. -/

namespace CallFlow
set_option autoImplicit false

structure Voicing where
  voice : Option String
  language : Option String
deriving DecidableEq

/-- A block's settings. What has no default is left open where it is missing. -/
inductive Action
  | say (text : Option String) (speed : Binary64) (voicing : Voicing)
  | gather (prompt : Option String) (numDigits timeout : UInt32)
      (routes : List (String × String)) (voicing : Voicing)
  | forward (number : Option String) (timeout : UInt32) (holdMusicUrl : Option String)
      (holdMusicLoop : UInt32)
  | record (prompt : Option String) (maxLength : UInt32) (finishOnKey : String)
      (voicing : Voicing)
  | pause (duration : UInt32)
  | play (url : Option String) (loopCount : Option UInt32)
  | sms (message recipient : Option String)
  | hangup
deriving DecidableEq

namespace Action

def defaultPauseSeconds : UInt32 := 2
def defaultGatherDigits : UInt32 := 1
def defaultGatherTimeout : UInt32 := 10
def defaultForwardTimeout : UInt32 := 30
def defaultHoldMusicLoop : UInt32 := 10
def defaultRecordMaxLength : UInt32 := 300
def defaultFinishOnKey : String := "#"

/-- Speech is slowed down to half and sped up to twice its normal speed. -/
def clampSpeed (speed : Binary64) : Binary64 := speed.clamp .half .two

open Config in
def ofConfig (kind : BlockKind) (config : Json.Fields) : Action :=
  let voicing : Voicing := ⟨text? config "voice", text? config "language"⟩
  match kind with
  | .say =>
    .say (text? config "text") (clampSpeed ((number? config "speed").getD .one)) voicing
  | .gather =>
    .gather (text? config "prompt")
      (((whole? config "numDigits").filter (0 < ·)).getD defaultGatherDigits)
      ((whole? config "timeout").getD defaultGatherTimeout)
      (routes config "routes") voicing
  | .forward =>
    .forward (text? config "number")
      ((whole? config "timeout").getD defaultForwardTimeout)
      (text? config "holdMusicUrl")
      ((whole? config "holdMusicLoop").getD defaultHoldMusicLoop)
  | .record =>
    .record (text? config "prompt")
      ((whole? config "maxLength").getD defaultRecordMaxLength)
      ((text? config "finishOnKey").getD defaultFinishOnKey) voicing
  | .pause => .pause ((whole? config "duration").getD defaultPauseSeconds)
  | .play => .play (text? config "url") (whole? config "loop")
  | .sms => .sms (text? config "message") (text? config "to")
  | .hangup => .hangup

def kind : Action → BlockKind
  | say .. => .say
  | gather .. => .gather
  | forward .. => .forward
  | record .. => .record
  | pause .. => .pause
  | play .. => .play
  | sms .. => .sms
  | hangup => .hangup

theorem kind_ofConfig (kind : BlockKind) (config : Json.Fields) :
    (ofConfig kind config).kind = kind := by
  cases kind <;> rfl

/-- The block to go on with once digits are pressed: the one routed for them, or else the first
connection. Blanks around the digits do not count. -/
def nextBlock? (routes : List (String × String)) (digits : String) (connections : List String) :
    Option String :=
  (routes.lookup (Text.trim digits)).or connections.head?

end Action
end CallFlow
