/-! The instructions of a voice response. They name callbacks and recipients without knowing the
call; a document fills them in. -/

namespace CallFlow
set_option autoImplicit false

inductive Callback
  /-- The digits that the gather block of that id collects. -/
  | gather (blockId : String)
  | dialStatus
  | recordingStatus
  | menu
  /-- A URL, or a reference below the callback base. -/
  | custom (target : String)
deriving DecidableEq

inductive Recipient
  /-- Whoever placed the call. -/
  | caller
  | number (number : String)
deriving DecidableEq

structure Speech where
  text : String
  voice : String
  language : String
  /-- In percent; none at normal speed. -/
  rate : Option UInt32
deriving DecidableEq

structure Gather where
  numDigits : UInt32
  timeout : UInt32
  action : Callback
  prompt : Option Speech
deriving DecidableEq

structure Playback where
  url : String
  loopCount : Option UInt32
deriving DecidableEq

structure Dial where
  number : String
  timeout : UInt32
  holdMusic : Option Playback
  statusCallback : Callback
deriving DecidableEq

structure Recording where
  maxLength : UInt32
  finishOnKey : String
  transcribe : Bool
  callback : Callback
deriving DecidableEq

structure TextReply where
  recipient : Recipient
  body : String
deriving DecidableEq

inductive Verb
  | say (speech : Speech)
  | pause (length : UInt32)
  | gather (gather : Gather)
  | dial (dial : Dial)
  | play (playback : Playback)
  | record (recording : Recording)
  | sms (reply : TextReply)
  | hangup
deriving DecidableEq

namespace Verb

def tag : Verb → String
  | say _ => "Say"
  | pause _ => "Pause"
  | gather _ => "Gather"
  | dial _ => "Dial"
  | play _ => "Play"
  | record _ => "Record"
  | sms _ => "Sms"
  | hangup => "Hangup"

/-- Whether the call ends with the verb. -/
def isTerminal : Verb → Bool
  | hangup => true
  | _ => false

end Verb

def Callback.describe : Callback → String
  | .gather blockId => "gather(" ++ blockId ++ ")"
  | .dialStatus => "dial-status"
  | .recordingStatus => "recording-status"
  | .menu => "menu"
  | .custom target => target

def Recipient.describe : Recipient → String
  | .caller => "$caller"
  | .number n => n

end CallFlow
