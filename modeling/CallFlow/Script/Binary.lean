import CallFlow.Binary.Codec
import CallFlow.Script.Basic

/-! The binary form of scripts: fields in order, choices by their place. -/

namespace CallFlow
set_option autoImplicit false

open Binary (Codec)
open Binary.Codec

namespace Callback

def codec : Codec Callback := Codec.choice
  (fun
    | .gather _ => 0
    | .dialStatus => 1
    | .recordingStatus => 2
    | .menu => 3
    | .custom _ => 4)
  (fun
    | .gather id => Codec.text.encode id
    | .custom target => Codec.text.encode target
    | _ => [])
  [alternative Codec.text .gather, constant .dialStatus, constant .recordingStatus, constant .menu,
    alternative Codec.text .custom]

end Callback

namespace Recipient

def codec : Codec Recipient := Codec.choice
  (fun
    | .caller => 0
    | .number _ => 1)
  (fun
    | .caller => []
    | .number n => Codec.text.encode n)
  [constant .caller, alternative Codec.text .number]

end Recipient

def Speech.codec : Codec Speech :=
  (Codec.text.pair (Codec.text.pair (Codec.text.pair (option word32)))).convert
    (fun (text, voice, language, rate) => ⟨text, voice, language, rate⟩)
    (fun s => (s.text, s.voice, s.language, s.rate))

def Playback.codec : Codec Playback :=
  (Codec.text.pair (option word32)).convert
    (fun (url, loopCount) => ⟨url, loopCount⟩)
    (fun p => (p.url, p.loopCount))

def Gather.codec : Codec Gather :=
  (word32.pair (word32.pair (Callback.codec.pair (option Speech.codec)))).convert
    (fun (numDigits, timeout, action, prompt) => ⟨numDigits, timeout, action, prompt⟩)
    (fun g => (g.numDigits, g.timeout, g.action, g.prompt))

def Dial.codec : Codec Dial :=
  (Codec.text.pair (word32.pair ((option Playback.codec).pair Callback.codec))).convert
    (fun (number, timeout, holdMusic, statusCallback) =>
      ⟨number, timeout, holdMusic, statusCallback⟩)
    (fun d => (d.number, d.timeout, d.holdMusic, d.statusCallback))

def Recording.codec : Codec Recording :=
  (word32.pair (Codec.text.pair (bool.pair Callback.codec))).convert
    (fun (maxLength, finishOnKey, transcribe, callback) =>
      ⟨maxLength, finishOnKey, transcribe, callback⟩)
    (fun r => (r.maxLength, r.finishOnKey, r.transcribe, r.callback))

def TextReply.codec : Codec TextReply :=
  (Recipient.codec.pair Codec.text).convert (fun (r, body) => ⟨r, body⟩)
    (fun t => (t.recipient, t.body))

namespace Verb

def codec : Codec Verb := Codec.choice
  (fun
    | .say _ => 0
    | .pause _ => 1
    | .gather _ => 2
    | .dial _ => 3
    | .play _ => 4
    | .record _ => 5
    | .sms _ => 6
    | .hangup => 7)
  (fun
    | .say speech => Speech.codec.encode speech
    | .pause length => word32.encode length
    | .gather g => Gather.codec.encode g
    | .dial d => Dial.codec.encode d
    | .play p => Playback.codec.encode p
    | .record r => Recording.codec.encode r
    | .sms reply => TextReply.codec.encode reply
    | .hangup => [])
  [alternative Speech.codec .say, alternative word32 .pause, alternative Gather.codec .gather,
    alternative Dial.codec .dial, alternative Playback.codec .play,
    alternative Recording.codec .record, alternative TextReply.codec .sms, constant .hangup]

end Verb

namespace BlockKind

def place : BlockKind → Nat
  | say => 0
  | gather => 1
  | forward => 2
  | record => 3
  | pause => 4
  | play => 5
  | hangup => 6
  | sms => 7

def codec : Codec BlockKind := Codec.choice place (fun _ => []) (all.map constant)

end BlockKind

def FlowFormat.codec : Codec FlowFormat := Codec.choice
  (fun
    | .graph => 0
    | .legacy => 1)
  (fun _ => []) [constant .graph, constant .legacy]

def TraceStep.codec : Codec TraceStep :=
  (Codec.text.pair (BlockKind.codec.pair word64)).convert
    (fun (blockId, kind, verbsEmitted) => ⟨blockId, kind, verbsEmitted⟩)
    (fun t => (t.blockId, t.kind, t.verbsEmitted))

namespace StopReason

def codec : Codec StopReason := Codec.choice
  (fun
    | .emptyFlow => 0
    | .hangup _ => 1
    | .awaitingInput _ => 2
    | .endOfFlow _ => 3
    | .danglingConnection _ _ => 4
    | .revisited _ _ => 5
    | .legacySequence => 6)
  (fun
    | .hangup id | .awaitingInput id | .endOfFlow id => Codec.text.encode id
    | .danglingConnection id target | .revisited id target =>
      (Codec.text.pair Codec.text).encode (id, target)
    | .emptyFlow | .legacySequence => [])
  [constant .emptyFlow, alternative Codec.text .hangup, alternative Codec.text .awaitingInput,
    alternative Codec.text .endOfFlow,
    alternative (Codec.text.pair Codec.text) fun c => .danglingConnection c.1 c.2,
    alternative (Codec.text.pair Codec.text) fun c => .revisited c.1 c.2,
    constant .legacySequence]

end StopReason

namespace Script

def codec : Codec Script :=
  (FlowFormat.codec.pair ((option Codec.text).pair ((list Verb.codec).pair
    ((list TraceStep.codec).pair StopReason.codec)))).convert
    (fun (format, entry, verbs, trace, stop) => ⟨format, entry, verbs, trace, stop⟩)
    (fun s => (s.format, s.entry, s.verbs, s.trace, s.stop))

def toBytes (s : Script) : Binary.Bytes := codec.encode s

/-- The script at the start of some bytes. -/
def ofBytes (bytes : Binary.Bytes) : Except Binary.Error Script := (codec.decode bytes).map (·.1)

end Script
end CallFlow
