import CallFlow.Json.Printer
import CallFlow.Json.Table
import CallFlow.Script.Basic

/-! Scripts and their parts as JSON. -/

namespace CallFlow
set_option autoImplicit false

open Json (Choice Column Form Mismatch Table Value)

def wordJson (n : UInt32) : Value := .number (.int n.toNat)

def wordColumn {σ : Type} (name : String) (get : σ → UInt32) (put : UInt32 → σ → σ) : Column σ :=
  .required name .word32 wordJson get put

def choice (name : String) (content : Value) : Value := .object [(name, content)]

/-- The one field of a choice that holds a block's id. -/
def blockIdTable (name : String) : Table String where
  name := "variant " ++ name
  start := ""
  columns := [.text "block_id" id fun v _ => v]

/-- The fields of a choice that holds a block's id and where it leads. -/
def connectionTable (name : String) : Table (String × String) where
  name := "variant " ++ name
  start := ("", "")
  columns := [
    .text "block_id" (·.1) fun v c => (v, c.2),
    .text "target" (·.2) fun v c => (c.1, v)]

namespace Callback

def gatherTable : Table String := blockIdTable "Callback::Gather"

def toJson : Callback → Value
  | .gather id => choice "Gather" (gatherTable.toJson id)
  | .dialStatus => .string "DialStatus"
  | .recordingStatus => .string "RecordingStatus"
  | .menu => .string "Menu"
  | .custom target => choice "Custom" (.string target)

def choices : List (Choice Callback) := [
  .holdingFields "Gather" gatherTable.form .gather,
  .bare "DialStatus" .dialStatus,
  .bare "RecordingStatus" .recordingStatus,
  .bare "Menu" .menu,
  .holding "Custom" .string .custom]

def form : Form Callback := Choice.form choices

def ofJson : Value → Except Mismatch Callback := form.ofValue

end Callback

namespace Recipient

def toJson : Recipient → Value
  | .caller => .string "Caller"
  | .number n => choice "Number" (.string n)

def choices : List (Choice Recipient) := [.bare "Caller" .caller, .holding "Number" .string .number]

def form : Form Recipient := Choice.form choices

def ofJson : Value → Except Mismatch Recipient := form.ofValue

end Recipient

namespace Speech

def table : Table Speech where
  name := "Speech"
  start := ⟨"", "", "", none⟩
  columns := [
    .text "text" (·.text) fun v s => { s with text := v },
    .text "voice" (·.voice) fun v s => { s with voice := v },
    .text "language" (·.language) fun v s => { s with language := v },
    .optional "rate" .word32 wordJson (·.rate) fun v s => { s with rate := v }]

def toJson : Speech → Value := table.toJson

end Speech

namespace Playback

def table : Table Playback where
  name := "Playback"
  start := ⟨"", none⟩
  columns := [
    .text "url" (·.url) fun v p => { p with url := v },
    .optional "loop_count" .word32 wordJson (·.loopCount) fun v p => { p with loopCount := v }]

def toJson : Playback → Value := table.toJson

end Playback

namespace Gather

def table : Table Gather where
  name := "Gather"
  start := ⟨0, 0, .menu, none⟩
  columns := [
    wordColumn "num_digits" (·.numDigits) fun v g => { g with numDigits := v },
    wordColumn "timeout" (·.timeout) fun v g => { g with timeout := v },
    .required "action" Callback.form Callback.toJson (·.action) fun v g => { g with action := v },
    .optional "prompt" Speech.table.form Speech.toJson (·.prompt) fun v g => { g with prompt := v }]

def toJson : Gather → Value := table.toJson

end Gather

namespace Dial

def table : Table Dial where
  name := "Dial"
  start := ⟨"", 0, none, .menu⟩
  columns := [
    .text "number" (·.number) fun v d => { d with number := v },
    wordColumn "timeout" (·.timeout) fun v d => { d with timeout := v },
    .optional "hold_music" Playback.table.form Playback.toJson (·.holdMusic) fun v d =>
      { d with holdMusic := v },
    .required "status_callback" Callback.form Callback.toJson (·.statusCallback) fun v d =>
      { d with statusCallback := v }]

def toJson : Dial → Value := table.toJson

end Dial

namespace Recording

def table : Table Recording where
  name := "Recording"
  start := ⟨0, "", false, .menu⟩
  columns := [
    wordColumn "max_length" (·.maxLength) fun v r => { r with maxLength := v },
    .text "finish_on_key" (·.finishOnKey) fun v r => { r with finishOnKey := v },
    .required "transcribe" .bool .bool (·.transcribe) fun v r => { r with transcribe := v },
    .required "callback" Callback.form Callback.toJson (·.callback) fun v r =>
      { r with callback := v }]

def toJson : Recording → Value := table.toJson

end Recording

namespace TextReply

def table : Table TextReply where
  name := "TextReply"
  start := ⟨.caller, ""⟩
  columns := [
    .required "to" Recipient.form Recipient.toJson (·.recipient) fun v t =>
      { t with recipient := v },
    .text "body" (·.body) fun v t => { t with body := v }]

def toJson : TextReply → Value := table.toJson

end TextReply

namespace Verb

def lengthTable : Table UInt32 where
  name := "variant Verb::Pause"
  start := 0
  columns := [wordColumn "length" id fun v _ => v]

def toJson : Verb → Value
  | .say speech => choice "Say" speech.toJson
  | .pause length => choice "Pause" (lengthTable.toJson length)
  | .gather g => choice "Gather" g.toJson
  | .dial d => choice "Dial" d.toJson
  | .play p => choice "Play" p.toJson
  | .record r => choice "Record" r.toJson
  | .sms reply => choice "Sms" reply.toJson
  | .hangup => .string "Hangup"

def choices : List (Choice Verb) := [
  .holding "Say" Speech.table.form .say,
  .holdingFields "Pause" lengthTable.form .pause,
  .holding "Gather" Gather.table.form .gather,
  .holding "Dial" Dial.table.form .dial,
  .holding "Play" Playback.table.form .play,
  .holding "Record" Recording.table.form .record,
  .holding "Sms" TextReply.table.form .sms,
  .bare "Hangup" .hangup]

def form : Form Verb := Choice.form choices

def ofJson : Value → Except Mismatch Verb := form.ofValue

end Verb

namespace BlockKind

def title : BlockKind → String
  | say => "Say"
  | gather => "Gather"
  | forward => "Forward"
  | record => "Record"
  | pause => "Pause"
  | play => "Play"
  | hangup => "Hangup"
  | sms => "Sms"

def toJson (kind : BlockKind) : Value := .string kind.title

def form : Form BlockKind := Choice.form (all.map fun kind => .bare kind.title kind)

end BlockKind

namespace FlowFormat

def title : FlowFormat → String
  | graph => "Graph"
  | legacy => "Legacy"

def toJson (format : FlowFormat) : Value := .string format.title

def form : Form FlowFormat := Choice.form ([graph, legacy].map fun format => .bare format.title format)

end FlowFormat

namespace TraceStep

def table : Table TraceStep where
  name := "TraceStep"
  start := ⟨"", .say, 0⟩
  columns := [
    .text "block_id" (·.blockId) fun v t => { t with blockId := v },
    .required "block_type" BlockKind.form BlockKind.toJson (·.kind) fun v t => { t with kind := v },
    .required "verbs_emitted" .word64 (fun n => .number (.int n.toNat)) (·.verbsEmitted) fun v t =>
      { t with verbsEmitted := v }]

def toJson : TraceStep → Value := table.toJson

end TraceStep

namespace StopReason

def blockTable (name : String) : Table String := blockIdTable ("StopReason::" ++ name)

def leadTable (name : String) : Table (String × String) := connectionTable ("StopReason::" ++ name)

def blockJson (name id : String) : Value := choice name ((blockTable name).toJson id)

def leadJson (name id target : String) : Value := choice name ((leadTable name).toJson (id, target))

def toJson : StopReason → Value
  | .emptyFlow => .string "EmptyFlow"
  | .hangup id => blockJson "Hangup" id
  | .awaitingInput id => blockJson "AwaitingInput" id
  | .endOfFlow id => blockJson "EndOfFlow" id
  | .danglingConnection id target => leadJson "DanglingConnection" id target
  | .revisited id target => leadJson "Revisited" id target
  | .legacySequence => .string "LegacySequence"

def atBlock (name : String) (stop : String → StopReason) : Choice StopReason :=
  .holdingFields name (blockTable name).form stop

def atLead (name : String) (stop : String → String → StopReason) : Choice StopReason :=
  .holdingFields name (leadTable name).form fun c => stop c.1 c.2

def choices : List (Choice StopReason) := [
  .bare "EmptyFlow" .emptyFlow,
  atBlock "Hangup" .hangup,
  atBlock "AwaitingInput" .awaitingInput,
  atBlock "EndOfFlow" .endOfFlow,
  atLead "DanglingConnection" .danglingConnection,
  atLead "Revisited" .revisited,
  .bare "LegacySequence" .legacySequence]

def form : Form StopReason := Choice.form choices

end StopReason

namespace Script

def table : Table Script where
  name := "CompiledScript"
  start := ⟨.graph, none, [], [], .emptyFlow⟩
  columns := [
    .required "format" FlowFormat.form FlowFormat.toJson (·.format) fun v s =>
      { s with format := v },
    .optional "entry" .string .string (·.entry) fun v s => { s with entry := v },
    .many "verbs" Verb.form Verb.toJson (·.verbs) fun v s => { s with verbs := v },
    .many "trace" TraceStep.table.form TraceStep.toJson (·.trace) fun v s => { s with trace := v },
    .required "stop" StopReason.form StopReason.toJson (·.stop) fun v s => { s with stop := v }]

def toJson : Script → Value := table.toJson

def ofJson : Value → Except Mismatch Script := table.form.ofValue

def toText (s : Script) : String := s.toJson.toText

/-- Reads a script from a JSON text as it goes on. -/
def ofText (text : String) : Except Json.Error Script :=
  Json.readText (table.form.ofText Json.maxNesting) text

end Script
end CallFlow
