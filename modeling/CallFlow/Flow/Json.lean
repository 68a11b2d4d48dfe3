import CallFlow.Flow.Basic
import CallFlow.Json.Printer
import CallFlow.Json.Record

/-! Blocks, sections and records as JSON. -/

namespace CallFlow
set_option autoImplicit false

open Json (Member Fields Mismatch Shape Value)

/-! Reading -/

def Position.shape : Shape Position where
  name := "Position"
  start := ⟨.zero false, .zero false⟩
  fields := [
    .scalar "x" .required Json.Head.asReal fun v p => { p with x := v },
    .scalar "y" .required Json.Head.asReal fun v p => { p with y := v }]

def Block.shape : Shape Block where
  name := "BlockDefinition"
  start := ⟨"", "", [], [], none⟩
  fields := [
    .scalar "id" .required Json.Head.asString fun v b => { b with id := v },
    .scalar "type" .required Json.Head.asString fun v b => { b with kindName := v },
    .whole "config" .defaulted (Value.orNull Value.asFields) fun v b =>
      { b with config := v.getD [] },
    .whole "connections" .defaulted (Value.orNull (Value.asList Value.asString)) fun v b =>
      { b with connections := v.getD [] },
    .whole "position" .defaulted (Value.orNull Position.shape.ofValue) fun v b =>
      { b with position := v }]

def Block.ofJson (v : Value) : Except Mismatch Block := Block.shape.ofValue v

/-- Text, also where a number is stored in its place. -/
def asOptionalText : Value → Except Mismatch (Option String)
  | .null => .ok none
  | .string s => .ok (some s)
  | .number n => .ok (some (String.ofList n.text))
  | v => .error (.notTextOrNumber v.toText)

def LegacyMenu.shape : Shape LegacyMenu where
  name := "LegacyMenu"
  start := ⟨none, .null, none⟩
  fields := [
    .whole "prompt" .defaulted asOptionalText fun v m => { m with prompt := v },
    .whole "options" .defaulted pure fun v m => { m with options := v },
    .whole "action" .defaulted (Value.orNull Value.asString) fun v m => { m with action := v }]

def LegacyVoicemail.shape : Shape LegacyVoicemail where
  name := "LegacyVoicemail"
  start := ⟨none, none⟩
  fields := [
    .whole "prompt" .defaulted asOptionalText fun v m => { m with prompt := v },
    .whole "callback" .defaulted (Value.orNull Value.asString) fun v m => { m with callback := v }]

def LegacyForward.shape : Shape LegacyForward where
  name := "LegacyForward"
  start := ⟨none⟩
  fields := [.whole "number" .defaulted asOptionalText fun v m => { m with number := v }]

def LegacyFlow.shape : Shape LegacyFlow where
  name := "LegacyFlowConfig"
  start := ⟨none, none, none, none⟩
  fields := [
    .whole "greeting" .defaulted asOptionalText fun v f => { f with greeting := v },
    .whole "menu" .defaulted (Value.orNull LegacyMenu.shape.ofValue) fun v f =>
      { f with menu := v },
    .whole "voicemail" .defaulted (Value.orNull LegacyVoicemail.shape.ofValue) fun v f =>
      { f with voicemail := v },
    .whole "forward" .defaulted (Value.orNull LegacyForward.shape.ofValue) fun v f =>
      { f with forward := v }]

def LegacyFlow.ofJson (v : Value) : Except Mismatch LegacyFlow := LegacyFlow.shape.ofValue v

def FlowRecord.shape : Shape FlowRecord where
  name := "FlowRecord"
  start := ⟨"", "", 0, "", false, .null⟩
  fields := [
    .scalar "id" .required Json.Head.asString fun v r => { r with id := v },
    .scalar "name" .required Json.Head.asString fun v r => { r with name := v },
    .scalar "version" .defaulted Json.Head.asWord32 fun v r => { r with version := v },
    { Member.scalar "phone_number" .required Json.Head.asString fun v (r : FlowRecord) =>
        { r with phoneNumber := v } with aliases := ["phoneNumber"] },
    { Member.scalar "is_active" .defaulted Json.Head.asBool fun v (r : FlowRecord) =>
        { r with isActive := v } with aliases := ["isActive"] },
    .whole "definition" .required pure fun v r => { r with definition := v }]

def FlowRecord.ofJson (v : Value) : Except Mismatch FlowRecord := FlowRecord.shape.ofValue v

/-- The record in a text; the word `null` stands for none. -/
def FlowRecord.ofText (text : String) : Except Json.Error (Option FlowRecord) :=
  Json.readText (FlowRecord.shape.readOrNull Json.maxNesting) text

/-! Writing -/

def orNull {α : Type} (write : α → Value) : Option α → Value
  | some a => write a
  | none => .null

def Position.toJson (p : Position) : Value :=
  .object [("x", .number (.real p.x)), ("y", .number (.real p.y))]

def Block.toJson (b : Block) : Value := .object [
  ("id", .string b.id),
  ("type", .string b.kindName),
  ("config", .object b.config),
  ("connections", .array (b.connections.map .string)),
  ("position", orNull Position.toJson b.position)]

def LegacyMenu.toJson (m : LegacyMenu) : Value := .object [
  ("prompt", orNull .string m.prompt),
  ("options", m.options),
  ("action", orNull .string m.action)]

def LegacyVoicemail.toJson (m : LegacyVoicemail) : Value := .object [
  ("prompt", orNull .string m.prompt),
  ("callback", orNull .string m.callback)]

def LegacyForward.toJson (m : LegacyForward) : Value :=
  .object [("number", orNull .string m.number)]

def LegacyFlow.toJson (f : LegacyFlow) : Value := .object [
  ("greeting", orNull .string f.greeting),
  ("menu", orNull LegacyMenu.toJson f.menu),
  ("voicemail", orNull LegacyVoicemail.toJson f.voicemail),
  ("forward", orNull LegacyForward.toJson f.forward)]

def Flow.toJson : Flow → Value
  | .graph blocks => .object [("blocks", .array (blocks.map Block.toJson))]
  | .legacy f => f.toJson

def FlowRecord.toJson (r : FlowRecord) : Value := .object [
  ("id", .string r.id),
  ("name", .string r.name),
  ("version", .number (.int r.version.toNat)),
  ("phone_number", .string r.phoneNumber),
  ("is_active", .bool r.isActive),
  ("definition", r.definition)]

end CallFlow
