import CallFlow.Response

/-!
# Handing in a definition

A definition may come as a text, as the value of that text, in a record, or ready as a flow, and
what is not text itself may be stored as text once more. All of these lead to one flow or to one
failure, so calls and digits get the same answer from any of them. A record that is not active
counts as no flow at all.
-/

namespace CallFlow
set_option autoImplicit false

open Json (Value)

def Json.Value.IsText (v : Value) : Prop := ∃ s, v = .string s

/-- The sources that hand in the definition of a text with this value. -/
inductive HandsIn (text : String) (v : Value) : FlowSource → Prop
  | text : HandsIn text v (.text text)
  | value : HandsIn text v (.value v)
  | record {record : FlowRecord} : record.definition = v → HandsIn text v (.record record)
  | ready {flow : Flow} : Flow.ofValue v = .ok flow → HandsIn text v (.ready flow)
  | encoded : ¬ v.IsText → HandsIn text v (.value (.string text))
  | encodedRecord {record : FlowRecord} : ¬ v.IsText → record.definition = .string text →
      HandsIn text v (.record record)

namespace Flow

variable {text : String} {v : Value}

theorem ofText_eq_ofValue (h : Value.ofText text = .ok v) : ofText text = ofValue v := by
  rw [ofText, parseText, h]

theorem ofValue_string (h : Value.ofText text = .ok v) : ofValue (.string text) = ofObject v := by
  rw [ofValue, parseText, h]

theorem ofValue_encoded (h : Value.ofText text = .ok v) (hv : ¬ v.IsText) :
    ofValue (.string text) = ofValue v := by
  rw [ofValue_string h]
  cases v with
  | string s => exact absurd ⟨s, rfl⟩ hv
  | _ => rfl

theorem ofValue_encoded_text (h : Value.ofText text = .ok v) (hv : v.IsText) :
    ofValue (.string text) = .error (.notObject "a string") := by
  obtain ⟨s, rfl⟩ := hv
  rw [ofValue_string h]
  rfl

end Flow

variable {text : String} {v : Value} {source source' : FlowSource}

theorem HandsIn.flow_eq (hsource : HandsIn text v source) (h : Value.ofText text = .ok v) :
    source.flow = (FlowSource.value v).flow := by
  cases hsource with
  | text => rw [FlowSource.flow, FlowSource.flow, Flow.ofText_eq_ofValue h]
  | value => rfl
  | record hrecord => rw [FlowSource.flow, FlowSource.flow, hrecord]
  | ready hflow =>
    rw [FlowSource.flow, FlowSource.flow, hflow]
    rfl
  | encoded hv => rw [FlowSource.flow, FlowSource.flow, Flow.ofValue_encoded h hv]
  | encodedRecord hv hrecord =>
    rw [FlowSource.flow, FlowSource.flow, hrecord, Flow.ofValue_encoded h hv]

namespace Compiler

variable (compiler : Compiler) (context : CallContext)

/-! An answer depends on the flow of a source, and on nothing else of it. -/

theorem respond_congr (h : source.flow = source'.flow) :
    compiler.respond (some source) context = compiler.respond (some source') context := by
  simp only [respond, compileSource, flowOf, h]

theorem respondToInput_congr (h : source.flow = source'.flow) (id digits : String) :
    compiler.respondToInput source id digits context =
      compiler.respondToInput source' id digits context := by
  simp only [respondToInput, resumeSource, flowOf, h]

theorem respondForRecord_of_active {record : FlowRecord} (h : record.isActive = true) :
    compiler.respondForRecord (some record) context =
      compiler.respond (some (.record record)) context := by
  rw [respondForRecord, Option.filter_some_pos h, Option.map_some]

theorem respondForRecord_of_inactive {record : FlowRecord} (h : record.isActive = false) :
    compiler.respondForRecord (some record) context = compiler.respond none context := by
  rw [respondForRecord, Option.filter_some_neg (by simp [h]), Option.map_none]

end Compiler

/-- A text makes the flow of its value, or fails as it does, and so does the text stored as a value,
unless that would take a second decoding. Whatever hands the definition in, calls and digits are
answered alike, also for the record of an active flow; one that is not active is answered as no flow
is. -/
theorem handedIn_alike {text : String} {v : Value} (h : Value.ofText text = .ok v) :
    Flow.ofText text = Flow.ofValue v ∧
    (¬ v.IsText → Flow.ofValue (.string text) = Flow.ofValue v) ∧
    (v.IsText → Flow.ofValue (.string text) = .error (.notObject "a string")) ∧
    ∀ (compiler : Compiler) (context : CallContext),
      (∀ source, HandsIn text v source →
        compiler.respond (some source) context = compiler.respond (some (.value v)) context ∧
        ∀ id digits, compiler.respondToInput source id digits context =
          compiler.respondToInput (.value v) id digits context) ∧
      (∀ record, HandsIn text v (.record record) → record.isActive = true →
        compiler.respondForRecord (some record) context =
          compiler.respond (some (.value v)) context) ∧
      ∀ record, record.isActive = false →
        compiler.respondForRecord (some record) context = compiler.respond none context := by
  refine ⟨Flow.ofText_eq_ofValue h, Flow.ofValue_encoded h, Flow.ofValue_encoded_text h, ?_⟩
  intro compiler context
  refine ⟨?_, ?_, ?_⟩
  · intro source hsource
    have hflow := hsource.flow_eq h
    exact ⟨compiler.respond_congr context hflow, compiler.respondToInput_congr context hflow⟩
  · intro record hrecord hactive
    rw [compiler.respondForRecord_of_active context hactive]
    exact compiler.respond_congr context (hrecord.flow_eq h)
  · intro record hactive
    exact compiler.respondForRecord_of_inactive context hactive

def deskText : String :=
  "\x7b\"blocks\": [\x7b\"id\": \"ask\", \"type\": \"gather\", " ++
    "\"config\": \x7b\"prompt\": \"Room?\"\x7d\x7d]\x7d"

def deskScript : Script where
  format := .graph
  entry := some "ask"
  verbs := [
    .gather ⟨1, 10, .gather "ask", some ⟨"Room?", "alice", "en-US", none⟩⟩,
    .say ⟨"We didn't receive any input. Goodbye!", "alice", "en-US", none⟩,
    .hangup]
  trace := [⟨"ask", .gather, 3⟩]
  stop := .awaitingInput "ask"

def deskRecord (isActive : Bool) (definition : Value) : FlowRecord :=
  ⟨"1", "desk", 3, "+15550199", isActive, definition⟩

theorem handedIn_alike_desk :
    let desk := Compiler.ofOptions {}
    (∃ v, Value.ofText deskText = .ok v ∧ ¬ v.IsText ∧
      Flow.ofValue (.string deskText) = Flow.ofText deskText ∧
      (desk.respond (some (.value (.string deskText))) sampleCall).script = some deskScript ∧
      (desk.respondToInput (.value (.string deskText)) "ask" "1" sampleCall).outcome = .ended ∧
      (desk.respondForRecord (some (deskRecord true (.string deskText))) sampleCall).script =
        some deskScript ∧
      (desk.respondForRecord (some (deskRecord false v)) sampleCall).outcome = .defaultGreeting) ∧
    Value.ofText "\"\x7b\x7d\"" = .ok (.string "\x7b\x7d") ∧
    Flow.ofValue (.string "\"\x7b\x7d\"") = .error (.notObject "a string") := by
  intro desk
  have hread : (Value.ofText deskText).toOption.map Value.kind = some "an object" := by
    decide +kernel
  obtain ⟨v, hv, hkind⟩ := Option.map_eq_some_iff.mp hread
  have hdesk : Value.ofText deskText = .ok v := by
    cases hresult : Value.ofText deskText with
    | error e =>
      rw [hresult] at hv
      cases hv
    | ok w =>
      rw [hresult] at hv
      rw [Option.some.inj hv]
  have hnot : ¬ v.IsText := by
    rintro ⟨s, rfl⟩
    simp [Value.kind] at hkind
  obtain ⟨htext, hencoded, -, hanswers⟩ := handedIn_alike hdesk
  obtain ⟨hsources, hactive, hinactive⟩ := hanswers desk sampleCall
  have hsame := hsources _ .text
  have hstored := hsources _ (.encoded hnot)
  have hscript : (desk.respond (some (.value v)) sampleCall).script = some deskScript := by
    rw [← hsame.1]
    decide +kernel
  have hquoted : Value.ofText "\"\x7b\x7d\"" = .ok (.string "\x7b\x7d") := by
    with_unfolding_all rfl
  refine ⟨⟨v, hdesk, hnot, (hencoded hnot).trans htext.symm, ?_, ?_, ?_, ?_⟩, hquoted,
    (handedIn_alike hquoted).2.2.1 ⟨_, rfl⟩⟩
  · rw [hstored.1, hscript]
  · rw [hstored.2, ← hsame.2]
    decide +kernel
  · rw [hactive (deskRecord true (.string deskText)) (.encodedRecord hnot rfl) rfl, hscript]
  · rw [hinactive (deskRecord false v) rfl]
    rfl

end CallFlow
