import CallFlow.Proofs.Json.Form
import CallFlow.Proofs.Script.Bytes
import CallFlow.Script.Json

/-!
# Scripts as texts

The JSON of a script is put together from that of its parts, and each part is read where it was
written. So a script is read back from its text, two scripts do not share a text, and a text is not
changed on its way through the bytes of its script.
-/

namespace CallFlow
set_option autoImplicit false

open Json

attribute [ext] Speech Playback Gather Dial Recording TextReply TraceStep Script
attribute [simp] wordColumn

variable {depth : Nat}

/-! The fields of a choice. -/

theorem lawful_blockIdTable (name : String) : (blockIdTable name).Lawful where
  distinct := by simp [blockIdTable]
  get_put := by simp [blockIdTable]
  get_put_of_ne := by simp [blockIdTable]
  ext id id' h := by simpa [blockIdTable] using h

theorem reads_blockId (name id : String) :
    (blockIdTable name).form.Reads (depth + 1) ((blockIdTable name).toJson id) id :=
  (lawful_blockIdTable name).reads (List.forall_mem_singleton.mpr (reads_string id))

theorem lawful_connectionTable (name : String) : (connectionTable name).Lawful where
  distinct := by simp [connectionTable]
  get_put := by simp [connectionTable]
  get_put_of_ne := by simp [connectionTable]
  ext c c' h := by simpa [connectionTable, Prod.ext_iff] using h

theorem reads_connection (name id target : String) :
    (connectionTable name).form.Reads (depth + 1) ((connectionTable name).toJson (id, target))
      (id, target) :=
  (lawful_connectionTable name).reads (List.forall_mem_cons.mpr
    ⟨reads_string id, List.forall_mem_singleton.mpr (reads_string target)⟩)

/-! The parts. -/

theorem Callback.reads (callback : Callback) :
    form.Reads (depth + 2) callback.toJson callback := by
  cases callback with
  | gather id => exact reads_content rfl ((reads_blockId _ id).fieldsOnly.map Callback.gather)
  | dialStatus => exact reads_alone rfl rfl
  | recordingStatus => exact reads_alone rfl rfl
  | menu => exact reads_alone rfl rfl
  | custom target => exact reads_content rfl ((reads_string target).map Callback.custom)

theorem Recipient.reads (recipient : Recipient) :
    form.Reads (depth + 1) recipient.toJson recipient := by
  cases recipient with
  | caller => exact reads_alone rfl rfl
  | number n => exact reads_content rfl ((reads_string n).map Recipient.number)

theorem BlockKind.reads (kind : BlockKind) : form.Reads depth kind.toJson kind := by
  cases kind <;> exact reads_alone rfl rfl

theorem FlowFormat.reads (format : FlowFormat) : form.Reads depth format.toJson format := by
  cases format <;> exact reads_alone rfl rfl

theorem Speech.lawful_table : Speech.table.Lawful where
  distinct := by decide
  get_put := by simp [table]
  get_put_of_ne := by simp [table]
  ext s t h := by simpa [table, Speech.ext_iff] using h

theorem Speech.reads (s : Speech) : table.form.Reads (depth + 1) s.toJson s := by
  refine lawful_table.reads ?_
  simp only [table, List.forall_mem_cons, List.not_mem_nil, false_imp_iff, implies_true, and_true]
  exact ⟨reads_string s.text, reads_string s.voice, reads_string s.language,
    reads_option fun n _ => ⟨reads_word32 n, nofun⟩⟩

theorem Playback.lawful_table : Playback.table.Lawful where
  distinct := by decide
  get_put := by simp [table]
  get_put_of_ne := by simp [table]
  ext p q h := by simpa [table, Playback.ext_iff] using h

theorem Playback.reads (p : Playback) : table.form.Reads (depth + 1) p.toJson p := by
  refine lawful_table.reads ?_
  simp only [table, List.forall_mem_cons, List.not_mem_nil, false_imp_iff, implies_true, and_true]
  exact ⟨reads_string p.url, reads_option fun n _ => ⟨reads_word32 n, nofun⟩⟩

theorem Gather.lawful_table : Gather.table.Lawful where
  distinct := by decide
  get_put := by simp [table]
  get_put_of_ne := by simp [table]
  ext g g' h := by simpa [table, Gather.ext_iff] using h

theorem Gather.reads (g : Gather) : table.form.Reads (depth + 3) g.toJson g := by
  refine lawful_table.reads ?_
  simp only [table, List.forall_mem_cons, List.not_mem_nil, false_imp_iff, implies_true, and_true]
  exact ⟨reads_word32 g.numDigits, reads_word32 g.timeout, g.action.reads,
    reads_option fun s _ => ⟨s.reads, nofun⟩⟩

theorem Dial.lawful_table : Dial.table.Lawful where
  distinct := by decide
  get_put := by simp [table]
  get_put_of_ne := by simp [table]
  ext d d' h := by simpa [table, Dial.ext_iff] using h

theorem Dial.reads (d : Dial) : table.form.Reads (depth + 3) d.toJson d := by
  refine lawful_table.reads ?_
  simp only [table, List.forall_mem_cons, List.not_mem_nil, false_imp_iff, implies_true, and_true]
  exact ⟨reads_string d.number, reads_word32 d.timeout, reads_option fun p _ => ⟨p.reads, nofun⟩,
    d.statusCallback.reads⟩

theorem Recording.lawful_table : Recording.table.Lawful where
  distinct := by decide
  get_put := by simp [table]
  get_put_of_ne := by simp [table]
  ext r r' h := by simpa [table, Recording.ext_iff] using h

theorem Recording.reads (r : Recording) : table.form.Reads (depth + 3) r.toJson r := by
  refine lawful_table.reads ?_
  simp only [table, List.forall_mem_cons, List.not_mem_nil, false_imp_iff, implies_true, and_true]
  exact ⟨reads_word32 r.maxLength, reads_string r.finishOnKey, reads_bool r.transcribe,
    r.callback.reads⟩

theorem TextReply.lawful_table : TextReply.table.Lawful where
  distinct := by decide
  get_put := by simp [table]
  get_put_of_ne := by simp [table]
  ext t t' h := by simpa [table, TextReply.ext_iff] using h

theorem TextReply.reads (t : TextReply) : table.form.Reads (depth + 2) t.toJson t := by
  refine lawful_table.reads ?_
  simp only [table, List.forall_mem_cons, List.not_mem_nil, false_imp_iff, implies_true, and_true]
  exact ⟨t.recipient.reads, reads_string t.body⟩

theorem Verb.lawful_lengthTable : lengthTable.Lawful where
  distinct := by decide
  get_put := by simp [lengthTable]
  get_put_of_ne := by simp [lengthTable]
  ext n n' h := by simpa [lengthTable] using h

theorem Verb.reads (verb : Verb) : form.Reads (depth + 4) verb.toJson verb := by
  cases verb with
  | say speech => exact reads_content rfl (speech.reads.map Verb.say)
  | pause length =>
    have hlength : lengthTable.form.Reads (depth + 3) (lengthTable.toJson length) length :=
      lawful_lengthTable.reads (List.forall_mem_singleton.mpr (reads_word32 length))
    exact reads_content rfl (hlength.fieldsOnly.map Verb.pause)
  | gather g => exact reads_content rfl (g.reads.map Verb.gather)
  | dial d => exact reads_content rfl (d.reads.map Verb.dial)
  | play p => exact reads_content rfl (p.reads.map Verb.play)
  | record r => exact reads_content rfl (r.reads.map Verb.record)
  | sms reply => exact reads_content rfl (reply.reads.map Verb.sms)
  | hangup => exact reads_alone rfl rfl

theorem TraceStep.lawful_table : TraceStep.table.Lawful where
  distinct := by decide
  get_put := by simp [table]
  get_put_of_ne := by simp [table]
  ext t t' h := by simpa [table, TraceStep.ext_iff] using h

theorem TraceStep.reads (t : TraceStep) : table.form.Reads (depth + 1) t.toJson t := by
  refine lawful_table.reads ?_
  simp only [table, List.forall_mem_cons, List.not_mem_nil, false_imp_iff, implies_true, and_true]
  exact ⟨reads_string t.blockId, t.kind.reads, reads_word64 t.verbsEmitted⟩

theorem StopReason.reads (stop : StopReason) : form.Reads (depth + 2) stop.toJson stop := by
  cases stop with
  | emptyFlow => exact reads_alone rfl rfl
  | hangup id => exact reads_content rfl ((reads_blockId _ id).fieldsOnly.map StopReason.hangup)
  | awaitingInput id =>
    exact reads_content rfl ((reads_blockId _ id).fieldsOnly.map StopReason.awaitingInput)
  | endOfFlow id =>
    exact reads_content rfl ((reads_blockId _ id).fieldsOnly.map StopReason.endOfFlow)
  | danglingConnection id target =>
    exact reads_content rfl ((reads_connection _ id target).fieldsOnly.map _)
  | revisited id target =>
    exact reads_content rfl ((reads_connection _ id target).fieldsOnly.map _)
  | legacySequence => exact reads_alone rfl rfl

namespace Script

theorem lawful_table : Script.table.Lawful where
  distinct := by decide
  get_put := by simp [table]
  get_put_of_ne := by simp [table]
  ext s t h := by simpa [table, Script.ext_iff] using h

theorem reads (s : Script) : table.form.Reads (depth + 6) s.toJson s := by
  refine lawful_table.reads ?_
  simp only [table, List.forall_mem_cons, List.not_mem_nil, false_imp_iff, implies_true, and_true]
  exact ⟨s.format.reads, reads_option fun id _ => ⟨reads_string id, nofun⟩,
    reads_list fun verb _ => verb.reads, reads_list fun step _ => step.reads, s.stop.reads⟩

theorem reads_maxNesting (s : Script) : table.form.Reads maxNesting s.toJson s :=
  reads s

/-- A script is read from every text of its JSON, whatever the blanks and the escapes. -/
theorem ofText_of_hasText {s : Script} {text : String} (h : s.toJson.HasText text) :
    ofText text = .ok s :=
  s.reads_maxNesting.readText h

theorem ofText_toText (s : Script) : ofText s.toText = .ok s :=
  ofText_of_hasText s.reads_maxNesting.printable.hasText_toText

theorem toText_injective : Function.Injective toText := by
  intro s t h
  have hs := s.ofText_toText
  rw [h, t.ofText_toText] at hs
  exact (Except.ok.inj hs).symm

/-- What becomes of a text that is read, stored as bytes, loaded again and written. -/
def throughBytes (text : String) : Option String := do
  let s ← (ofText text).toOption
  let loaded ← (ofBytes s.toBytes).toOption
  some loaded.toText

theorem throughBytes_eq {s : Script} {text : String} (h : ofText text = .ok s)
    (hlength : s.toBytes.length < UInt64.size) : throughBytes text = some s.toText := by
  rw [throughBytes, h]
  change ((ofBytes s.toBytes).toOption >>= fun loaded => some loaded.toText) = _
  rw [ofBytes_toBytes hlength]
  rfl

/-- The text of a script is lossless. The script is read back from it, as it goes on or by way of the
value that it spells; no other script has the same text; and the text is the same after it has been
stored as the bytes of its script, if a machine can hold them. -/
theorem toText_lossless (s : Script) :
    ofText s.toText = .ok s ∧
    (∃ v, Value.ofText s.toText = .ok v ∧ ofJson v = .ok s) ∧
    (∀ t : Script, t.toText = s.toText → t = s) ∧
    (s.toBytes.length < UInt64.size → throughBytes s.toText = some s.toText) :=
  ⟨s.ofText_toText,
    ⟨s.toJson.inOrder, s.reads_maxNesting.printable.ofText_toText, s.reads_maxNesting.ofValue⟩,
    fun _ h => toText_injective h, throughBytes_eq s.ofText_toText⟩

/-- Every kind of name and choice, with what has to be escaped and what need not be. -/
def quoted : Script where
  format := .legacy
  entry := some "\"\\/\x08\x0c\n\r\t"
  verbs := [
    .say ⟨"\x00\x1f\x7f", "null", "é\u2028😀", some 4294967295⟩,
    .pause 0,
    .gather ⟨1, 0, .gather "\x7b\"block_id\":null\x7d", some ⟨"", "", "", none⟩⟩,
    .dial ⟨"+15550100", 65536, none, .custom "\\u0041"⟩,
    .record ⟨60, "#", true, .recordingStatus⟩,
    .sms ⟨.number "Caller", ","⟩,
    .sms ⟨.caller, "]"⟩,
    .hangup]
  trace := [⟨"", .gather, 18446744073709551615⟩]
  stop := .revisited "\"" "\\"

theorem toText_lossless_quoted : quoted.toBytes.length < UInt64.size ∧
    ofText quoted.toText = .ok quoted ∧
    (∃ v, Value.ofText quoted.toText = .ok v ∧ ofJson v = .ok quoted) ∧
    ({ quoted with format := .graph } : Script).toText ≠ quoted.toText ∧
    throughBytes quoted.toText = some quoted.toText := by
  have hlength : quoted.toBytes.length < UInt64.size := by cbv
  obtain ⟨htext, hvalue, honly, hthrough⟩ := toText_lossless quoted
  refine ⟨hlength, htext, hvalue, fun hsame => ?_, hthrough hlength⟩
  cases congrArg Script.format (honly _ hsame)

end Script
end CallFlow
