import CallFlow.Proofs.Binary.Delimited
import CallFlow.Script.Binary
import Mathlib

/-!
# Scripts as bytes

The form of a script is put together from those of its parts, and each part marks its own end. So a
script is read back whatever follows it, a file that breaks off is never taken for another script, and
no form begins with another one.
-/

namespace CallFlow
set_option autoImplicit false

open Binary (Bytes)
open Binary.Codec

/-! The parts. -/

theorem Callback.delimited_codec : Callback.codec.Delimited := by
  apply delimited_choice (by decide)
  intro callback hlength
  cases callback with
  | gather id => exact ⟨_, rfl, delimited_text.alternative hlength⟩
  | dialStatus => exact ⟨_, rfl, reads_constant _⟩
  | recordingStatus => exact ⟨_, rfl, reads_constant _⟩
  | menu => exact ⟨_, rfl, reads_constant _⟩
  | custom target => exact ⟨_, rfl, delimited_text.alternative hlength⟩

theorem Recipient.delimited_codec : Recipient.codec.Delimited := by
  apply delimited_choice (by decide)
  intro recipient hlength
  cases recipient with
  | caller => exact ⟨_, rfl, reads_constant _⟩
  | number n => exact ⟨_, rfl, delimited_text.alternative hlength⟩

theorem Speech.delimited_codec : Speech.codec.Delimited :=
  (delimited_text.pair (delimited_text.pair
    (delimited_text.pair delimited_word32.option))).convert fun _ => rfl

theorem Playback.delimited_codec : Playback.codec.Delimited :=
  (delimited_text.pair delimited_word32.option).convert fun _ => rfl

theorem Gather.delimited_codec : Gather.codec.Delimited :=
  (delimited_word32.pair (delimited_word32.pair
    (Callback.delimited_codec.pair Speech.delimited_codec.option))).convert fun _ => rfl

theorem Dial.delimited_codec : Dial.codec.Delimited :=
  (delimited_text.pair (delimited_word32.pair
    (Playback.delimited_codec.option.pair Callback.delimited_codec))).convert fun _ => rfl

theorem Recording.delimited_codec : Recording.codec.Delimited :=
  (delimited_word32.pair (delimited_text.pair
    (delimited_bool.pair Callback.delimited_codec))).convert fun _ => rfl

theorem TextReply.delimited_codec : TextReply.codec.Delimited :=
  (Recipient.delimited_codec.pair delimited_text).convert fun _ => rfl

theorem Verb.delimited_codec : Verb.codec.Delimited := by
  apply delimited_choice (by decide)
  intro verb hlength
  cases verb with
  | say speech => exact ⟨_, rfl, Speech.delimited_codec.alternative hlength⟩
  | pause length => exact ⟨_, rfl, delimited_word32.alternative hlength⟩
  | gather g => exact ⟨_, rfl, Gather.delimited_codec.alternative hlength⟩
  | dial d => exact ⟨_, rfl, Dial.delimited_codec.alternative hlength⟩
  | play p => exact ⟨_, rfl, Playback.delimited_codec.alternative hlength⟩
  | record r => exact ⟨_, rfl, Recording.delimited_codec.alternative hlength⟩
  | sms reply => exact ⟨_, rfl, TextReply.delimited_codec.alternative hlength⟩
  | hangup => exact ⟨_, rfl, reads_constant _⟩

theorem BlockKind.delimited_codec : BlockKind.codec.Delimited := by
  apply delimited_choice (by decide)
  intro kind _
  cases kind <;> exact ⟨_, rfl, reads_constant _⟩

theorem FlowFormat.delimited_codec : FlowFormat.codec.Delimited := by
  apply delimited_choice (by decide)
  intro format _
  cases format <;> exact ⟨_, rfl, reads_constant _⟩

theorem TraceStep.delimited_codec : TraceStep.codec.Delimited :=
  (delimited_text.pair (BlockKind.delimited_codec.pair delimited_word64)).convert fun _ => rfl

theorem StopReason.delimited_codec : StopReason.codec.Delimited := by
  apply delimited_choice (by decide)
  have hids := delimited_text.pair delimited_text
  intro stop hlength
  cases stop with
  | emptyFlow => exact ⟨_, rfl, reads_constant _⟩
  | hangup id => exact ⟨_, rfl, delimited_text.alternative hlength⟩
  | awaitingInput id => exact ⟨_, rfl, delimited_text.alternative hlength⟩
  | endOfFlow id => exact ⟨_, rfl, delimited_text.alternative hlength⟩
  | danglingConnection id target => exact ⟨_, rfl, hids.alternative hlength⟩
  | revisited id target => exact ⟨_, rfl, hids.alternative hlength⟩
  | legacySequence => exact ⟨_, rfl, reads_constant _⟩

theorem TraceStep.codec_encode_ne_nil (step : TraceStep) : TraceStep.codec.encode step ≠ [] := by
  have htext : Binary.Codec.text.encode step.blockId ≠ [] :=
    List.append_ne_nil_of_left_ne_nil (Binary.encodeNat_ne_nil _) _
  exact List.append_ne_nil_of_left_ne_nil htext _

namespace Script

theorem delimited_codec : Script.codec.Delimited :=
  (FlowFormat.delimited_codec.pair (delimited_text.option.pair
    ((Verb.delimited_codec.list (choice_encode_ne_nil _ _ _)).pair
      ((TraceStep.delimited_codec.list TraceStep.codec_encode_ne_nil).pair
        StopReason.delimited_codec)))).convert fun _ => rfl

variable {s : Script}

theorem ofBytes_append (h : s.toBytes.length < UInt64.size) (rest : Bytes) :
    ofBytes (s.toBytes ++ rest) = .ok s := by
  rw [ofBytes, toBytes, (delimited_codec s h).append rest]
  rfl

theorem ofBytes_toBytes (h : s.toBytes.length < UInt64.size) : ofBytes s.toBytes = .ok s := by
  simpa using ofBytes_append h []

theorem ofBytes_of_truncated (h : s.toBytes.length < UInt64.size) {part : Bytes}
    (hpart : part <+: s.toBytes) (hne : part ≠ s.toBytes) :
    ofBytes part = .error .unexpectedEnd := by
  rw [ofBytes, (delimited_codec s h).truncated part hpart hne]
  rfl

/-- The form of a script that a machine can hold is lossless and marks its own end. The script is read
back from its bytes and anything behind them; fewer bytes are refused for want of more; and no other
script's form is the same, or begins it. -/
theorem toBytes_selfDelimiting (s : Script) (h : s.toBytes.length < UInt64.size) :
    (∀ rest, ofBytes (s.toBytes ++ rest) = .ok s) ∧
    (∀ part, part <+: s.toBytes → part ≠ s.toBytes → ofBytes part = .error .unexpectedEnd) ∧
    ∀ t : Script, t.toBytes <+: s.toBytes → t = s := by
  refine ⟨ofBytes_append h, fun part => ofBytes_of_truncated h, fun t hprefix => ?_⟩
  have ht : ofBytes t.toBytes = .ok t :=
    ofBytes_toBytes (Nat.lt_of_le_of_lt hprefix.length_le h)
  by_cases heq : t.toBytes = s.toBytes
  · rw [heq, ofBytes_toBytes h] at ht
    exact (Except.ok.inj ht).symm
  · rw [ofBytes_of_truncated h hprefix heq] at ht
    cases ht

/-- Numbers on both sides of every change of width, texts beyond ASCII, and an id that is empty. -/
def edges : Script where
  format := .graph
  entry := some ""
  verbs := [
    .say ⟨"Grüße, 世界 😀", "alice", "de-DE", some 250⟩,
    .pause 251,
    .play ⟨"https://example.com/a.mp3", some 65535⟩,
    .dial ⟨"+15550100", 65536, some ⟨"hold.mp3", none⟩, .custom "after?a=b&c"⟩,
    .record ⟨4294967295, "#", true, .recordingStatus⟩,
    .sms ⟨.caller, "\n"⟩,
    .gather ⟨1, 0, .gather "", none⟩,
    .hangup]
  trace := [⟨"", .gather, 18446744073709551615⟩]
  stop := .awaitingInput ""

theorem toBytes_selfDelimiting_edges : edges.toBytes.length < UInt64.size ∧
    (∀ rest, ofBytes (edges.toBytes ++ rest) = .ok edges) ∧
    (∀ part, part <+: edges.toBytes → part ≠ edges.toBytes →
      ofBytes part = .error .unexpectedEnd) ∧
    ∀ t : Script, t.toBytes <+: edges.toBytes → t = edges := by
  have hlength : edges.toBytes.length < UInt64.size := by cbv
  exact ⟨hlength, toBytes_selfDelimiting edges hlength⟩

end Script
end CallFlow
