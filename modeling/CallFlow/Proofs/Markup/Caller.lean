import CallFlow.Markup.Document
import Mathlib.Data.List.Basic

/-!
# The call in a document

Of a call, a document shows the callback base and, where a text message is sent back, the number of
the caller. So two calls with one base get the same document as soon as those messages are addressed
alike, and without such a message every call gets the same.
-/

namespace CallFlow
set_option autoImplicit false

namespace Verb

/-- The verb with its message for the caller sent to a number. -/
def addressedTo (number : String) : Verb → Verb
  | sms ⟨.caller, body⟩ => sms ⟨.number number, body⟩
  | verb => verb

/-- A message that goes back to whoever called. -/
def RepliesToCaller (verb : Verb) : Prop := ∃ body, verb = sms ⟨.caller, body⟩

theorem addressedTo_of_not_repliesToCaller {verb : Verb} (h : ¬ verb.RepliesToCaller)
    (number : String) : verb.addressedTo number = verb := by
  unfold addressedTo
  split
  next body => exact absurd ⟨body, rfl⟩ h
  next => rfl

end Verb

namespace CallContext

variable {context context' : CallContext} (h : context.base = context'.base)
include h

/-- Callbacks are addresses below the base, whatever the call. -/
theorem callbackUrl_congr (options : Options) (callback : Callback) :
    context.callbackUrl options callback = context'.callbackUrl options callback := by
  unfold callbackUrl CallContext.callback customUrl
  rw [h]

theorem element_addressedTo (options : Options) (verb : Verb) :
    verb.element context options =
      (verb.addressedTo context.caller).element context' options := by
  have hurl := callbackUrl_congr h options
  cases verb with
  | say speech => rfl
  | pause length => rfl
  | gather g => simp only [Verb.addressedTo, Verb.element, hurl]
  | dial d => simp only [Verb.addressedTo, Verb.element, hurl]
  | play playback => rfl
  | record r => simp only [Verb.addressedTo, Verb.element, hurl]
  | sms reply =>
    obtain ⟨recipient, body⟩ := reply
    cases recipient with
    | caller => rfl
    | number n => rfl
  | hangup => rfl

theorem map_element_addressedTo (options : Options) (verbs : List Verb) :
    verbs.map (Verb.element context options) =
      (verbs.map (Verb.addressedTo context.caller)).map (Verb.element context' options) := by
  rw [List.map_map]
  exact List.map_congr_left fun verb _ => element_addressedTo h options verb

theorem renderDocument_addressedTo (options : Options) (verbs : List Verb) :
    renderDocument context options verbs =
      renderDocument context' options (verbs.map (Verb.addressedTo context.caller)) := by
  unfold renderDocument responseElement
  rw [map_element_addressedTo h, List.isEmpty_map]

theorem renderFragment_addressedTo (options : Options) (verbs : List Verb) :
    renderFragment context options verbs =
      renderFragment context' options (verbs.map (Verb.addressedTo context.caller)) := by
  unfold renderFragment
  rw [map_element_addressedTo h]

end CallContext

def renderings : List (CallContext → Options → List Verb → String) :=
  [renderDocument, renderFragment]

/-- Of two calls with one base, the first gets what the second gets for the same verbs with the
messages for the caller sent to the first one's number. So both get the same if no verb is such a
message, or if one number calls: the number called and the call's id are never seen. -/
theorem renderings_caller (context context' : CallContext) (h : context.base = context'.base)
    (options : Options) (verbs : List Verb) :
    ∀ render ∈ renderings,
      render context options verbs =
        render context' options (verbs.map (Verb.addressedTo context.caller)) ∧
      ((∀ verb ∈ verbs, ¬ verb.RepliesToCaller) →
        render context options verbs = render context' options verbs) ∧
      (context.caller = context'.caller →
        render context options verbs = render context' options verbs) := by
  intro render hrender
  have hwrites : ∀ (c c' : CallContext), c.base = c'.base →
      render c options verbs = render c' options (verbs.map (Verb.addressedTo c.caller)) := by
    intro c c' hbase
    simp only [renderings, List.mem_cons, List.not_mem_nil, or_false] at hrender
    rcases hrender with rfl | rfl
    · exact c.renderDocument_addressedTo hbase options verbs
    · exact c.renderFragment_addressedTo hbase options verbs
  refine ⟨hwrites context context' h, fun hsilent => ?_, fun hcaller => ?_⟩
  · have hsame : verbs.map (Verb.addressedTo context.caller) = verbs :=
      (List.map_congr_left fun verb hverb =>
        Verb.addressedTo_of_not_repliesToCaller (hsilent verb hverb) _).trans (List.map_id' verbs)
    rw [hwrites context context' h, hsame]
  · rw [hwrites context context' h, hcaller, ← hwrites context' context' rfl]

def frontDeskCall : CallContext where
  caller := "+15550100"
  called := "+15550190"
  callSid := "CA1"
  base := ⟨"https".toList, some ⟨[], [], .name "a.example".toList, none⟩, false,
    ["voice".toList], ⟨none, none⟩⟩

def lobbyCall : CallContext :=
  { frontDeskCall with caller := "+15550101", called := "+15550191", callSid := "CA2" }

def directions : List Verb := [.gather ⟨1, 5, .gather "desk", none⟩,
  .dial ⟨"+15550102", 20, none, .custom "../done?x=1"⟩, .record ⟨60, "#", false, .recordingStatus⟩]

/-- A message to the caller among callbacks of several kinds, and the callbacks alone. -/
theorem renderings_caller_lobby :
    renderDocument frontDeskCall {} (.sms ⟨.caller, "Turn left"⟩ :: directions) =
      renderDocument lobbyCall {} (.sms ⟨.number "+15550100", "Turn left"⟩ :: directions) ∧
    renderFragment frontDeskCall { pretty := true } directions =
      renderFragment lobbyCall { pretty := true } directions ∧
    renderDocument frontDeskCall {} [.sms ⟨.caller, "Turn left"⟩] =
      renderDocument { lobbyCall with caller := "+15550100" } {} [.sms ⟨.caller, "Turn left"⟩] := by
  have hsilent : ∀ verb ∈ directions, ¬ verb.RepliesToCaller := by
    simp [directions, Verb.RepliesToCaller]
  refine ⟨?_, ?_, ?_⟩
  · exact (renderings_caller frontDeskCall lobbyCall rfl {} _ _ List.mem_cons_self).1
  · exact (renderings_caller frontDeskCall lobbyCall rfl { pretty := true } directions _
      (List.mem_cons_of_mem _ List.mem_cons_self)).2.1 hsilent
  · exact (renderings_caller frontDeskCall { lobbyCall with caller := "+15550100" } rfl {} _ _
      List.mem_cons_self).2.2 rfl

end CallFlow
