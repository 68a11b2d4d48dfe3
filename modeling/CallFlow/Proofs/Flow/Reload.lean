import CallFlow.Proofs.Flow.Format

/-!
# Saving what was loaded

A flow that was loaded is written as a definition of the strict kind: every part is there, and is of
the kind that is wanted. Such a definition is read as the flow that it was written for, in whatever
order the names of its objects come.
-/

namespace CallFlow
set_option autoImplicit false

open Json (Fields Number Parts Reorders Value)
open Stored

def LegacyFlow.toFields (f : LegacyFlow) : Fields := [
  ("greeting", orNull .string f.greeting),
  ("menu", orNull LegacyMenu.toJson f.menu),
  ("voicemail", orNull LegacyVoicemail.toJson f.voicemail),
  ("forward", orNull LegacyForward.toJson f.forward)]

theorem LegacyFlow.toJson_eq (f : LegacyFlow) : f.toJson = .object f.toFields := rfl

variable {w : Value → Value} (hw : Reorders w)
include hw

/-! What is written stands for what it was written for. -/

section Parts
variable {α : Type} {R : Value → α → Prop}

theorem optional_orNull {write : α → Value} {o : Option α}
    (h : ∀ a, o = some a → R (w (write a)) a) : Optional R (some (w (orNull write o))) o := by
  cases o with
  | none => exact hw.null ▸ .null
  | some a => exact .present (h a rfl)

theorem textOrNumber_string (s : String) : TextOrNumber (w (.string s)) s := by
  rw [hw.string]
  exact .text s

theorem text_string (s : String) : Text (w (.string s)) s := by
  rw [hw.string]
  exact .text s

theorem texts_strings (texts : List String) : Texts (w (.array (texts.map .string))) texts := by
  have hsame : (texts.map Value.string).map w = texts.map .string := by
    rw [List.map_map]
    exact List.map_congr_left fun s _ => hw.string s
  rw [hw.array, hsame]
  exact .list texts

theorem object_ordered {fields : Fields} (h : (Value.object fields).Ordered) :
    Object (w (.object fields)) fields := by
  rw [hw.ordered _ h]
  exact .object fields

theorem real_number (x : Binary64) : Real (w (.number (.real x))) x := by
  rw [hw.number]
  exact .number rfl

end Parts

theorem record_object {α : Type} {names : List String} {R : Fields → α → Prop} {a : α}
    {fields : Fields} (hnames : fields.map Prod.fst = names) (hdistinct : names.Nodup)
    (h : ∀ parts : Fields, (∀ name, parts.get? name = (fields.get? name).map w) → R parts a) :
    Record names R (w (.object fields)) a := by
  obtain ⟨moved, hmoved, hget⟩ := hw.object fields (Fields.distinct_of_names hnames hdistinct)
  rw [hmoved]
  exact ⟨moved, .object moved, h moved hget⟩

theorem Position.storedAs_toJson (p : Position) : Position.StoredAs (w p.toJson) p := by
  refine record_object hw rfl (by decide) fun parts hget => ⟨?_, ?_⟩
  · rw [hget]
    exact .present (real_number hw p.x)
  · rw [hget]
    exact .present (real_number hw p.y)

theorem Block.storedAs_toJson (b : Block) (hconfig : (Value.object b.config).Ordered) :
    Block.StoredAs (w b.toJson) b := by
  refine record_object hw rfl (by decide) fun parts hget => ⟨?_, ?_, ?_, ?_, ?_⟩
  · rw [hget]
    exact .present (text_string hw b.id)
  · rw [hget]
    exact .present (text_string hw b.kindName)
  · rw [hget]
    exact ⟨some b.config, .present (object_ordered hw hconfig), rfl⟩
  · rw [hget]
    exact ⟨some b.connections, .present (texts_strings hw b.connections), rfl⟩
  · rw [hget]
    exact optional_orNull hw fun p _ => p.storedAs_toJson hw

theorem LegacyMenu.storedAs_toJson (m : LegacyMenu) (hoptions : m.options.Ordered) :
    LegacyMenu.StoredAs (w m.toJson) m := by
  refine record_object hw rfl (by decide) fun parts hget => ⟨?_, ?_, ?_⟩
  · rw [hget]
    exact optional_orNull hw fun s _ => textOrNumber_string hw s
  · rw [hget]
    exact (hw.ordered _ hoptions).symm
  · rw [hget]
    exact optional_orNull hw fun s _ => text_string hw s

theorem LegacyVoicemail.storedAs_toJson (m : LegacyVoicemail) :
    LegacyVoicemail.StoredAs (w m.toJson) m := by
  refine record_object hw rfl (by decide) fun parts hget => ⟨?_, ?_⟩
  · rw [hget]
    exact optional_orNull hw fun s _ => textOrNumber_string hw s
  · rw [hget]
    exact optional_orNull hw fun s _ => text_string hw s

theorem LegacyForward.storedAs_toJson (f : LegacyForward) :
    LegacyForward.StoredAs (w f.toJson) f := by
  refine record_object hw rfl (by decide) fun parts hget => ⟨?_⟩
  rw [hget]
  exact optional_orNull hw fun s _ => textOrNumber_string hw s

theorem LegacyFlow.in_toFields {f : LegacyFlow}
    (hoptions : ∀ m, f.menu = some m → m.options.Ordered) {parts : Fields}
    (hget : ∀ name, parts.get? name = (f.toFields.get? name).map w) : LegacyFlow.In parts f := by
  refine ⟨?_, ?_, ?_, ?_⟩
  · rw [hget]
    exact optional_orNull hw fun s _ => textOrNumber_string hw s
  · rw [hget]
    exact optional_orNull hw fun m hm => m.storedAs_toJson hw (hoptions m hm)
  · rw [hget]
    exact optional_orNull hw fun m _ => m.storedAs_toJson hw
  · rw [hget]
    exact optional_orNull hw fun g _ => g.storedAs_toJson hw

omit hw

/-! No name is written twice. -/

theorem distinct_orNull {α : Type} {write : α → Value} {o : Option α}
    (h : ∀ a, o = some a → (write a).Distinct) : (orNull write o).Distinct := by
  cases o with
  | none => exact .null
  | some a => exact h a rfl

theorem distinct_orNull_string (o : Option String) : (orNull .string o).Distinct :=
  distinct_orNull fun s _ => .string s

theorem distinct_object (names : List String) {fields : Fields}
    (hnames : fields.map Prod.fst = names) (hdistinct : names.Nodup)
    (h : ∀ v ∈ fields.map Prod.snd, v.Distinct) : (Value.object fields).Distinct :=
  .object (Fields.distinct_of_names hnames hdistinct) fun _ hp => h _ (List.mem_map_of_mem hp)

theorem Position.distinct_toJson (p : Position) : p.toJson.Distinct := by
  refine distinct_object Position.names rfl (by decide) ?_
  simp [Value.Throughout.number]

theorem Block.distinct_toJson {b : Block} (hconfig : (Value.object b.config).Ordered) :
    b.toJson.Distinct := by
  have hconnections : (Value.array (b.connections.map .string)).Distinct :=
    .array (List.forall_mem_map.mpr fun s _ => .string s)
  have hposition : (orNull Position.toJson b.position).Distinct :=
    distinct_orNull fun p _ => p.distinct_toJson
  refine distinct_object Block.names rfl (by decide) ?_
  simp [Value.Throughout.string, hconfig.distinct, hconnections, hposition]

theorem LegacyMenu.distinct_toJson {m : LegacyMenu} (hoptions : m.options.Ordered) :
    m.toJson.Distinct := by
  refine distinct_object LegacyMenu.names rfl (by decide) ?_
  simp [distinct_orNull_string, hoptions.distinct]

theorem LegacyVoicemail.distinct_toJson (m : LegacyVoicemail) : m.toJson.Distinct := by
  refine distinct_object LegacyVoicemail.names rfl (by decide) ?_
  simp [distinct_orNull_string]

theorem LegacyForward.distinct_toJson (f : LegacyForward) : f.toJson.Distinct := by
  refine distinct_object LegacyForward.names rfl (by decide) ?_
  simp [distinct_orNull_string]

theorem LegacyFlow.distinct_toJson {f : LegacyFlow}
    (hoptions : ∀ m, f.menu = some m → m.options.Ordered) : f.toJson.Distinct := by
  have hmenu : (orNull LegacyMenu.toJson f.menu).Distinct :=
    distinct_orNull fun m hm => LegacyMenu.distinct_toJson (hoptions m hm)
  have hvoicemail : (orNull LegacyVoicemail.toJson f.voicemail).Distinct :=
    distinct_orNull fun m _ => m.distinct_toJson
  have hforward : (orNull LegacyForward.toJson f.forward).Distinct :=
    distinct_orNull fun g _ => g.distinct_toJson
  refine distinct_object ["greeting", "menu", "voicemail", "forward"] rfl (by decide) ?_
  simp [distinct_orNull_string, hmenu, hvoicemail, hforward]

/-! Flows that can be loaded again. -/

namespace Flow

/-- The values that a flow holds on to are in order, and a graph has blocks. -/
inductive Settled : Flow → Prop
  | graph {blocks : List Block} : blocks ≠ [] →
      (∀ b ∈ blocks, (Value.object b.config).Ordered) → Settled (.graph blocks)
  | legacy {flow : LegacyFlow} : (∀ m, flow.menu = some m → m.options.Ordered) →
      Settled (.legacy flow)

theorem Settled.distinct_toJson {f : Flow} (h : f.Settled) : f.toJson.Distinct := by
  cases h with
  | @graph blocks _ hconfigs =>
    have hblocks : (Value.array (blocks.map Block.toJson)).Distinct :=
      .array (List.forall_mem_map.mpr fun b hb => Block.distinct_toJson (hconfigs b hb))
    exact distinct_object ["blocks"] rfl (by decide) (List.forall_mem_singleton.mpr hblocks)
  | legacy hoptions => exact LegacyFlow.distinct_toJson hoptions

/-- What is written for a settled flow is read as this flow, in any order of the names. -/
theorem Settled.ofValue_toJson (hw : Reorders w) {f : Flow} (h : f.Settled) :
    ofValue (w f.toJson) = .ok f := by
  have hdistinct := hw.distinct _ h.distinct_toJson
  cases h with
  | @graph blocks hne hconfigs =>
    obtain ⟨moved, hmoved, hget⟩ :=
      hw.object [("blocks", .array (blocks.map Block.toJson))] (List.nodup_singleton _)
    have hblocks : moved.get? "blocks" = some (.array (blocks.map fun b => w b.toJson)) := by
      rw [hget, Fields.get?_cons_self, Option.map_some, hw.array, List.map_map]
      rfl
    rw [toJson, hmoved] at hdistinct ⊢
    refine (ofFields_eq_graph_iff hdistinct).mpr ⟨_, hblocks, by simpa using hne, ?_⟩
    rw [List.forall₂_map_left_iff, List.forall₂_same]
    exact fun b hb => b.storedAs_toJson hw (hconfigs b hb)
  | @legacy flow hoptions =>
    have hnames : flow.toFields.map Prod.fst = ["greeting", "menu", "voicemail", "forward"] := rfl
    obtain ⟨moved, hmoved, hget⟩ :=
      hw.object flow.toFields (Fields.distinct_of_names hnames (by decide))
    have hblocks : moved.get? "blocks" = none := hget "blocks"
    rw [toJson, LegacyFlow.toJson_eq, hmoved] at hdistinct ⊢
    exact (ofFields_eq_legacy_iff hdistinct).mpr
      ⟨hblocks ▸ .absent, LegacyFlow.in_toFields hw hoptions hget⟩

end Flow

/-! Flows that were loaded. -/

theorem Block.StoredAs.ordered_config {v : Value} {b : Block} (h : Block.StoredAs v b)
    (hv : v.Ordered) : (Value.object b.config).Ordered := by
  have hnil : (Value.object []).Ordered := .object List.Pairwise.nil (List.forall_mem_nil _)
  obtain ⟨parts, hparts, hin⟩ := h
  obtain ⟨o, ho, hconfig⟩ := hin.config
  rw [hconfig]
  generalize hget : parts.get? "config" = stored at ho
  cases ho with
  | absent => exact hnil
  | null => exact hnil
  | present hobject =>
    cases hobject
    exact hparts.throughout hv hget

theorem LegacyMenu.StoredAs.ordered_options {v : Value} {m : LegacyMenu}
    (h : LegacyMenu.StoredAs v m) (hv : v.Ordered) : m.options.Ordered := by
  obtain ⟨parts, hparts, hin⟩ := h
  rw [hin.options]
  cases hget : parts.get? "options" with
  | none => exact .null
  | some options => exact hparts.throughout hv hget

namespace Flow

variable {v : Value} {fields : Fields} {f : Flow}

theorem settled_of_ofFields (hv : (Value.object fields).Ordered) (h : ofFields fields = .ok f) :
    f.Settled := by
  cases f with
  | graph blocks =>
    obtain ⟨items, hget, hitems, hstored⟩ := (ofFields_eq_graph_iff hv.distinct).mp h
    refine .graph ?_ fun b hb => ?_
    · rintro rfl
      exact hitems (List.forall₂_nil_right_iff.mp hstored)
    · obtain ⟨item, hitem, hb⟩ := Json.exists_of_mem_forall₂ hstored.flip hb
      exact Block.StoredAs.ordered_config hb ((hv.get? hget).mem hitem)
  | legacy flow =>
    obtain ⟨-, hin⟩ := (ofFields_eq_legacy_iff hv.distinct).mp h
    refine .legacy fun m hm => ?_
    have hmenu := hin.menu
    rw [hm] at hmenu
    generalize hget : fields.get? "menu" = stored at hmenu
    cases hmenu with
    | present hstored => exact hstored.ordered_options (hv.get? hget)

theorem settled_of_ofObject (hv : v.Ordered) (h : ofObject v = .ok f) : f.Settled := by
  cases v with
  | object fields => exact settled_of_ofFields hv h
  | _ => cases h

theorem settled_of_ofValue (hv : v.Ordered) (h : ofValue v = .ok f) : f.Settled := by
  cases v with
  | object fields => exact settled_of_ofFields hv h
  | string text =>
    rw [ofValue, parseText] at h
    cases hinner : Value.ofText text with
    | error cause =>
      rw [hinner] at h
      cases h
    | ok inner =>
      rw [hinner] at h
      exact settled_of_ofObject (Value.ordered_of_ofText hinner) h
  | _ => cases h

/-- A flow that was loaded from anything is loaded again from what is written for it, with the names
of objects as they are written or in ascending order. -/
theorem ofValue_toJson_of_ofValue (v : Value) (f : Flow) (hv : v.Ordered)
    (h : ofValue v = .ok f) :
    ofValue f.toJson = .ok f ∧ f.toJson.inOrder.Ordered ∧ ofValue f.toJson.inOrder = .ok f :=
  have hsettled := settled_of_ofValue hv h
  ⟨hsettled.ofValue_toJson Json.reorders_id, f.toJson.ordered_inOrder,
    hsettled.ofValue_toJson Json.reorders_inOrder⟩

def lenient : Value := .object [
  ("forward", .array [.number (.int 5)]), ("greeting", .number (.int 7)), ("menu", .null)]

theorem ofValue_toJson_of_ofValue_lenient :
    lenient.Ordered ∧ ofValue lenient = .ok (.legacy ⟨some "7", none, none, some ⟨some "5"⟩⟩) ∧
      ofValue (legacy ⟨some "7", none, none, some ⟨some "5"⟩⟩).toJson.inOrder =
        .ok (.legacy ⟨some "7", none, none, some ⟨some "5"⟩⟩) := by
  have hordered : lenient.Ordered := by
    refine .object (by decide) (List.forall_mem_cons.mpr ⟨.array ?_, ?_⟩)
    · exact List.forall_mem_singleton.mpr (.number _)
    · exact List.forall_mem_cons.mpr ⟨.number _, List.forall_mem_singleton.mpr .null⟩
  have hread : ofValue lenient = .ok (.legacy ⟨some "7", none, none, some ⟨some "5"⟩⟩) := rfl
  exact ⟨hordered, hread, (ofValue_toJson_of_ofValue _ _ hordered hread).2.2⟩

end Flow

end CallFlow
