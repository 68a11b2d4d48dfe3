import CallFlow.Json.Table
import CallFlow.Proofs.Json.Printed
import CallFlow.Proofs.Json.Record

/-!
# Forms that read what is written

A form reads a value as something if it takes the value for it, its names in order, and every text of
the value as well. That passes from the parts to the whole: scalars, lists, choices and records are
read as long as what they hold is read. Such values can be printed, and what was printed is read
again.
-/

namespace CallFlow.Json
set_option autoImplicit false

variable {α β σ : Type} {form : Form α} {depth : Nat} {v : Value} {a : α}
variable {s t rest : List Char} {name : String}

/-- The value, with its names in order, and all its texts are read as the same. -/
structure Form.Reads (form : Form α) (depth : Nat) (v : Value) (a : α) : Prop where
  printable : v.Printable depth
  ofValue : form.ofValue v.inOrder = .ok a
  ofText : ∀ t, Writes v t → Takes (form.ofText depth) t a

/-! Scalars. -/

theorem reads_scalar {read : Head → Except Mismatch α} (hprintable : v.Printable depth)
    (hscalar : v.head.IsScalar) (hread : read v.head = .ok a) :
    (Form.scalar read).Reads depth v a where
  printable := hprintable
  ofValue := by
    change read v.inOrder.head = .ok a
    rw [Value.head_inOrder, hread]
  ofText _ ht := (ht.takes_readHead hscalar).checked hread

theorem reads_string (s : String) : Form.string.Reads depth (.string s) s :=
  reads_scalar (.string s) (Head.isScalar_string s) rfl

theorem reads_bool (b : Bool) : Form.bool.Reads depth (.bool b) b :=
  reads_scalar (.bool b) ⟨nofun, nofun⟩ rfl

theorem asBounded_natCast {n bound : Nat} (wanted : Kind) (h : n < bound) :
    (Head.number (.int n)).asBounded wanted bound = .ok n := by
  rw [Head.asBounded, if_pos ⟨Int.natCast_nonneg n, Int.ofNat_lt.mpr h⟩, Int.toNat_natCast]

theorem reads_word32 (n : UInt32) : Form.word32.Reads depth (.number (.int n.toNat)) n := by
  refine reads_scalar (.number ⟨n.toNat, rfl, ?_⟩) ⟨nofun, nofun⟩ ?_
  · exact n.toNat_lt.trans (by decide)
  · rw [Value.head, Head.asWord32, asBounded_natCast .word32 n.toNat_lt, Except.map,
      UInt32.ofNat_toNat]

theorem reads_word64 (n : UInt64) : Form.word64.Reads depth (.number (.int n.toNat)) n := by
  refine reads_scalar (.number ⟨n.toNat, rfl, n.toNat_lt⟩) ⟨nofun, nofun⟩ ?_
  rw [Value.head, Head.asWord64, asBounded_natCast .word64 n.toNat_lt, Except.map,
    UInt64.ofNat_toNat]

/-! What may be null. -/

theorem reads_none : form.option.Reads depth .null none where
  printable := .null
  ofValue := rfl
  ofText t ht blanks rest hblanks hrest := by
    have hnull := (ht.takes_readHead ⟨nofun, nofun⟩).map fun _ => (none : Option α)
    -- a form that may be null looks at one letter before it decides
    have hstart : (skipSpace (blanks ++ (t ++ rest))).head? = some 'n' := by
      cases ht
      rw [skipSpace_append hblanks]
      rfl
    change Gives (if _ then _ else _) none rest
    rw [if_pos hstart]
    exact hnull blanks rest hblanks hrest

theorem Writes.exists_start (h : Writes v t) (hnull : v.head ≠ .null) :
    ∃ c tail, t = c :: tail ∧ isSpace c = false ∧ c ≠ 'n' := by
  cases h with
  | null => exact absurd rfl hnull
  | bool b =>
    cases b with
    | true => exact ⟨_, _, rfl, rfl, by decide⟩
    | false => exact ⟨_, _, rfl, rfl, by decide⟩
  | @number negative _ _ _ ht _ =>
    cases negative with
    | true => exact ⟨_, _, rfl, rfl, by decide⟩
    | false =>
      obtain ⟨c, tail, rfl, hc⟩ := ht.exists_digit
      refine ⟨c, tail, rfl, not_isSpace_of_isDigit hc, ?_⟩
      rintro rfl
      cases hc
  | string => exact ⟨_, _, rfl, rfl, by decide⟩
  | array ht =>
    obtain ⟨body, -, -, rfl⟩ := ht
    exact ⟨_, _, rfl, rfl, by decide⟩
  | object ht =>
    obtain ⟨body, -, -, rfl⟩ := ht
    exact ⟨_, _, rfl, rfl, by decide⟩

namespace Form.Reads

theorem map (h : form.Reads depth v a) (f : α → β) : (form.map f).Reads depth v (f a) where
  printable := h.printable
  ofValue := by
    change (form.ofValue v.inOrder).map f = .ok (f a)
    rw [h.ofValue]
    rfl
  ofText t ht := (h.ofText t ht).map f

theorem option (h : form.Reads depth v a) (hnull : v.head ≠ .null) :
    form.option.Reads depth v (some a) where
  printable := h.printable
  ofValue := by
    have hpresent : Value.orNull form.ofValue v.inOrder = (form.ofValue v.inOrder).map some := by
      have hhead : v.inOrder.head ≠ .null := Value.head_inOrder v ▸ hnull
      cases hv : v.inOrder with
      | null => exact absurd (hv ▸ rfl) hhead
      | _ => rfl
    change Value.orNull form.ofValue v.inOrder = .ok (some a)
    rw [hpresent, h.ofValue]
    rfl
  ofText t ht blanks rest hblanks hrest := by
    obtain ⟨c, tail, rfl, hc, hn⟩ := ht.exists_start hnull
    have hstart : (skipSpace (blanks ++ (c :: tail ++ rest))).head? ≠ some 'n' := by
      rw [List.cons_append, skipSpace_append_cons hblanks hc]
      exact fun hhead => hn (Option.some.inj hhead)
    change Gives (if _ then _ else _) (some a) rest
    rw [if_neg hstart]
    exact (h.ofText _ ht).map some blanks rest hblanks hrest

theorem fieldsOnly {fields : Fields} (h : form.Reads depth (.object fields) a) :
    form.fieldsOnly.Reads depth (.object fields) a where
  printable := h.printable
  ofValue := h.ofValue
  ofText := h.ofText

end Form.Reads

/-- What may be missing is read as long as what is there is read, and is not null. -/
theorem reads_option {write : α → Value} {o : Option α}
    (h : ∀ a ∈ o, form.Reads depth (write a) a ∧ (write a).head ≠ .null) :
    form.option.Reads depth (Value.ofOption write o) o := by
  cases o with
  | none => exact reads_none
  | some a =>
    obtain ⟨hreads, hnull⟩ := h a rfl
    exact hreads.option hnull

/-! Lists. -/

theorem exists_written {γ : Type} {write : α → β} {as : List α} {pairs : List (β × γ)}
    (h : pairs.map Prod.fst = as.map write) :
    ∃ parts : List (α × γ), parts.map Prod.fst = as ∧ pairs = parts.map (Prod.map write id) := by
  induction as generalizing pairs with
  | nil => exact ⟨[], rfl, List.map_eq_nil_iff.mp h⟩
  | cons a as ih =>
    cases pairs with
    | nil => cases h
    | cons pair pairs =>
      obtain ⟨hpair, hpairs⟩ := List.cons.inj h
      obtain ⟨parts, rfl, rfl⟩ := ih hpairs
      exact ⟨(a, pair.2) :: parts, rfl, congrArg (· :: _) (Prod.ext hpair rfl)⟩

theorem reads_list {write : α → Value} {as : List α} (h : ∀ a ∈ as, form.Reads depth (write a) a) :
    form.list.Reads (depth + 1) (.array (as.map write)) as where
  printable := .array (List.forall_mem_map.mpr fun a ha => (h a ha).printable)
  ofValue := by
    change Value.asList form.ofValue (Value.array (as.map write)).inOrder = .ok as
    rw [Value.inOrder, itemsInOrder_eq_map, Value.asList]
    induction as with
    | nil => rfl
    | cons a as ih =>
      obtain ⟨ha, has⟩ := List.forall_mem_cons.mp h
      rw [List.map_cons, List.map_cons, List.mapM_cons, ha.ofValue, ih has]
      rfl
  ofText t ht blanks rest hblanks hrest := by
    generalize hitems : as.map write = items at ht
    cases ht with
    | @array pairs _ harray hpairs =>
      -- the texts of the items beside what the items were written from
      obtain ⟨parts, rfl, rfl⟩ := exists_written hitems.symm
      obtain ⟨body, hbody, hgaps, rfl⟩ := harray
      rw [List.map_map] at hbody hgaps
      have hwrites : ∀ p ∈ parts, Writes (write p.1) p.2.core := List.forall_mem_map.mp hpairs
      have hread : Gives (readItems (form.ofText depth) true (body ++ rest))
          (parts.map Prod.fst) rest :=
        gives_readItems Prod.fst Prod.snd ⟨body, hbody, rfl⟩ (List.forall_mem_map.mp hgaps)
          (fun p hp => (hwrites p hp).valueText.starts)
          fun p hp => (h p.1 (List.mem_map_of_mem hp)).ofText _ (hwrites p hp)
      exact (gives_readHead_array hblanks _).bind fun _ => gives_behind_iff.mpr hread

/-! Choices. -/

section Choices
variable {choices : List (Choice α)} {choice : Choice α}

theorem gives_takeChoiceEnd (h : skipSpace s = '\x7d' :: rest) : Gives (takeChoiceEnd s) () rest := by
  unfold takeChoiceEnd
  split
  next hnil => simp [h] at hnil
  next c tail hcons =>
    obtain ⟨rfl, rfl⟩ := List.cons.inj (h.symm.trans hcons)
    rw [if_pos rfl]
    exact gives_ok_iff.mpr ⟨rfl, rfl⟩

theorem gives_choice_alone (h : skipSpace s = '"' :: t) (hstring : Gives (takeString t) name rest)
    (hname : Choice.named choices name = .ok choice) (halone : choice.alone = .ok a) :
    Gives (Choice.ofText choices depth s) a rest := by
  unfold Choice.ofText
  split
  next hnil => simp [h] at hnil
  next c tail hcons =>
    obtain ⟨rfl, rfl⟩ := List.cons.inj (h.symm.trans hcons)
    rw [if_pos rfl, gives_behind_iff, gives_checked_iff]
    refine ⟨name, hstring, ?_⟩
    rw [hname]
    exact halone

theorem gives_choice_content {colon value tail : List Char} (h : skipSpace s = '\x7b' :: t)
    (hstring : Gives (readHead t) (.string name) colon)
    (hname : Choice.named choices name = .ok choice) (hcolon : Gives (takeColon colon) () value)
    (hcontent : Gives (choice.content.ofText depth value) a tail)
    (hclose : Gives (takeChoiceEnd tail) () rest) :
    Gives (Choice.ofText choices (depth + 1) s) a rest := by
  unfold Choice.ofText
  split
  next hnil => simp [h] at hnil
  next c t' hcons =>
    obtain ⟨rfl, rfl⟩ := List.cons.inj (h.symm.trans hcons)
    rw [if_neg (by decide), if_pos rfl]
    have hchoice : Gives (checked (readHead t) fun head =>
        head.asChoiceName >>= Choice.named choices) choice colon :=
      gives_checked_iff.mpr ⟨_, hstring, hname⟩
    refine hchoice.bind fun _ => hcolon.bind fun _ => hcontent.bind fun _ => hclose.bind fun _ => ?_
    exact gives_ok_iff.mpr ⟨rfl, rfl⟩

/-- Where an object has one field, its name is read like a value, and the brace follows the value. -/
theorem GoesOn.only {e : Entry} (h : GoesOn '\x7d' true [e.padded] s rest) (he : e.Named)
    (hname : Spells e.name.core name.toList) :
    ∃ t tail, Gives (readHead s) (.string name) t ∧
      Gives (takeColon t) () (e.value.before ++ (e.value.core ++ tail)) ∧ Stops ofNumber tail ∧
      Gives (takeChoiceEnd tail) () rest := by
  obtain ⟨lead, tail, hlead, htail, rfl⟩ := h.cons ⟨he.blanks.1, he.value.2⟩
  cases hlead with
  | first hblanks =>
    have htext : lead ++ (e.padded.core ++ (e.padded.behind ++ tail)) =
        lead ++ ('"' :: (e.name.core ++ ['"']) ++ (e.name.behind ++
          ':' :: (e.value.before ++ (e.value.core ++ (e.value.behind ++ tail))))) := by
      simp [Entry.padded]
    have hstops : Stops ofNumber (e.name.behind ++
        ':' :: (e.value.before ++ (e.value.core ++ (e.value.behind ++ tail)))) :=
      (stops_blanks he.blanks.2).append (stops_cons_iff.mpr rfl)
    rw [htext]
    have hstring := (Writes.string hname).takes_readHead (Head.isScalar_string name)
    exact ⟨_, _, hstring _ _ hblanks hstops, gives_takeColon_iff.mpr ⟨_, he.blanks.2, rfl⟩,
      htail.stops rfl, gives_takeChoiceEnd (htail.skipSpace_eq rfl)⟩

theorem reads_alone (hname : Choice.named choices name = .ok choice) (halone : choice.alone = .ok a) :
    (Choice.form choices).Reads depth (.string name) a where
  printable := .string name
  ofValue := by
    change (Choice.named choices name >>= Choice.alone) = .ok a
    rw [hname]
    exact halone
  ofText t ht blanks rest hblanks hrest := by
    cases ht with
    | @string _ body hbody =>
      have htext : '"' :: (body ++ ['"']) ++ rest = '"' :: (body ++ '"' :: rest) := by simp
      rw [htext]
      exact gives_choice_alone (skipSpace_append_cons hblanks rfl) (gives_takeString hbody rest)
        hname halone

theorem reads_content (hname : Choice.named choices name = .ok choice)
    (h : choice.content.Reads depth v a) :
    (Choice.form choices).Reads (depth + 1) (.object [(name, v)]) a where
  printable := .object (List.nodup_singleton _) (List.forall_mem_singleton.mpr h.printable)
  ofValue := by
    change (Choice.named choices name >>= fun choice => choice.content.ofValue v.inOrder) = .ok a
    rw [hname]
    exact h.ofValue
  ofText t ht blanks rest hblanks hrest := by
    generalize hfields : [(name, v)] = fields at ht
    cases ht with
    | @object pairs _ hobject hnames hvalues =>
      obtain ⟨⟨p, e⟩, rfl, rfl⟩ := List.map_eq_singleton_iff.mp hfields.symm
      obtain ⟨body, hbody, hnamed, rfl⟩ := hobject
      have he := hnamed e (List.mem_singleton_self e)
      have hgoes : GoesOn '\x7d' true [e.padded] (body ++ rest) rest := ⟨body, hbody, rfl⟩
      obtain ⟨u, tail, hstring, hcolon, hstops, hclose⟩ :=
        hgoes.only he (hnames _ (List.mem_singleton_self _))
      have hwrites := hvalues _ (List.mem_singleton_self _)
      exact gives_choice_content (skipSpace_append_cons hblanks rfl) hstring hname hcolon
        (h.ofText _ hwrites _ _ he.value.1 hstops) hclose

end Choices

/-! Records. -/

attribute [simp] Column.required Column.optional Column.many Column.text

namespace Column
variable (c : Column σ)

def slot : Slot σ := ⟨c.name, c.presence, c.form.ofValue, c.get, c.put⟩

theorem fills_member : c.member.Fills c.slot := ⟨rfl, rfl, rfl, fun _ _ => rfl⟩

theorem streams_member {a : c.α} (h : c.form.Reads depth v a) : c.member.Streams depth v := by
  intro t r r' ht hread
  have hput := h.map (c.put · r)
  obtain rfl := Except.ok.inj (hput.ofValue.symm.trans hread)
  exact hput.ofText t ht

end Column

/-- The parts of a record make it up and do not touch one another. -/
structure Table.Lawful (t : Table σ) : Prop where
  distinct : (t.columns.map (·.name)).Nodup
  get_put : ∀ c ∈ t.columns, ∀ a r, c.get (c.put a r) = a
  get_put_of_ne : ∀ c ∈ t.columns, ∀ d ∈ t.columns, c.name ≠ d.name →
    ∀ a r, c.get (d.put a r) = c.get r
  ext : ∀ r r', (∀ c ∈ t.columns, c.get r = c.get r') → r = r'

theorem Shape.gets_of_writes {shape : Shape σ} {pairs : List ((String × Value) × Entry)}
    (hnames : ∀ p ∈ pairs, Spells p.2.name.core p.1.1.toList)
    (hvalues : ∀ p ∈ pairs, Writes p.1.2 p.2.value.core)
    (hknown : ∀ p ∈ pairs, ∃ f, shape.field? p.1.1 = some f) :
    shape.Gets (pairs.map Prod.snd) (pairs.map Prod.fst) := by
  induction pairs with
  | nil => exact .nil
  | cons p pairs ih =>
    obtain ⟨hname, hnames⟩ := List.forall_mem_cons.mp hnames
    obtain ⟨hvalue, hvalues⟩ := List.forall_mem_cons.mp hvalues
    obtain ⟨⟨f, hf⟩, hknown⟩ := List.forall_mem_cons.mp hknown
    exact .known hname hf hvalue (ih hnames hvalues hknown)

namespace Table.Lawful
variable {table : Table σ} {r : σ} (h : table.Lawful)
include h

theorem madeOf : table.shape.MadeOf (table.columns.map Column.slot) where
  fills := by
    rw [Table.shape, List.forall₂_map_left_iff, List.forall₂_map_right_iff, List.forall₂_same]
    exact fun c _ => c.fills_member
  distinct := by
    rw [List.map_map]
    exact h.distinct
  get_put := List.forall_mem_map.mpr h.get_put
  get_put_of_ne := List.forall_mem_map.mpr fun c hc => List.forall_mem_map.mpr fun d hd =>
    h.get_put_of_ne c hc d hd
  ext r r' hall := h.ext r r' (List.forall_mem_map.mp hall)

theorem field?_eq {c : Column σ} (hc : c ∈ table.columns) :
    table.shape.field? c.name = some c.member :=
  h.madeOf.field?_eq_some (f := c.member) (List.mem_map_of_mem hc)

theorem distinct_fields (r : σ) : Fields.Distinct (table.columns.map (·.field r)) := by
  rw [Fields.Distinct, List.map_map]
  exact h.distinct

variable (hcolumns : ∀ c ∈ table.columns, c.form.Reads depth (c.write (c.get r)) (c.get r))
include hcolumns

theorem ofFields_eq_ok {moved : Fields} (hdistinct : moved.Distinct)
    (hget : ∀ name, moved.get? name =
      (Fields.get? (table.columns.map (·.field r)) name).map Value.inOrder) :
    table.shape.ofFields moved = .ok r := by
  refine (h.madeOf.ofFields_eq_ok_iff hdistinct).mpr (List.forall_mem_map.mpr fun c hc => ?_)
  have hmem : (c.name, c.write (c.get r)) ∈ table.columns.map (·.field r) :=
    List.mem_map_of_mem (f := (·.field r)) hc
  have hname : moved.get? c.slot.name = some (c.write (c.get r)).inOrder :=
    (hget c.name).trans (congrArg _ (Fields.get?_of_mem (h.distinct_fields r) hmem))
  rw [hname]
  exact (hcolumns c hc).ofValue

theorem ofFields_inOrder :
    table.shape.ofFields (fieldsInOrder (table.columns.map (·.field r))) = .ok r := by
  rw [fieldsInOrder_eq_map]
  refine h.ofFields_eq_ok hcolumns ?_ fun name => Fields.get?_map _ _ name
  refine Fields.distinct_of_names ?_ (h.distinct_fields r)
  rw [List.map_map]
  rfl

theorem streams_fields : ∀ p ∈ table.columns.map (·.field r), ∀ f,
    table.shape.field? p.1 = some f → f.Streams depth p.2 := by
  refine List.forall_mem_map.mpr fun c hc f hf => ?_
  obtain rfl := Option.some.inj ((h.field?_eq hc).symm.trans hf)
  exact c.streams_member (hcolumns c hc)

theorem reads : table.form.Reads (depth + 1) (table.toJson r) r where
  printable := .object (h.distinct_fields r)
    (List.forall_mem_map.mpr fun c hc => (hcolumns c hc).printable)
  ofValue := by
    obtain ⟨moved, hmoved, hget⟩ := reorders_inOrder.object _ (h.distinct_fields r)
    have hdistinct : (Value.object moved).Distinct := hmoved ▸ (Value.ordered_inOrder _).distinct
    rw [Table.toJson, hmoved]
    exact h.ofFields_eq_ok hcolumns hdistinct.here hget
  -- a text is filled in as it comes, a value by the order of its names
  ofText t ht blanks rest hblanks hrest := by
    have hfill := h.ofFields_inOrder hcolumns
    have hstreams := h.streams_fields hcolumns
    rw [Table.toJson] at ht
    generalize hfields : table.columns.map (·.field r) = fields at ht hfill hstreams
    cases ht with
    | @object pairs _ hobject hnames hvalues =>
      obtain ⟨body, hbody, hnamed, rfl⟩ := hobject
      have hgets : table.shape.Gets (pairs.map Prod.snd) (pairs.map Prod.fst) := by
        refine Shape.gets_of_writes hnames hvalues fun p hp => ?_
        obtain ⟨c, hc, hfield⟩ := List.mem_map.mp (hfields ▸ List.mem_map_of_mem hp)
        exact ⟨c.member, hfield ▸ h.field?_eq hc⟩
      have hentries : ∀ e ∈ pairs.map Prod.snd, e.Named ∧ ValueText e.value.core :=
        List.forall_mem_map.mpr fun p hp =>
          ⟨hnamed p.2 (List.mem_map_of_mem hp), (hvalues p hp).valueText⟩
      exact (Shape.gives_read_object_iff hblanks).mpr
        (Shape.gives_readFields hgets hstreams hfill hentries ⟨body, hbody, rfl⟩)

end Table.Lawful

/-! Whole texts. -/

def Value.HasText (v : Value) (text : String) : Prop :=
  ∃ p : Padded, p.InBlanks ∧ Writes v p.core ∧ text.toList = p.text

theorem Value.Printable.hasText_toText (h : v.Printable depth) : v.HasText v.toText := by
  refine ⟨⟨[], v.text, []⟩, ⟨blanks_nil, blanks_nil⟩, h.writes, ?_⟩
  rw [Value.toText, String.toList_ofList, Padded.text, List.append_nil, List.nil_append]

theorem Form.Reads.readText (h : form.Reads depth v a) {text : String} (htext : v.HasText text) :
    readText (form.ofText depth) text = .ok a := by
  obtain ⟨p, ⟨hbefore, hbehind⟩, hcore, heq⟩ := htext
  rw [readText_eq_ok_iff, heq]
  exact ⟨p.behind, h.ofText _ hcore _ _ hbefore (stops_blanks hbehind), hbehind⟩

end CallFlow.Json
