import CallFlow.Json.Record
import Mathlib.Data.String.Basic

/-!
# Values with their names in order

An object of a JSON document has its names in ascending order, each once, however its text lists
them. `Value.Ordered` says so of a value all the way down, and every value that is read from a text
is of this kind. `Value.Distinct` only asks that no name comes twice, as in a record that is written
field by field. `Value.inOrder` puts the names of any value in their order; it changes nothing where
they are in order already, and what a name stands for stays the same.
-/

namespace CallFlow.Json
set_option autoImplicit false

def Fields.Ascending (fields : Fields) : Prop := (fields.map Prod.fst).Pairwise (· < ·)

def Fields.Distinct (fields : Fields) : Prop := (fields.map Prod.fst).Nodup

instance : DecidablePred Fields.Ascending :=
  fun fields => inferInstanceAs (Decidable ((fields.map Prod.fst).Pairwise (· < ·)))

instance : DecidablePred Fields.Distinct :=
  fun fields => inferInstanceAs (Decidable (fields.map Prod.fst).Nodup)

/-- The objects in a value, all the way down, have fields of a kind. -/
inductive Value.Throughout (P : Fields → Prop) : Value → Prop
  | null : Throughout P .null
  | bool (b : Bool) : Throughout P (.bool b)
  | number (n : Number) : Throughout P (.number n)
  | string (s : String) : Throughout P (.string s)
  | array {items : List Value} : (∀ v ∈ items, v.Throughout P) → Throughout P (.array items)
  | object {fields : Fields} : P fields → (∀ p ∈ fields, p.2.Throughout P) →
      Throughout P (.object fields)

abbrev Value.Ordered : Value → Prop := Throughout Fields.Ascending

abbrev Value.Distinct : Value → Prop := Throughout Fields.Distinct

mutual

/-- The same value with the names of every object in ascending order. -/
def Value.inOrder : Value → Value
  | .array items => .array (itemsInOrder items)
  | .object fields => .object (Fields.ofList (fieldsInOrder fields))
  | .null => .null
  | .bool b => .bool b
  | .number n => .number n
  | .string s => .string s

def itemsInOrder : List Value → List Value
  | [] => []
  | v :: items => v.inOrder :: itemsInOrder items

def fieldsInOrder : List (String × Value) → List (String × Value)
  | [] => []
  | (name, v) :: fields => (name, v.inOrder) :: fieldsInOrder fields

end

section Lookup

variable {α : Type} {entries : List (String × α)} {name : String} {a : α}

theorem mem_of_lookup (h : entries.lookup name = some a) : (name, a) ∈ entries := by
  obtain ⟨before, after, rfl, -⟩ := List.lookup_eq_some_iff.mp h
  exact List.mem_append_right before List.mem_cons_self

theorem lookup_of_mem (hnodup : (entries.map Prod.fst).Nodup) (h : (name, a) ∈ entries) :
    entries.lookup name = some a := by
  induction entries with
  | nil => cases h
  | cons entry entries ih =>
    obtain ⟨other, b⟩ := entry
    obtain ⟨hother, hentries⟩ := List.nodup_cons.mp hnodup
    rw [List.lookup_cons]
    rcases List.mem_cons.mp h with heq | hmem
    · cases heq
      rw [beq_self_eq_true]
    · have hne : name ≠ other := by
        rintro rfl
        exact hother (List.mem_map.mpr ⟨(name, a), hmem, rfl⟩)
      rw [beq_false_of_ne hne]
      exact ih hentries hmem

end Lookup

namespace Fields

variable {fields acc : Fields} {name other : String} {v : Value}

theorem Ascending.distinct (h : fields.Ascending) : fields.Distinct :=
  h.imp fun hlt => ne_of_lt hlt

theorem distinct_of_names {names : List String} (h : fields.map Prod.fst = names)
    (hnames : names.Nodup) : fields.Distinct := by
  rwa [Distinct, h]

theorem mem_of_get? (h : fields.get? name = some v) : (name, v) ∈ fields := mem_of_lookup h

theorem get?_cons_self : get? ((name, v) :: fields) name = some v := by
  rw [get?, List.lookup_cons_self]

theorem get?_cons_of_ne (h : other ≠ name) :
    get? ((name, v) :: fields) other = fields.get? other := by
  rw [get?, List.lookup_cons, beq_false_of_ne h]
  rfl

theorem get?_eq_none (h : name ∉ fields.map Prod.fst) : fields.get? name = none := by
  cases hget : fields.get? name with
  | none => rfl
  | some v => exact absurd (List.mem_map_of_mem (mem_of_get? hget)) h

theorem get?_of_mem (hfields : fields.Distinct) (h : (name, v) ∈ fields) :
    fields.get? name = some v :=
  lookup_of_mem hfields h

/-! Putting a field in its place. -/

theorem mem_insert {p : String × Value} (h : p ∈ insert name v fields) :
    p = (name, v) ∨ p ∈ fields := by
  induction fields with
  | nil => exact .inl (List.mem_singleton.mp h)
  | cons field fields ih =>
    obtain ⟨key, w⟩ := field
    rw [insert] at h
    split at h
    · exact List.mem_cons.mp h
    · split at h
      · exact (List.mem_cons.mp h).imp_right (List.mem_cons_of_mem _)
      · rcases List.mem_cons.mp h with rfl | h
        · exact .inr List.mem_cons_self
        · exact (ih h).imp_right (List.mem_cons_of_mem _)

theorem Ascending.insert (h : fields.Ascending) : (insert name v fields).Ascending := by
  induction fields with
  | nil => exact List.pairwise_singleton _ _
  | cons field fields ih =>
    obtain ⟨key, w⟩ := field
    obtain ⟨hkey, hfields⟩ := List.pairwise_cons.mp h
    rw [Fields.insert]
    split
    next hlt =>
      refine List.pairwise_cons.mpr ⟨fun n hn => ?_, h⟩
      rcases List.mem_cons.mp hn with rfl | hn
      · exact hlt
      · exact lt_trans hlt (hkey n hn)
    next hge =>
      split
      next heq =>
        subst heq
        exact h
      next hne =>
        refine List.pairwise_cons.mpr ⟨fun n hn => ?_, ih hfields⟩
        obtain ⟨p, hp, rfl⟩ := List.mem_map.mp hn
        rcases mem_insert hp with rfl | hp
        · exact lt_of_le_of_ne (not_lt.mp hge) (Ne.symm hne)
        · exact hkey _ (List.mem_map_of_mem hp)

theorem get?_insert :
    (insert name v fields).get? other = if other = name then some v else fields.get? other := by
  induction fields with
  | nil =>
    split
    next heq => rw [heq, insert, get?_cons_self]
    next hne => rw [insert, get?_cons_of_ne hne]
  | cons field fields ih =>
    obtain ⟨key, w⟩ := field
    rw [insert]
    split
    next hlt =>
      split
      next heq => rw [heq, get?_cons_self]
      next hne => rw [get?_cons_of_ne hne]
    next hge =>
      split
      next hkey =>
        subst hkey
        split
        next heq => rw [heq, get?_cons_self]
        next hne => rw [get?_cons_of_ne hne, get?_cons_of_ne hne]
      next hkey =>
        by_cases hother : other = key
        · subst hother
          rw [get?_cons_self, get?_cons_self, if_neg (Ne.symm hkey)]
        · rw [get?_cons_of_ne hother, get?_cons_of_ne hother, ih]

theorem insert_of_last (h : ∀ p ∈ fields, p.1 < name) :
    insert name v fields = fields ++ [(name, v)] := by
  induction fields with
  | nil => rfl
  | cons field fields ih =>
    obtain ⟨key, w⟩ := field
    obtain ⟨hkey, hfields⟩ := List.forall_mem_cons.mp h
    rw [insert, if_neg (lt_asymm hkey), if_neg (ne_of_gt hkey), ih hfields]
    rfl

/-! Putting all fields in order. -/

theorem ofList_invariant {P : Fields → Prop} (hnil : P [])
    (hinsert : ∀ (acc : Fields), P acc → ∀ p ∈ fields, P (insert p.1 p.2 acc)) :
    P (ofList fields) := by
  have hfold : ∀ (rest acc : Fields), (∀ p ∈ rest, p ∈ fields) → P acc →
      P (rest.foldl (fun acc p => insert p.1 p.2 acc) acc) := by
    intro rest
    induction rest with
    | nil => exact fun acc _ hacc => hacc
    | cons p rest ih =>
      intro acc hrest hacc
      obtain ⟨hp, hrest⟩ := List.forall_mem_cons.mp hrest
      exact ih _ hrest (hinsert acc hacc p hp)
  exact hfold fields [] (fun _ h => h) hnil

theorem ascending_ofList (fields : Fields) : (ofList fields).Ascending :=
  ofList_invariant List.Pairwise.nil fun _ hacc _ _ => hacc.insert

theorem mem_of_mem_ofList : ∀ p ∈ ofList fields, p ∈ fields := by
  refine ofList_invariant (P := fun acc => ∀ p ∈ acc, p ∈ fields) (List.forall_mem_nil _)
    fun acc hacc p hp q hq => ?_
  rcases mem_insert hq with rfl | hq
  · exact hp
  · exact hacc q hq

theorem get?_ofList (h : fields.Distinct) :
    (ofList fields).get? name = fields.get? name := by
  have hfold : ∀ (rest acc : Fields), rest.Distinct →
      (rest.foldl (fun acc p => insert p.1 p.2 acc) acc).get? name =
        (rest.get? name).or (acc.get? name) := by
    intro rest
    induction rest with
    | nil => exact fun acc _ => rfl
    | cons p rest ih =>
      intro acc hrest
      obtain ⟨key, v⟩ := p
      obtain ⟨hkey, hrest⟩ := List.nodup_cons.mp hrest
      rw [List.foldl_cons, ih _ hrest, get?_insert]
      split
      next heq => rw [heq, get?_cons_self, get?_eq_none hkey, Option.none_or, Option.some_or]
      next hne => rw [get?_cons_of_ne hne]
  rw [ofList, hfold fields [] h]
  exact Option.or_none

theorem ofList_of_ascending (h : fields.Ascending) : ofList fields = fields := by
  have hfold : ∀ (rest acc : Fields), (acc ++ rest).Ascending →
      rest.foldl (fun acc p => insert p.1 p.2 acc) acc = acc ++ rest := by
    intro rest
    induction rest with
    | nil => exact fun acc _ => (List.append_nil acc).symm
    | cons p rest ih =>
      intro acc hall
      obtain ⟨key, v⟩ := p
      have hlast : ∀ q ∈ acc, q.1 < key := by
        rw [Ascending, List.map_append, List.pairwise_append] at hall
        exact fun q hq => hall.2.2 _ (List.mem_map_of_mem hq) _ List.mem_cons_self
      rw [List.append_cons] at hall ⊢
      rw [List.foldl_cons, insert_of_last hlast, ih _ hall]
  exact hfold fields [] h

end Fields

/-! Values. -/

variable {v : Value} {fields : Fields} {items : List Value}

theorem itemsInOrder_eq_map (items : List Value) :
    itemsInOrder items = items.map Value.inOrder := by
  induction items with
  | nil => rfl
  | cons v items ih => rw [itemsInOrder, ih, List.map_cons]

theorem fieldsInOrder_eq_map (fields : Fields) :
    fieldsInOrder fields = fields.map fun p => (p.1, p.2.inOrder) := by
  induction fields with
  | nil => rfl
  | cons p fields ih => rw [fieldsInOrder, ih, List.map_cons]

namespace Value

namespace Throughout
variable {P Q : Fields → Prop}

theorem here (h : (Value.object fields).Throughout P) : P fields := by
  cases h with
  | object hfields _ => exact hfields

theorem get? (h : (Value.object fields).Throughout P) {name : String}
    (hget : fields.get? name = some v) : v.Throughout P := by
  cases h with
  | object _ hvalues => exact hvalues _ (Fields.mem_of_get? hget)

theorem mem (h : (Value.array items).Throughout P) (hv : v ∈ items) : v.Throughout P := by
  cases h with
  | array hitems => exact hitems v hv

theorem mono (hPQ : ∀ fields, P fields → Q fields) (h : v.Throughout P) : v.Throughout Q := by
  induction h with
  | null => exact .null
  | bool b => exact .bool b
  | number n => exact .number n
  | string s => exact .string s
  | array _ ih => exact .array ih
  | object hfields _ ih => exact .object (hPQ _ hfields) ih

end Throughout

theorem Ordered.distinct (h : v.Ordered) : v.Distinct := h.mono fun _ => Fields.Ascending.distinct

theorem inOrder_eq_self (h : v.Ordered) : v.inOrder = v := by
  induction h with
  | null => rfl
  | bool b => rfl
  | number n => rfl
  | string s => rfl
  | array _ ih =>
    rw [inOrder, itemsInOrder_eq_map, List.map_congr_left ih, List.map_id']
  | @object fields hascending _ ih =>
    have hsame : fieldsInOrder fields = fields := by
      rw [fieldsInOrder_eq_map]
      exact (List.map_congr_left fun p hp => by rw [ih p hp]).trans (List.map_id' fields)
    rw [inOrder, hsame, Fields.ofList_of_ascending hascending]

mutual

theorem ordered_inOrder : (v : Value) → v.inOrder.Ordered
  | .null => .null
  | .bool b => .bool b
  | .number n => .number n
  | .string s => .string s
  | .array items => .array (forall_mem_itemsInOrder items)
  | .object fields => .object (Fields.ascending_ofList _) fun p hp =>
      forall_mem_fieldsInOrder fields p (Fields.mem_of_mem_ofList p hp)

theorem forall_mem_itemsInOrder : (items : List Value) → ∀ v ∈ itemsInOrder items, v.Ordered
  | [] => nofun
  | v :: items => List.forall_mem_cons.mpr ⟨ordered_inOrder v, forall_mem_itemsInOrder items⟩

theorem forall_mem_fieldsInOrder : (fields : List (String × Value)) →
    ∀ p ∈ fieldsInOrder fields, p.2.Ordered
  | [] => nofun
  | (_, v) :: fields =>
    List.forall_mem_cons.mpr ⟨ordered_inOrder v, forall_mem_fieldsInOrder fields⟩

end

end Value

theorem Fields.get?_map (f : Value → Value) (fields : Fields) (name : String) :
    Fields.get? (fields.map fun p => (p.1, f p.2)) name = (fields.get? name).map f := by
  induction fields with
  | nil => rfl
  | cons p fields ih =>
    obtain ⟨key, v⟩ := p
    rw [List.map_cons]
    by_cases hname : name = key
    · subst hname
      rw [get?_cons_self, get?_cons_self, Option.map_some]
    · rw [get?_cons_of_ne hname, get?_cons_of_ne hname, ih]

/-! Changes of order. -/

/-- The names of objects may move, and that is all. -/
structure Reorders (f : Value → Value) : Prop where
  null : f .null = .null
  string : ∀ s, f (.string s) = .string s
  number : ∀ n, f (.number n) = .number n
  array : ∀ items, f (.array items) = .array (items.map f)
  object : ∀ fields : Fields, fields.Distinct →
    ∃ moved : Fields, f (.object fields) = .object moved ∧
      ∀ name, moved.get? name = (fields.get? name).map f
  ordered : ∀ v, v.Ordered → f v = v
  distinct : ∀ v, v.Distinct → (f v).Distinct

theorem reorders_id : Reorders id where
  null := rfl
  string _ := rfl
  number _ := rfl
  array items := by rw [List.map_id, id]
  object fields _ := ⟨fields, rfl, fun _ => (congrFun Option.map_id _).symm⟩
  ordered _ _ := rfl
  distinct _ h := h

theorem reorders_inOrder : Reorders Value.inOrder where
  null := rfl
  string _ := rfl
  number _ := rfl
  array items := by rw [Value.inOrder, itemsInOrder_eq_map]
  object fields hnames := by
    refine ⟨_, rfl, fun name => ?_⟩
    have hsame : (fieldsInOrder fields).map Prod.fst = fields.map Prod.fst := by
      rw [fieldsInOrder_eq_map, List.map_map]
      rfl
    rw [Fields.get?_ofList (Fields.distinct_of_names hsame hnames), fieldsInOrder_eq_map,
      Fields.get?_map]
  ordered _ := Value.inOrder_eq_self
  distinct v _ := v.ordered_inOrder.distinct

/-! Texts. -/

section Reading
variable {α : Type} {P : α → Prop} {reader : Reader α}
variable (hreader : ∀ s x, reader s = .ok x → P x.value)
include hreader

theorem forall_mem_readItems (first : Bool) (s : List Char) {x : Taken (List α) s.length}
    (h : readItems reader first s = .ok x) : ∀ a ∈ x.value, P a := by
  fun_induction readItems reader first s with
  | case1 first s e hnext => cases h
  | case2 first s rest hrest hnext =>
    cases h
    nofun
  | case3 first s rest hrest hnext e hitem => cases h
  | case4 first s rest hrest hnext value tail ht hitem ih =>
    cases hread : readItems reader false tail with
    | error e =>
      rw [hread] at h
      cases h
    | ok y =>
      rw [hread] at h
      cases h
      exact List.forall_mem_cons.mpr ⟨hreader rest _ hitem, ih hread⟩

theorem forall_mem_readFields (first : Bool) (s : List Char)
    {x : Taken (List (String × α)) s.length} (h : readFields reader first s = .ok x) :
    ∀ p ∈ x.value, P p.2 := by
  fun_induction readFields reader first s with
  | case1 => cases h
  | case2 =>
    cases h
    nofun
  | case3 => cases h
  | case4 => cases h
  | case5 first s name rest hrest hnext colon rest' hrest' hcolon value tail ht hvalue ih =>
    cases hread : readFields reader false tail with
    | error e =>
      rw [hread] at h
      cases h
    | ok y =>
      rw [hread] at h
      cases h
      exact List.forall_mem_cons.mpr ⟨hreader rest' _ hvalue, ih hread⟩

end Reading

theorem ordered_of_readValue {depth : Nat} {s : List Char} {x : Taken Value s.length}
    (h : readValue depth s = .ok x) : x.value.Ordered := by
  induction depth generalizing s with
  | zero =>
    unfold readValue at h
    split at h <;> cases h <;> constructor
  | succ depth ih =>
    unfold readValue at h
    split at h
    next => cases h
    next => cases h; constructor
    next => cases h; constructor
    next => cases h; constructor
    next => cases h; constructor
    next rest _ _ =>
      cases hread : readItems (readValue depth) true rest with
      | error e =>
        simp only [hread] at h
        cases h
      | ok y =>
        simp only [hread] at h
        cases h
        exact .array (forall_mem_readItems (fun _ _ => ih) true rest hread)
    next rest _ _ =>
      cases hread : readFields (readValue depth) true rest with
      | error e =>
        simp only [hread] at h
        cases h
      | ok y =>
        simp only [hread] at h
        cases h
        have hvalues := forall_mem_readFields (fun _ _ => ih) true rest hread
        exact .object (Fields.ascending_ofList _) fun p hp =>
          hvalues p (Fields.mem_of_mem_ofList p hp)

/-- The names in a text may be in any order; those of its value are in ascending order. -/
theorem Value.ordered_of_ofText {text : String} (h : Value.ofText text = .ok v) : v.Ordered := by
  rw [Value.ofText, readText] at h
  cases hread : readValue maxNesting text.toList with
  | error e =>
    rw [hread] at h
    cases h
  | ok x =>
    rw [hread] at h
    dsimp only [bind, Except.bind] at h
    split at h
    · cases h
      exact ordered_of_readValue hread
    · cases h

end CallFlow.Json
