import CallFlow.Binary.Codec
import Mathlib.Algebra.Ring.Nat
import Mathlib.Tactic.SplitIfs

/-!
# Bytes that mark their own end

A decoder `Reads` some bytes as a value if it takes exactly those, whatever follows them, and if every
shorter part of them leaves it waiting for more. Decoders that follow one another keep that law, so it
is proved once for each way of combining them; `Codec.Delimited` states it of all bytes that a codec
writes.

A length is written in eight bytes at most. So nothing is said of a form of `2 ^ 64` bytes or more: a
text in it could have a length that its own prefix does not hold.
-/

namespace CallFlow.Binary
set_option autoImplicit false

variable {α β : Type} {a : α} {b : β} {u v : Bytes}

/-- These bytes are what a decoder takes for a value: all of them, and none behind them. -/
structure Reads (d : Decoder α) (bytes : Bytes) (a : α) : Prop where
  append : ∀ rest, d (bytes ++ rest) = .ok (a, rest)
  truncated : ∀ part, part <+: bytes → part ≠ bytes → d part = .error .unexpectedEnd

/-! Combining decoders. -/

theorem reads_nil {d : Decoder α} (h : ∀ rest, d rest = .ok (a, rest)) : Reads d [] a where
  append := h
  truncated _ hpart hne := absurd (List.prefix_nil.mp hpart) hne

theorem Reads.bind {d : Decoder α} {f : α → Decoder β} (hd : Reads d u a) (hf : Reads (f a) v b) :
    Reads (fun bytes => d bytes >>= fun x => f x.1 x.2) (u ++ v) b where
  append rest := by
    rw [List.append_assoc, hd.append]
    exact hf.append rest
  truncated part hpart hne := by
    -- A part of both forms ends within the first or within the second.
    rcases List.prefix_or_prefix_of_prefix hpart (List.prefix_append u v) with hfirst | hsecond
    · by_cases heq : part = u
      · subst heq
        have hmissing : [] ≠ v := by
          rintro rfl
          exact hne (List.append_nil part).symm
        have hread := hd.append []
        rw [List.append_nil] at hread
        rw [hread]
        exact hf.truncated [] List.nil_prefix hmissing
      · rw [hd.truncated part hfirst heq]
        rfl
    · obtain ⟨taken, rfl⟩ := hsecond
      have htaken : taken <+: v := (List.prefix_append_right_inj u).mp hpart
      rw [hd.append taken]
      exact hf.truncated taken htaken fun heq => hne (by rw [heq])

theorem Reads.finish {d : Decoder α} {f : α → Decoder β} (hd : Reads d u a)
    (hf : ∀ rest, f a rest = .ok (b, rest)) :
    Reads (fun bytes => d bytes >>= fun x => f x.1 x.2) u b := by
  have hread := hd.bind (reads_nil hf)
  rwa [List.append_nil] at hread

theorem Reads.map {d : Decoder α} (h : Reads d u a) (f : α → β) :
    Reads (fun bytes => (d bytes).map fun x => (f x.1, x.2)) u (f a) where
  append rest := by
    rw [h.append]
    rfl
  truncated part hpart hne := by
    rw [h.truncated part hpart hne]
    rfl

theorem Reads.cons {d : Decoder α} {byte : UInt8} (hempty : d [] = .error .unexpectedEnd)
    (h : Reads (fun rest => d (byte :: rest)) u a) : Reads d (byte :: u) a where
  append rest := h.append rest
  truncated part hpart hne := by
    rcases List.prefix_cons_iff.mp hpart with rfl | ⟨taken, rfl, htaken⟩
    · exact hempty
    · exact h.truncated taken htaken fun heq => hne (by rw [heq])

/-! Numbers. -/

theorem length_littleEndian (width n : Nat) : (littleEndian width n).length = width := by
  induction width generalizing n with
  | zero => rfl
  | succ width ih => rw [littleEndian, List.length_cons, ih]

theorem ofLittleEndian_littleEndian {width n : Nat} (h : n < 256 ^ width) :
    ofLittleEndian (littleEndian width n) = n := by
  induction width generalizing n with
  | zero =>
    have hzero : n = 0 := by simpa using h
    rw [hzero]
    rfl
  | succ width ih =>
    have hrest : n / 256 < 256 ^ width := by
      rw [Nat.pow_succ] at h
      exact Nat.div_lt_of_lt_mul (by omega)
    have hbyte : (UInt8.ofNat n).toNat = n % 256 := UInt8.toNat_ofNat'
    rw [littleEndian, ofLittleEndian, ih hrest, hbyte]
    exact Nat.mod_add_div n 256

theorem reads_takeBytes (bytes : Bytes) : Reads (takeBytes bytes.length) bytes bytes where
  append rest := by
    rw [takeBytes, if_pos (by simp), List.take_left, List.drop_left]
  truncated part hpart hne := by
    have hlength : ¬ bytes.length ≤ part.length := fun hle =>
      hne (hpart.eq_of_length (Nat.le_antisymm hpart.length_le hle))
    rw [takeBytes, if_neg hlength]

theorem reads_decodeWidth {width n : Nat} (h : n < 256 ^ width) :
    Reads (decodeWidth width) (littleEndian width n) n := by
  have hread := (reads_takeBytes (littleEndian width n)).map ofLittleEndian
  rw [length_littleEndian, ofLittleEndian_littleEndian h] at hread
  exact hread

theorem reads_decodeNat (maxWidth : Nat) {n : Nat}
    (h : n < UInt32.size ∨ 8 ≤ maxWidth ∧ n < UInt64.size) :
    Reads (decodeNat maxWidth) (encodeNat n) n := by
  unfold encodeNat
  split
  next hsmall =>
    have hbyte : (UInt8.ofNat n).toNat = n := UInt8.toNat_ofNat_of_lt' (by
      rw [UInt8.size]
      omega)
    have hlt : UInt8.ofNat n < 251 := by
      rw [UInt8.lt_iff_toNat_lt, hbyte]
      exact hsmall
    refine .cons rfl (reads_nil fun rest => ?_)
    rw [decodeNat, if_pos hlt, hbyte]
  next =>
  split
  next h16 => exact .cons rfl (reads_decodeWidth h16)
  next =>
  split
  next h32 => exact .cons rfl (reads_decodeWidth h32)
  next h32 =>
    obtain ⟨hwidth, h64⟩ := h.resolve_left h32
    refine .cons rfl ?_
    have hmarker : (decodeNat maxWidth <| 253 :: ·) = decodeWidth 8 := by
      funext rest
      exact if_pos ⟨rfl, hwidth⟩
    rw [hmarker]
    exact reads_decodeWidth h64

theorem encodeNat_ne_nil (n : Nat) : encodeNat n ≠ [] := by
  unfold encodeNat
  split_ifs <;> simp

/-! Texts. -/

theorem toList_loop (bytes : ByteArray) (i : Nat) (taken : List UInt8) :
    ByteArray.toList.loop bytes i taken = taken.reverse ++ bytes.data.toList.drop i := by
  fun_induction ByteArray.toList.loop bytes i taken with
  | case1 i taken hi ih =>
    have hget : bytes.data.toList.drop i = bytes.get! i :: bytes.data.toList.drop (i + 1) := by
      have hi : i < bytes.data.toList.length := hi
      rw [List.drop_eq_getElem_cons hi]
      congr 1
      exact (getElem!_pos bytes.data i hi).symm
    rw [ih, hget, List.reverse_cons, List.append_assoc]
    rfl
  | case2 i taken hi =>
    have hi : bytes.data.toList.length ≤ i := Nat.le_of_not_lt hi
    rw [List.drop_eq_nil_of_le hi, List.append_nil]

theorem toList_eq (bytes : ByteArray) : bytes.toList = bytes.data.toList :=
  toList_loop bytes 0 []

theorem fromUTF8?_toUTF8 (s : String) : String.fromUTF8? ⟨s.toUTF8.toList.toArray⟩ = some s := by
  rw [toList_eq, Array.toArray_toList]
  exact dif_pos s.isValidUTF8

namespace Codec
variable {c : Codec α}

/-- Everything that a codec writes marks its own end, as long as lengths can be written. -/
def Delimited (c : Codec α) : Prop :=
  ∀ a, (c.encode a).length < UInt64.size → Reads c.decode (c.encode a) a

theorem delimited_word32 : word32.Delimited := by
  intro n _
  have hread := (reads_decodeNat 4 (.inl n.toNat_lt)).map UInt32.ofNat
  rw [UInt32.ofNat_toNat] at hread
  exact hread

theorem delimited_word64 : word64.Delimited := by
  intro n _
  have hread := (reads_decodeNat 8 (.inr ⟨Nat.le_refl 8, n.toNat_lt⟩)).map UInt64.ofNat
  rw [UInt64.ofNat_toNat] at hread
  exact hread

theorem delimited_bool : bool.Delimited := by
  intro b _
  cases b with
  | false => exact .cons rfl (reads_nil fun _ => rfl)
  | true => exact .cons rfl (reads_nil fun _ => rfl)

def utf8 (taken : Bytes) : Decoder String := fun rest =>
  match String.fromUTF8? ⟨taken.toArray⟩ with
  | some s => .ok (s, rest)
  | none => .error .invalidText

theorem delimited_text : text.Delimited := by
  intro s hlength
  have hsize : s.toUTF8.size = s.toUTF8.toList.length := by
    rw [toList_eq]
    rfl
  have hcount : s.toUTF8.toList.length < UInt64.size := by
    simp only [text, List.length_append] at hlength
    omega
  change Reads _ (encodeNat s.toUTF8.size ++ s.toUTF8.toList) s
  rw [hsize]
  refine (reads_decodeNat 8 (.inr ⟨Nat.le_refl 8, hcount⟩)).bind
    (f := fun length rest => takeBytes length rest >>= fun x => utf8 x.1 x.2) ?_
  refine (reads_takeBytes s.toUTF8.toList).finish (f := utf8) fun rest => ?_
  rw [utf8, fromUTF8?_toUTF8]

theorem Delimited.option (h : c.Delimited) : (option c).Delimited := by
  intro value hlength
  cases value with
  | none => exact .cons rfl (reads_nil fun _ => rfl)
  | some a =>
    have hshorter : (c.encode a).length < UInt64.size :=
      Nat.lt_of_succ_lt (by simpa [Codec.option] using hlength)
    exact .cons rfl ((h a hshorter).map some)

theorem Delimited.pair {d : Codec β} (hc : c.Delimited) (hd : d.Delimited) :
    (c.pair d).Delimited := by
  rintro ⟨a, b⟩ hlength
  simp only [Codec.pair, List.length_append] at hlength
  refine (hc a (by omega)).bind (f := fun a rest => d.decode rest >>= fun x => .ok ((a, x.1), x.2)) ?_
  exact (hd b (by omega)).map (Prod.mk a)

theorem Delimited.convert (h : c.Delimited) {into : α → β} {back : β → α}
    (hinverse : ∀ b, into (back b) = b) : (c.convert into back).Delimited := by
  intro b hlength
  have hread := (h (back b) hlength).map into
  rw [hinverse] at hread
  exact hread

theorem Delimited.decodeMany (h : c.Delimited) {as : List α}
    (hlength : (as.flatMap c.encode).length < UInt64.size) :
    Reads (decodeMany c.decode as.length) (as.flatMap c.encode) as := by
  induction as with
  | nil => exact reads_nil fun _ => rfl
  | cons a as ih =>
    simp only [List.flatMap_cons, List.length_append] at hlength
    rw [List.flatMap_cons]
    refine (h a (by omega)).bind (f := fun a rest =>
      Codec.decodeMany c.decode as.length rest >>= fun x => .ok (a :: x.1, x.2)) ?_
    exact (ih (by omega)).map (a :: ·)

theorem length_le_length_flatMap {encode : α → Bytes} (hne : ∀ a, encode a ≠ [])
    (as : List α) : as.length ≤ (as.flatMap encode).length := by
  induction as with
  | nil => exact Nat.le_refl 0
  | cons a as ih =>
    have hpos := List.length_pos_iff.mpr (hne a)
    simp only [List.flatMap_cons, List.length_append, List.length_cons]
    omega

theorem Delimited.list (h : c.Delimited) (hne : ∀ a, c.encode a ≠ []) : (list c).Delimited := by
  intro as hlength
  simp only [Codec.list, List.length_append] at hlength
  -- There are no more values than bytes, so their number can be written too.
  have hcount := length_le_length_flatMap hne as
  refine (reads_decodeNat 8 (.inr ⟨Nat.le_refl 8, ?_⟩)).bind (f := Codec.decodeMany c.decode)
    (h.decodeMany ?_)
  · omega
  · omega

/-! Alternatives. -/

theorem reads_constant (a : α) : Reads (constant a) [] a := reads_nil fun _ => rfl

theorem Delimited.alternative (h : c.Delimited) {make : α → β}
    (hlength : (c.encode a).length < UInt64.size) :
    Reads (alternative c make) (c.encode a) (make a) := (h a hlength).map make

def chosen (alternatives : List (Decoder α)) (i : Nat) : Decoder α := fun rest =>
  match alternatives[i]? with
  | some decode => decode rest
  | none => .error .unknownChoice

/-- A choice is delimited if the decoder at the place of each value reads what belongs to it. -/
theorem delimited_choice {place : α → Nat} {content : α → Bytes} {alternatives : List (Decoder α)}
    (hfew : alternatives.length < UInt32.size)
    (h : ∀ a, (content a).length < UInt64.size →
      ∃ d, alternatives[place a]? = some d ∧ Reads d (content a) a) :
    (choice place content alternatives).Delimited := by
  intro a hlength
  simp only [choice, List.length_append] at hlength
  obtain ⟨d, hd, hread⟩ := h a (by omega)
  have hplace : place a < UInt32.size := by
    have hlt := (List.getElem?_eq_some_iff.mp hd).1
    omega
  have hchosen : chosen alternatives (place a) = d := by
    funext rest
    rw [chosen, hd]
  refine (reads_decodeNat 4 (.inl hplace)).bind (f := chosen alternatives) ?_
  rw [hchosen]
  exact hread

theorem choice_encode_ne_nil (place : α → Nat) (content : α → Bytes)
    (alternatives : List (Decoder α)) (a : α) :
    (choice place content alternatives).encode a ≠ [] :=
  List.append_ne_nil_of_left_ne_nil (encodeNat_ne_nil (place a)) (content a)

end Codec
end CallFlow.Binary
