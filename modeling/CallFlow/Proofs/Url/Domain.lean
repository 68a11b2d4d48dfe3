import CallFlow.Proofs.Binary.Delimited
import CallFlow.Proofs.Url.Characters
import CallFlow.Proofs.Url.Punycode
import CallFlow.Url.Domain

/-!
# Domain names in ASCII

What comes of a name is ASCII, and no label loses anything: one that is encoded spells its
characters, and any other is made of them. A name that is ASCII and has no encoded label is its own
small letters; taking it as it stands gives what the whole of the processing would give.
-/

namespace CallFlow
set_option autoImplicit false

open Url.Punycode (isAscii)

/-! ASCII among the properties of characters -/

namespace Text

variable {α : Type} {c : Char}

theorem inRanges_eq_false {ranges : List (Nat × Nat)} (h : ∀ r ∈ ranges, 0x80 ≤ r.1)
    (hc : isAscii c = true) : inRanges ranges c = false := by
  have hc : c.toNat < 0x80 := of_decide_eq_true hc
  refine List.any_eq_false.mpr fun r hr => ?_
  have hle := h r hr
  simp only [Bool.and_eq_true, decide_eq_true_eq]
  omega

theorem mem_of_valueInRanges? {ranges : List (Nat × Nat × α)} {a : α}
    (h : valueInRanges? ranges c = some a) : ∃ r ∈ ranges, r.1 ≤ c.toNat ∧ r.2.2 = a := by
  obtain ⟨r, hfind, ha⟩ := Option.map_eq_some_iff.mp h
  have hr := List.find?_some hfind
  simp only [Bool.and_eq_true, decide_eq_true_eq] at hr
  exact ⟨r, List.mem_of_find?_eq_some hfind, hr.1, ha⟩

theorem valueInRanges?_eq_none {ranges : List (Nat × Nat × α)} (h : ∀ r ∈ ranges, 0x80 ≤ r.1)
    (hc : isAscii c = true) : valueInRanges? ranges c = none := by
  have hc : c.toNat < 0x80 := of_decide_eq_true hc
  cases hvalue : valueInRanges? ranges c with
  | none => rfl
  | some a =>
    obtain ⟨r, hr, hle, -⟩ := mem_of_valueInRanges? hvalue
    have := h r hr
    omega

end Text

namespace Unicode

open Text

variable {c : Char} {text : List Char}

theorem isMark_of_isAscii (hc : isAscii c = true) : isMark c = false := by
  rw [isMark, isNonspacing, inRanges_eq_false (by decide +kernel) hc,
    inRanges_eq_false (by decide +kernel) hc]
  rfl

theorem combiningClass_of_isAscii (hc : isAscii c = true) : combiningClass c = 0 := by
  rw [combiningClass, valueInRanges?_eq_none (by decide +kernel) hc]
  rfl

theorem decompose_of_isAscii (hc : isAscii c = true) : decompose c = [c] :=
  if_pos (Nat.lt_trans (of_decide_eq_true hc) (by decide))

theorem joined?_of_isAscii (base : Char) (hc : isAscii c = true) : joined? base c = none := by
  have hc : c.toNat < 0x80 := of_decide_eq_true hc
  have hmarks : ∀ entry ∈ compositions, 0x80 ≤ entry.1 := by decide +kernel
  have hlookup : compositions.lookup c.toNat = none := by
    refine List.lookup_eq_none_iff.mpr fun entry hentry => ?_
    have := hmarks entry hentry
    rw [bne_iff_ne]
    omega
  rw [joined?, hlookup]
  simp only [syllable?]
  rw [if_neg (by omega), if_neg (by omega)]

theorem orderMarks_of_isAscii (h : ∀ c ∈ text, isAscii c = true) : orderMarks text = text := by
  induction text with
  | nil => rfl
  | cons c text ih =>
    rw [orderMarks, List.foldr_cons, ← orderMarks, ih fun d hd => h d (List.mem_cons_of_mem c hd)]
    cases text with
    | nil => rfl
    | cons d text =>
      have hc := combiningClass_of_isAscii (h c List.mem_cons_self)
      rw [insertMark, hc, if_neg (by omega)]

theorem composeFrom_of_isAscii (base : Char) (h : ∀ c ∈ text, isAscii c = true) :
    composeFrom base [] text = base :: text := by
  induction text generalizing base with
  | nil => rfl
  | cons c text ih =>
    have hc := h c List.mem_cons_self
    rw [composeFrom, joined?_of_isAscii base hc, combiningClass_of_isAscii hc,
      ih c fun d hd => h d (List.mem_cons_of_mem c hd)]
    rfl

theorem nfc_of_isAscii (h : ∀ c ∈ text, isAscii c = true) : nfc text = text := by
  have hparts : text.flatMap decompose = text := by
    rw [List.flatMap_congr fun c hc => decompose_of_isAscii (h c hc), List.flatMap_singleton']
  rw [nfc, hparts, orderMarks_of_isAscii h]
  cases text with
  | nil => rfl
  | cons c text => exact composeFrom_of_isAscii c fun d hd => h d (List.mem_cons_of_mem c hd)

end Unicode

namespace Url.Domain

open Unicode

variable {c : Char} {name text label : List Char}

theorem mapM_eq_some_map {α β : Type} {f : α → Option β} {g : α → β} {as : List α}
    (h : ∀ a ∈ as, f a = some (g a)) : as.mapM f = some (as.map g) := by
  induction as with
  | nil => rfl
  | cons a as ih =>
    rw [List.mapM_cons, h a List.mem_cons_self, ih fun b hb => h b (List.mem_cons_of_mem a hb)]
    rfl

theorem exists_of_mem_mapM {α β : Type} {f : α → Option β} {as : List α} {bs : List β} {b : β}
    (h : as.mapM f = some bs) (hb : b ∈ bs) : ∃ a ∈ as, f a = some b := by
  induction as generalizing bs with
  | nil =>
    cases h
    cases hb
  | cons a as ih =>
    simp only [List.mapM_cons, Option.bind_eq_bind, Option.bind_eq_some_iff] at h
    obtain ⟨first, hfirst, rest, hrest, heq⟩ := h
    cases heq
    rcases List.mem_cons.mp hb with rfl | hb
    · exact ⟨a, List.mem_cons_self, hfirst⟩
    · obtain ⟨a', ha', hvalue⟩ := ih hrest hb
      exact ⟨a', List.mem_cons_of_mem a ha', hvalue⟩

theorem isAscii_of_mem_splitOn (h : ∀ c ∈ name, isAscii c = true)
    (hlabel : label ∈ name.splitOn '.') (hc : c ∈ label) : isAscii c = true := by
  have hname : ['.'].intercalate (name.splitOn '.') = name := List.intercalate_splitOn '.'
  exact h c (hname ▸ mem_intercalate hc hlabel)

/-! Labels -/

theorem decodeLabel?_eq_some {l : Label} (h : decodeLabel? label = some l) :
    l.ascii = label ∧ Punycode.decode? (label.drop 4) = some l.unicode := by
  rw [decodeLabel?] at h
  split at h
  · cases h
  · split at h
    · cases h
    next unicode hdecode =>
      split at h
      · cases h
        exact ⟨rfl, hdecode⟩
      · cases h

/-- An encoded label spells its characters, and any other is made of them. -/
theorem readLabel?_spells {l : Label} (h : readLabel? label = some l) :
    if mark.isPrefixOf l.ascii then Punycode.decode? (l.ascii.drop 4) = some l.unicode
    else l.ascii = l.unicode := by
  rw [readLabel?] at h
  split at h
  next hmark =>
    obtain ⟨hascii, hdecode⟩ := decodeLabel?_eq_some h
    rw [hascii, if_pos hmark]
    exact hdecode
  next hplain =>
    split at h
    · cases h
      rw [if_neg hplain]
    · cases h
      rw [if_pos (by simp [mark])]
      exact Punycode.decode?_encode label

theorem isAscii_of_readLabel? {l : Label} (h : readLabel? label = some l) (hc : c ∈ l.ascii) :
    isAscii c = true := by
  have hmarked : ∀ encoded : List Char, (∀ d ∈ encoded, isAscii d = true) → c ∈ mark ++ encoded →
      isAscii c = true := by
    intro encoded hencoded hmem
    rcases List.mem_append.mp hmem with hmem | hmem
    · have hmark : mark.all isAscii = true := rfl
      exact List.all_eq_true.mp hmark c hmem
    · exact hencoded c hmem
  rw [readLabel?] at h
  split at h
  next hmark =>
    obtain ⟨hascii, hdecode⟩ := decodeLabel?_eq_some h
    obtain ⟨encoded, rfl⟩ := List.isPrefixOf_iff_prefix.mp hmark
    rw [hascii] at hc
    exact hmarked encoded (Punycode.isAscii_of_decode? hdecode) hc
  next =>
    split at h
    next hall =>
      cases h
      exact List.all_eq_true.mp hall c hc
    next =>
      cases h
      exact hmarked _ (fun d hd => Punycode.isAscii_of_mem_encode hd) hc

theorem readLabel?_of_isAscii (hplain : mark.isPrefixOf label = false)
    (h : ∀ c ∈ label, isAscii c = true) : readLabel? label = some ⟨label, label⟩ := by
  rw [readLabel?, hplain, if_neg (by decide), if_pos (List.all_eq_true.mpr h)]

theorem joinersFit_of_isAscii (before : List Char) (h : ∀ c ∈ label, isAscii c = true) :
    joinersFit before label = true := by
  induction label generalizing before with
  | nil => rfl
  | cons c label ih =>
    obtain ⟨hc, hlabel⟩ := List.forall_mem_cons.mp h
    have hjoiners : (c == nonJoiner || c == joiner) = false := by
      refine Bool.eq_false_iff.mpr fun hjoins => ?_
      rcases (Bool.or_eq_true _ _).mp hjoins with heq | heq <;>
        rw [beq_iff_eq.mp heq] at hc <;> revert hc <;> decide
    rw [joinersFit, hjoiners]
    exact ih (c :: before) hlabel

theorem isValid_of_isAscii (h : ∀ c ∈ label, isAscii c = true) :
    (Label.mk label label).isValid = true := by
  have hmark : label.head?.any isMark = false := by
    cases label with
    | nil => rfl
    | cons c label => exact isMark_of_isAscii (h c List.mem_cons_self)
  rw [Label.isValid, hmark, joinersFit_of_isAscii [] h, List.all_eq_true.mpr h]
  rfl

theorem isRightToLeft_of_isAscii (hc : isAscii c = true) : isRightToLeft (bidiClass c) = false := by
  -- signs and digits are listed with classes of their own, so the table does not begin beyond ASCII
  have hclasses : ∀ r ∈ bidiClasses, r.1 < 0x80 → isRightToLeft r.2.2 = false := by decide +kernel
  rw [bidiClass]
  cases hvalue : Text.valueInRanges? bidiClasses c with
  | none =>
    rw [Option.getD_none]
    split <;> rfl
  | some value =>
    obtain ⟨r, hr, hle, rfl⟩ := Text.mem_of_valueInRanges? hvalue
    exact hclasses r hr (Nat.lt_of_le_of_lt hle (of_decide_eq_true hc))

/-! Names -/

theorem processed?_of_isPlain (h : ∀ c ∈ text, isAscii c = true)
    (hplain : isPlain (text.map Char.toLower) = true) :
    processed? text = some (text.map Char.toLower) := by
  obtain ⟨hall, hlabels⟩ := (Bool.and_eq_true _ _).mp hplain
  generalize hname : text.map Char.toLower = name at *
  have hascii : ∀ c ∈ name, isAscii c = true := List.all_eq_true.mp hall
  -- small letters are all that mapping changes, and each later stage leaves ASCII as it is
  have hmapped : text.mapM mapChar? = some (text.map fun c => [c.toLower]) :=
    mapM_eq_some_map fun c hc => if_pos (of_decide_eq_true (h c hc))
  have hflat : (text.map fun c => [c.toLower]).flatten = name := by
    rw [← hname, ← List.flatMap_def, ← List.map_eq_flatMap]
  have hread : (name.splitOn '.').mapM readLabel? =
      some ((name.splitOn '.').map fun label => ⟨label, label⟩) := by
    refine mapM_eq_some_map fun label hlabel => readLabel?_of_isAscii ?_ fun c hc =>
      isAscii_of_mem_splitOn hascii hlabel hc
    rw [Bool.not_eq_true', List.any_eq_false] at hlabels
    exact Bool.eq_false_iff.mpr (hlabels label hlabel)
  have hvalid : ((name.splitOn '.').map fun label => Label.mk label label).all Label.isValid =
      true := by
    refine List.all_eq_true.mpr fun l hl => ?_
    obtain ⟨label, hlabel, rfl⟩ := List.mem_map.mp hl
    exact isValid_of_isAscii fun c hc => isAscii_of_mem_splitOn hascii hlabel hc
  have hleft : (((name.splitOn '.').map fun label => Label.mk label label).any fun label =>
      label.unicode.any fun c => isRightToLeft (bidiClass c)) = false := by
    refine List.any_eq_false.mpr fun l hl => ?_
    obtain ⟨label, hlabel, rfl⟩ := List.mem_map.mp hl
    refine Bool.eq_false_iff.mp (List.any_eq_false.mpr fun c hc => ?_)
    exact Bool.eq_false_iff.mp (isRightToLeft_of_isAscii (isAscii_of_mem_splitOn hascii hlabel hc))
  rw [processed?, hmapped]
  simp only [Option.bind_eq_bind, Option.bind_some, hflat, nfc_of_isAscii hascii, hread, hvalid,
    hleft, Bool.not_false, Bool.true_or, Bool.and_self, if_true]
  rw [List.map_map]
  exact congrArg some ((congrArg _ (List.map_id _)).trans (List.intercalate_splitOn '.'))

/-- The small letters of a name are ASCII only where the bytes are. -/
theorem lt_of_isPlain {bytes : List UInt8}
    (h : isPlain (bytes.map fun b => (Char.ofNat b.toNat).toLower) = true) :
    ∀ b ∈ bytes, b.toNat < 0x80 := by
  -- a letter made small does not come into ASCII from beyond it
  have hbeyond : ∀ n < 0x80, isAscii (Char.ofNat (0x80 + n)).toLower = false := by decide
  intro b hb
  have hascii := List.all_eq_true.mp ((Bool.and_eq_true _ _).mp h).1 _ (List.mem_map_of_mem hb)
  refine Nat.lt_of_not_le fun hge => ?_
  have hfalse := hbeyond (b.toNat - 0x80) (by have := b.toNat_lt; omega)
  rw [Nat.add_sub_cancel' hge, hascii] at hfalse
  cases hfalse

theorem fromUTF8?_of_isAscii {bytes : List UInt8} (h : ∀ b ∈ bytes, b.toNat < 0x80) :
    String.fromUTF8? ⟨bytes.toArray⟩ =
      some (String.ofList (bytes.map fun b => Char.ofNat b.toNat)) := by
  have hchar : ∀ n < 0x80, String.utf8EncodeChar (Char.ofNat n) = [UInt8.ofNat n] := by decide
  have hencode : (bytes.map fun b => Char.ofNat b.toNat).flatMap String.utf8EncodeChar = bytes := by
    rw [List.flatMap_map, List.flatMap_congr (g := fun b => [b]) fun b hb => ?_]
    · exact List.flatMap_singleton' bytes
    · rw [hchar _ (h b hb), UInt8.ofNat_toNat]
  have hread := Binary.fromUTF8?_toUTF8 (String.ofList (bytes.map fun b => Char.ofNat b.toNat))
  rwa [Binary.toList_eq, String.toUTF8_eq_toByteArray, String.toByteArray_ofList, List.utf8Encode,
    List.toList_data_toByteArray, hencode] at hread

/-- A plain name, which is taken as it stands, is what the processing of its text gives. -/
theorem toAscii?_eq_processed? (bytes : List UInt8) :
    toAscii? bytes =
      (String.fromUTF8? ⟨bytes.toArray⟩).bind fun text => processed? text.toList := by
  rw [toAscii?]
  split
  next hplain =>
    have hbytes := lt_of_isPlain hplain
    have hvalue : ∀ n < 0x80, isAscii (Char.ofNat n) = true := by decide
    rw [fromUTF8?_of_isAscii hbytes, Option.bind_some, String.toList_ofList, processed?_of_isPlain]
    · rw [List.map_map]
      rfl
    · intro c hc
      obtain ⟨b, hb, rfl⟩ := List.mem_map.mp hc
      exact hvalue _ (hbytes b hb)
    · rwa [List.map_map]
  next => rfl

theorem isAscii_of_processed? (h : processed? text = some name) (hc : c ∈ name) :
    isAscii c = true := by
  simp only [processed?, Option.bind_eq_bind, Option.bind_eq_some_iff] at h
  obtain ⟨mapped, -, labels, hlabels, h⟩ := h
  split at h
  · cases h
    rcases mem_of_mem_intercalate hc with rfl | ⟨part, hpart, hc⟩
    · rfl
    · obtain ⟨l, hl, rfl⟩ := List.mem_map.mp hpart
      obtain ⟨label, -, hread⟩ := exists_of_mem_mapM hlabels hl
      exact isAscii_of_readLabel? hread hc
  · cases h

/-- The name that comes of some bytes is ASCII. -/
theorem isAscii_of_toAscii? {bytes : List UInt8} (h : toAscii? bytes = some name) (hc : c ∈ name) :
    isAscii c = true := by
  rw [toAscii?_eq_processed?] at h
  obtain ⟨text, -, hname⟩ := Option.bind_eq_some_iff.mp h
  exact isAscii_of_processed? hname hc

end Url.Domain
end CallFlow
