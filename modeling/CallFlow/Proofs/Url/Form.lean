import CallFlow.Proofs.Url.Characters
import Mathlib.Data.List.TakeWhile

/-!
# Forms in queries

How a query is read as a form, and that what `formEncode` wrote is read back: names and values hold
neither of the signs that a form is cut at, and their bytes come back through percent signs and plus
signs. A pair that is added to a query is read behind the pairs that were there, whatever those are.
-/

namespace CallFlow.Url
set_option autoImplicit false

/-! Reading. -/

/-- The query in the text of a URL: behind the first question mark, and before a number sign. -/
def queryOf? (text : List Char) : Option (List Char) :=
  match (text.takeWhile (· != '#')).dropWhile (· != '?') with
  | [] => none
  | _ :: query => some query

/-- How many bytes behind a leading byte belong to a character that breaks off. The second byte of a
character has a range of its own behind some leading bytes, which keeps long forms, surrogates and
numbers past the last character out. -/
def brokenLength (lead : UInt8) (rest : List UInt8) : Nat :=
  let low : UInt8 := if lead = 0xE0 then 0xA0 else if lead = 0xF0 then 0x90 else 0x80
  let high : UInt8 := if lead = 0xED then 0x9F else if lead = 0xF4 then 0x8F else 0xBF
  match rest with
  | [] => 0
  | second :: rest =>
    if lead < 0xE0 ∨ 0xF4 < lead ∨ second < low ∨ high < second then 0
    else if lead < 0xF0 then 1
    else match rest with
      | third :: _ => if 0x80 ≤ third ∧ third ≤ 0xBF then 2 else 1
      | [] => 1

/-- The text of bytes that may not be a text: every piece that is none is replaced. -/
def textOfBytes : List UInt8 → List Char
  | [] => []
  | b :: rest =>
    match (b :: rest).toByteArray.utf8DecodeChar? 0 with
    | some c => c :: textOfBytes (rest.drop (c.utf8Size - 1))
    | none => '\uFFFD' :: textOfBytes (rest.drop (brokenLength b rest))
termination_by bytes => bytes.length
decreasing_by all_goals simp only [List.length_drop, List.length_cons]; omega

def formText (cs : List Char) : String := String.ofList (textOfBytes (formDecode cs))

def readPair (piece : List Char) : String × String :=
  (formText (piece.takeWhile (· != '=')), formText ((piece.dropWhile (· != '=')).drop 1))

/-- The pairs of a query. Nothing stands between two signs that follow each other. -/
def formPairs (query : List Char) : List (String × String) :=
  ((query.splitOn '&').filter fun piece => !piece.isEmpty).map readPair

def pairsOf (text : String) : List (String × String) :=
  formPairs ((queryOf? text.toList).getD [])

/-! Queries. -/

theorem queryOf?_append_text {front : List Char} {tail : Tail} (hfront : Avoids opensTail front)
    (htail : tail.WellFormed) : queryOf? (front ++ tail.text) = tail.query := by
  have hsigns : ∀ c ∈ front, (c != '?') = true ∧ (c != '#') = true := fun c hc => by
    have hopens := hfront c hc
    simp only [opensTail, Bool.or_eq_false_iff] at hopens
    rw [bne, bne, hopens.1.2, hopens.2]
    exact ⟨rfl, rfl⟩
  obtain ⟨rest, hrest, htext⟩ : ∃ rest : List Char, rest.takeWhile (· != '#') = [] ∧
      tail.text = tail.query.elim [] ('?' :: ·) ++ rest := by
    obtain ⟨query, fragment⟩ := tail
    cases fragment with
    | none => exact ⟨[], rfl, by cases query <;> rfl⟩
    | some f => exact ⟨'#' :: f, rfl, by cases query <;> rfl⟩
  rw [queryOf?, htext, List.takeWhile_append_of_pos fun c hc => (hsigns c hc).2]
  cases hquery : tail.query with
  | none =>
    rw [Option.elim_none, List.nil_append, hrest, List.append_nil,
      List.dropWhile_eq_nil_iff.mpr fun c hc => (hsigns c hc).1]
  | some q =>
    have hq : ∀ c ∈ '?' :: q, (c != '#') = true := by
      refine List.forall_mem_cons.mpr ⟨rfl, fun c hc => ?_⟩
      have hopens := htail.query q hquery c hc
      simp only [opensFragment, Bool.or_eq_false_iff] at hopens
      rw [bne, hopens.2, Bool.not_false]
    rw [Option.elim_some, List.takeWhile_append_of_pos hq, hrest, List.append_nil,
      List.dropWhile_append_of_pos fun c hc => (hsigns c hc).1]
    rfl

/-! Bytes. -/

theorem hexValue?_upperHexDigit : ∀ n < 16, hexValue? (upperHexDigit n) = some n := by decide

theorem decodeBytes_percentByte_append (b : UInt8) (rest : List Char) :
    decodeBytes (percentByte b ++ rest) = b :: decodeBytes rest := by
  have hb : b.toNat < 256 := b.toNat_lt_size
  have hhigh := hexValue?_upperHexDigit (b.toNat / 16) (by omega)
  have hlow := hexValue?_upperHexDigit (b.toNat % 16) (by omega)
  have hvalue : b.toNat / 16 * 16 + b.toNat % 16 = b.toNat := by omega
  simp only [percentByte, List.cons_append, List.nil_append, decodeBytes, hhigh, hlow, hvalue,
    UInt8.ofNat_toNat]

theorem decodeBytes_flatMap_percentByte_append (bytes : List UInt8) (rest : List Char) :
    decodeBytes (bytes.flatMap percentByte ++ rest) = bytes ++ decodeBytes rest := by
  induction bytes with
  | nil => rfl
  | cons b bytes ih =>
    rw [List.flatMap_cons, List.append_assoc, decodeBytes_percentByte_append, ih,
      List.cons_append]

theorem decodeBytes_cons_of_ne {c : Char} (h : c ≠ '%') (rest : List Char) :
    decodeBytes (c :: rest) = String.utf8EncodeChar c ++ decodeBytes rest := by
  rw [decodeBytes]
  rintro a b rest rfl
  exact absurd rfl h

/-- What a form writes holds no sign that has a meaning in it. -/
theorem notMem_formEncode {sign : Char} (hsign : sign ∈ ['&', '=', '#']) (cs : List Char) :
    sign ∉ formEncode cs := by
  have hwritten : formKeeps sign = false ∧ sign ≠ '+' ∧ sign ∉ "%0123456789ABCDEF".toList := by
    simp only [List.mem_cons, List.not_mem_nil, or_false] at hsign
    rcases hsign with rfl | rfl | rfl <;> decide
  obtain ⟨hkept, hplus, hpercent⟩ := hwritten
  intro hmem
  obtain ⟨c, -, hmem⟩ := List.mem_flatMap.mp hmem
  split at hmem
  · exact hplus (List.mem_singleton.mp hmem)
  · split at hmem
    next hc =>
      rw [← List.mem_singleton.mp hmem, hkept] at hc
      cases hc
    next => exact hpercent (mem_percentSigns hmem)

theorem formDecode_cons_of_ne {c : Char} (hplus : c ≠ '+') (hpercent : c ≠ '%')
    (rest : List Char) :
    formDecode (c :: rest) = String.utf8EncodeChar c ++ formDecode rest := by
  rw [formDecode, List.map_cons, if_neg hplus, decodeBytes_cons_of_ne hpercent]
  rfl

theorem formDecode_percentChar_append (c : Char) (rest : List Char) :
    formDecode (percentChar c ++ rest) = String.utf8EncodeChar c ++ formDecode rest := by
  have hplus : (percentChar c).map (fun d => if d = '+' then ' ' else d) = percentChar c := by
    have hkept : ∀ d ∈ percentChar c, (if d = '+' then ' ' else d) = d := by
      refine fun d hd => if_neg ?_
      rintro rfl
      exact absurd (mem_percentSigns hd) (by decide)
    rw [List.map_congr_left hkept, List.map_id']
  rw [formDecode, List.map_append, hplus]
  exact decodeBytes_flatMap_percentByte_append _ _

theorem formDecode_formEncode (cs : List Char) :
    formDecode (formEncode cs) = cs.flatMap String.utf8EncodeChar := by
  induction cs with
  | nil => rfl
  | cons c cs ih =>
    rw [List.flatMap_cons, ← ih]
    change formDecode ((if c = ' ' then ['+'] else _) ++ formEncode cs) = _
    split
    next hblank =>
      subst hblank
      rfl
    next =>
      split
      next hkeeps =>
        have hne : c ≠ '+' ∧ c ≠ '%' := by
          constructor
          · rintro rfl
            cases hkeeps
          · rintro rfl
            cases hkeeps
        exact formDecode_cons_of_ne hne.1 hne.2 _
      next => exact formDecode_percentChar_append c _

/-! Texts. -/

theorem textOfBytes_utf8EncodeChar_append (c : Char) (rest : List UInt8) :
    textOfBytes (String.utf8EncodeChar c ++ rest) = c :: textOfBytes rest := by
  have hdecode : (String.utf8EncodeChar c ++ rest).toByteArray.utf8DecodeChar? 0 = some c := by
    rw [List.toByteArray_append]
    exact ByteArray.utf8DecodeChar?_utf8EncodeChar_append
  have hsize := String.length_utf8EncodeChar c
  cases hbytes : String.utf8EncodeChar c with
  | nil =>
    rw [hbytes] at hsize
    exact absurd hsize.symm (Nat.ne_of_gt c.utf8Size_pos)
  | cons b bytes =>
    rw [hbytes] at hdecode hsize
    rw [List.cons_append] at hdecode ⊢
    rw [textOfBytes, hdecode]
    simp only [List.cons.injEq, true_and]
    rw [← hsize, List.length_cons, Nat.add_sub_cancel, List.drop_left]

theorem textOfBytes_flatMap_utf8EncodeChar (cs : List Char) :
    textOfBytes (cs.flatMap String.utf8EncodeChar) = cs := by
  induction cs with
  | nil => rw [List.flatMap_nil, textOfBytes]
  | cons c cs ih => rw [List.flatMap_cons, textOfBytes_utf8EncodeChar_append, ih]

theorem formText_formEncode (s : String) : formText (formEncode s.toList) = s := by
  rw [formText, formDecode_formEncode, textOfBytes_flatMap_utf8EncodeChar, String.ofList_toList]

/-! Pairs. -/

theorem formPairs_append (query rest : List Char) :
    formPairs (query ++ '&' :: rest) = formPairs query ++ formPairs rest := by
  rw [formPairs, List.splitOn_append_cons_self, List.filter_append, List.map_append]
  rfl

end CallFlow.Url

namespace CallFlow.RootedUrl
open Url (formEncode formPairs)

theorem notMem_pairText {sign : Char} (hsign : sign ∈ ['&', '#']) (name value : List Char) :
    sign ∉ pairText name value := by
  have hsigns : sign ∈ ['&', '=', '#'] ∧ sign ≠ '=' := by
    simp only [List.mem_cons, List.not_mem_nil, or_false] at hsign
    rcases hsign with rfl | rfl <;> decide
  obtain ⟨hform, hequals⟩ := hsigns
  rw [pairText, List.mem_append, List.mem_cons]
  rintro (h | h | h)
  · exact Url.notMem_formEncode hform name h
  · exact hequals h
  · exact Url.notMem_formEncode hform value h

theorem formPairs_pairText (name value : String) :
    formPairs (pairText name.toList value.toList) = [(name, value)] := by
  have hname : ∀ c ∈ formEncode name.toList, (c != '=') = true := by
    intro c hc
    refine bne_iff_ne.mpr ?_
    rintro rfl
    exact Url.notMem_formEncode (by decide) _ hc
  have hpieces : (pairText name.toList value.toList).splitOn '&' =
      [pairText name.toList value.toList] :=
    List.splitOn_eq_singleton (notMem_pairText (by decide) _ _)
  have hread : Url.readPair (pairText name.toList value.toList) = (name, value) := by
    rw [Url.readPair, pairText, List.takeWhile_append_of_pos hname,
      List.dropWhile_append_of_pos hname]
    simp [Url.formText_formEncode]
  have hfilled : [pairText name.toList value.toList].filter (fun piece => !piece.isEmpty) =
      [pairText name.toList value.toList] := List.filter_cons_of_pos (by simp [pairText])
  rw [formPairs, hpieces, hfilled, List.map_singleton, hread]

/-- A pair that is added is read behind those that the query had. -/
theorem formPairs_addPair (u : RootedUrl) (name value : String) :
    formPairs ((u.addPair name.toList value.toList).tail.query.getD []) =
      formPairs (u.tail.query.getD []) ++ [(name, value)] := by
  have hpair := formPairs_pairText name value
  have hnil : formPairs [] = [] := rfl
  unfold addPair
  cases hquery : u.tail.query with
  | none => simp [hpair, hnil]
  | some query =>
    cases query with
    | nil => simp [hpair, hnil]
    | cons c query =>
      simp only [Option.getD_some]
      rw [Url.formPairs_append, hpair]

/-- The pairs of a URL are those of the text that it is written as. -/
theorem WellFormed.pairsOf_toText {u : RootedUrl} (h : u.WellFormed) :
    Url.pairsOf u.toText = formPairs (u.tail.query.getD []) := by
  rw [Url.pairsOf, toText, String.toList_ofList, text_eq,
    Url.queryOf?_append_text h.front h.tail]

end CallFlow.RootedUrl
