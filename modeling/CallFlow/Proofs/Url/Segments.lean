import CallFlow.Proofs.Url.Form

/-!
# Segments that are added to a path

An added segment is encoded, so that it stays one segment, and what was added can be read from it.
It takes a step back only if it is two dots once the tabs and line ends in it are gone.
-/

namespace CallFlow
set_option autoImplicit false

namespace Url

/-! What is read of an encoded text. -/

theorem decodeBytes_encode {encoded : Char → Bool} (hpercent : encoded '%' = true)
    (cs : List Char) : decodeBytes (encode encoded cs) = cs.flatMap String.utf8EncodeChar := by
  induction cs with
  | nil => rfl
  | cons c cs ih =>
    rw [List.flatMap_cons, ← ih]
    change decodeBytes ((if encoded c then percentChar c else [c]) ++ encode encoded cs) = _
    split
    next => exact decodeBytes_flatMap_percentByte_append _ _
    next hkept =>
      refine decodeBytes_cons_of_ne ?_ _
      rintro rfl
      exact hkept hpercent

/-- An encoded text is read as the text that it was written for. -/
theorem eq_of_decodeBytes_encode {encoded : Char → Bool} (hpercent : encoded '%' = true)
    {cs ds : List Char}
    (h : decodeBytes (encode encoded cs) = ds.flatMap String.utf8EncodeChar) : cs = ds := by
  rw [decodeBytes_encode hpercent] at h
  rw [← textOfBytes_flatMap_utf8EncodeChar cs, h, textOfBytes_flatMap_utf8EncodeChar]

theorem notMem_encode {encoded : Char → Bool} {sign : Char} (hsign : encoded sign = true)
    (hpercent : sign ∉ "%0123456789ABCDEF".toList) (cs : List Char) :
    sign ∉ encode encoded cs := by
  intro hmem
  obtain ⟨c, -, hmem⟩ := List.mem_flatMap.mp hmem
  split at hmem
  next => exact hpercent (mem_percentSigns hmem)
  next hkept =>
    obtain rfl := List.mem_singleton.mp hmem
    exact hkept hsign

/-! Dots, also where they are written as byte values. -/

/-- The characters that dots are spelled with are their own small letters, but for one. -/
theorem mem_of_toLower_mem {c : Char} (h : c.toLower ∈ ['.', '%', '2', 'e']) :
    c ∈ ['.', '%', '2', 'e', 'E'] := by
  by_cases hupper : c.isUpper = true
  · have hletter : c.isAlphanum = true := by
      change (c.isUpper || c.isLower || c.isDigit) = true
      rw [hupper, Bool.true_or, Bool.true_or]
    exact forall_le_z
      (P := fun c => c.toLower ∈ ['.', '%', '2', 'e'] → c ∈ ['.', '%', '2', 'e', 'E'])
      (by decide) (toNat_le_of_isAlphanum hletter) h
  · have hsame : c.toLower = c := dif_neg fun hin => hupper (decide_eq_true hin)
    rw [hsame] at h
    exact List.mem_append_left ['E'] h

theorem decodeBytes_dot {c : Char} (h : c.toLower = '.') (rest : List Char) :
    decodeBytes (c :: rest) = 0x2e :: decodeBytes rest := by
  have hc := mem_of_toLower_mem (c := c) (by rw [h]; decide)
  simp only [List.mem_cons, List.not_mem_nil, or_false] at hc
  rcases hc with rfl | rfl | rfl | rfl | rfl <;> first | rfl | cases h

theorem decodeBytes_dotValue {c d e : Char} (hc : c.toLower = '%') (hd : d.toLower = '2')
    (he : e.toLower = 'e') (rest : List Char) :
    decodeBytes (c :: d :: e :: rest) = 0x2e :: decodeBytes rest := by
  have hc' := mem_of_toLower_mem (c := c) (by rw [hc]; decide)
  have hd' := mem_of_toLower_mem (c := d) (by rw [hd]; decide)
  have he' := mem_of_toLower_mem (c := e) (by rw [he]; decide)
  have hpercent : c = '%' := by
    simp only [List.mem_cons, List.not_mem_nil, or_false] at hc'
    rcases hc' with rfl | rfl | rfl | rfl | rfl <;> first | rfl | cases hc
  have htwo : d = '2' := by
    simp only [List.mem_cons, List.not_mem_nil, or_false] at hd'
    rcases hd' with rfl | rfl | rfl | rfl | rfl <;> first | rfl | cases hd
  subst hpercent htwo
  simp only [List.mem_cons, List.not_mem_nil, or_false] at he'
  rcases he' with rfl | rfl | rfl | rfl | rfl <;> first | rfl | cases he

theorem mem_map_toList {texts : List String} {cs : List Char}
    (h : texts.contains (String.ofList cs) = true) : cs ∈ texts.map String.toList := by
  have hmem := List.mem_map_of_mem (f := String.toList) (List.contains_iff_mem.mp h)
  rwa [String.toList_ofList] at hmem

theorem decodeBytes_of_isDot {segment : List Char} (h : isDot segment = true) :
    decodeBytes segment = [0x2e] := by
  have hmem : segment.map Char.toLower ∈ [['.'], ['%', '2', 'e']] := mem_map_toList h
  simp only [List.mem_cons, List.not_mem_nil, or_false, List.map_eq_cons_iff,
    List.map_eq_nil_iff] at hmem
  rcases hmem with h | h
  · obtain ⟨c, rest, rfl, hc, rfl⟩ := h
    exact decodeBytes_dot hc []
  · obtain ⟨c, rest, rfl, hc, d, rest, rfl, hd, e, rest, rfl, he, rfl⟩ := h
    exact decodeBytes_dotValue hc hd he []

theorem decodeBytes_of_isDoubleDot {segment : List Char} (h : isDoubleDot segment = true) :
    decodeBytes segment = [0x2e, 0x2e] := by
  have hmem : segment.map Char.toLower ∈ [['.', '.'], ['%', '2', 'e', '.'], ['.', '%', '2', 'e'],
      ['%', '2', 'e', '%', '2', 'e']] := mem_map_toList h
  simp only [List.mem_cons, List.not_mem_nil, or_false, List.map_eq_cons_iff,
    List.map_eq_nil_iff] at hmem
  rcases hmem with h | h | h | h
  · obtain ⟨c, rest, rfl, hc, d, rest, rfl, hd, rfl⟩ := h
    exact (decodeBytes_dot hc _).trans (congrArg _ (decodeBytes_dot hd []))
  · obtain ⟨c, rest, rfl, hc, d, rest, rfl, hd, e, rest, rfl, he, f, rest, rfl, hf, rfl⟩ := h
    exact (decodeBytes_dotValue hc hd he _).trans (congrArg _ (decodeBytes_dot hf []))
  · obtain ⟨c, rest, rfl, hc, d, rest, rfl, hd, e, rest, rfl, he, f, rest, rfl, hf, rfl⟩ := h
    exact (decodeBytes_dot hc _).trans (congrArg _ (decodeBytes_dotValue hd he hf []))
  · obtain ⟨c, rest, rfl, hc, d, rest, rfl, hd, e, rest, rfl, he, f, rest, rfl, hf, g, rest, rfl,
      hg, i, rest, rfl, hi, rfl⟩ := h
    exact (decodeBytes_dotValue hc hd he _).trans (congrArg _ (decodeBytes_dotValue hf hg hi []))

section Encoded
variable {encoded : Char → Bool} (hpercent : encoded '%' = true)
include hpercent

theorem eq_nil_of_encode {cs : List Char} (h : encode encoded cs = []) : cs = [] := by
  have hnil : decodeBytes (encode encoded cs) = [].flatMap String.utf8EncodeChar := by
    rw [h]
    rfl
  exact eq_of_decodeBytes_encode hpercent hnil

theorem eq_dot_of_isDot {cs : List Char} (h : isDot (encode encoded cs) = true) : cs = ['.'] :=
  eq_of_decodeBytes_encode hpercent (decodeBytes_of_isDot h)

theorem eq_dots_of_isDoubleDot {cs : List Char} (h : isDoubleDot (encode encoded cs) = true) :
    cs = ['.', '.'] :=
  eq_of_decodeBytes_encode hpercent (decodeBytes_of_isDoubleDot h)

end Encoded

/-! Adding a segment. -/

/-- A segment that takes no step back adds one that is no longer. -/
theorem addSegment_of_not_isDoubleDot (file : Bool) (done : List (List Char)) {segment : List Char}
    (h : isDoubleDot segment = false) :
    ∃ last, addSegment file true done segment = done ++ [last] ∧ ('/' ∉ segment → '/' ∉ last) ∧
      (segment ≠ [] → isDot segment = false → last ≠ []) := by
  unfold addSegment
  rw [if_neg (Bool.eq_false_iff.mp h)]
  split
  next hdot => exact ⟨[], rfl, fun _ => List.not_mem_nil, fun _ hne => absurd hdot (by simp [hne])⟩
  next =>
    split
    · refine ⟨_, rfl, fun hslash hmem => ?_, fun _ _ => by simp⟩
      rcases List.mem_append.mp hmem with hmem | hmem
      · exact hslash (List.mem_of_mem_take hmem)
      · exact absurd hmem (by decide)
    · exact ⟨segment, rfl, id, fun hne _ => hne⟩

end Url

namespace RootedUrl

def withoutBreaks (segment : List Char) : List Char :=
  segment.filter fun c => !(c == '\t' || c == '\n' || c == '\r')

/-- The segments that others are added to. A root with nothing in it has none. -/
def steps (u : RootedUrl) : List (List Char) := if u.segments = [[]] then [] else u.segments

variable {u : RootedUrl}

theorem squeeze_steps (h : Url.Squeezed u.segments) (last : List Char) :
    Url.squeeze (u.steps ++ [last]) = u.steps ++ [last] := by
  unfold steps
  split
  next =>
    cases last with
    | nil => rfl
    | cons c cs => rfl
  next hroot =>
    cases hsegments : u.segments with
    | nil =>
      cases last with
      | nil => rfl
      | cons c cs => rfl
    | cons s rest =>
      cases s with
      | nil => exact absurd (h (by rw [hsegments]; rfl)) hroot
      | cons c cs => rfl

theorem push_segments_of_ne (h : u.WellFormed) {segment : List Char}
    (hdots : withoutBreaks segment ≠ ['.', '.']) :
    ∃ last, (u.push segment).segments = u.steps ++ [last] ∧ '/' ∉ last ∧
      (withoutBreaks segment ≠ [] → withoutBreaks segment ≠ ['.'] → last ≠ []) := by
  have hpercent : Url.inSegment u.special '%' = true := rfl
  have hdouble : Url.isDoubleDot
      (Url.encode (Url.inSegment u.special) (withoutBreaks segment)) = false :=
    Bool.eq_false_iff.mpr fun hdouble => hdots (Url.eq_dots_of_isDoubleDot hpercent hdouble)
  obtain ⟨last, hadd, hslash, hne⟩ :=
    Url.addSegment_of_not_isDoubleDot (Url.isFile u.scheme) u.steps hdouble
  refine ⟨last, ?_, hslash (Url.notMem_encode rfl (by decide) _), fun hempty hdot => ?_⟩
  · have hpath : (u.push segment).segments =
        if Url.isFile u.scheme then Url.squeeze (u.steps ++ [last]) else u.steps ++ [last] := by
      rw [← hadd]
      rfl
    rw [hpath]
    split
    next hfile => exact squeeze_steps (h.path.squeezed hfile) last
    next => rfl
  · exact hne (mt (Url.eq_nil_of_encode hpercent) hempty)
      (Bool.eq_false_iff.mpr (mt (Url.eq_dot_of_isDot hpercent) hdot))

end RootedUrl
end CallFlow
