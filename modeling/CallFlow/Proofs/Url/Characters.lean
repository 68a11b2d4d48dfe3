import CallFlow.Url.Endpoint

/-!
# Characters of URLs

A well-formed URL is written in printable ASCII, and no part of it holds a sign that would begin one
of the parts behind it. So is an address below it, whatever text its path is made from, since every
part encodes what it cannot hold. That is why the text of a URL falls into the same parts again.
-/

namespace CallFlow
set_option autoImplicit false

namespace Url

def Avoids (bad : Char → Bool) (cs : List Char) : Prop := ∀ c ∈ cs, bad c = false

instance (bad : Char → Bool) : DecidablePred (Avoids bad) :=
  fun cs => List.decidableBAll (fun c => bad c = false) cs

/-- What no part in front of the query holds. -/
def opensTail (c : Char) : Bool := controls c || c == '?' || c == '#'

/-- What no query holds. -/
def opensFragment (c : Char) : Bool := controls c || c == '#'

def Host.WellFormed : Host → Prop
  | .name text => Avoids opensTail text
  | _ => True

structure Authority.WellFormed (a : Authority) : Prop where
  user : Avoids opensTail a.user
  password : Avoids opensTail a.password
  host : a.host.WellFormed

structure Tail.WellFormed (t : Tail) : Prop where
  query : ∀ q ∈ t.query, Avoids opensFragment q
  fragment : ∀ f ∈ t.fragment, Avoids controls f

/-- A path that begins with an empty segment has no other. -/
def Squeezed (segments : List (List Char)) : Prop :=
  segments.head? = some [] → segments = [[]]

structure WellFormedPath (scheme : List Char) (segments : List (List Char)) : Prop where
  avoids : ∀ s ∈ segments, Avoids opensTail s
  squeezed : isFile scheme = true → Squeezed segments

end Url

def RootedUrl.root (u : RootedUrl) : List Char :=
  let authority := match u.authority with
    | some a => '/' :: '/' :: a.text
    | none => if u.marked then ['/', '.'] else []
  u.scheme ++ ':' :: authority

structure RootedUrl.WellFormed (u : RootedUrl) : Prop where
  scheme : Url.Avoids Url.opensTail u.scheme
  authority : ∀ a ∈ u.authority, a.WellFormed
  path : Url.WellFormedPath u.scheme u.segments
  tail : u.tail.WellFormed

namespace Url

def WellFormed : Url → Prop
  | .rooted u => u.WellFormed
  | .rootless scheme text tail =>
    Avoids opensTail scheme ∧ Avoids opensTail text ∧ tail.WellFormed

variable {bad : Char → Bool}

theorem avoids_nil : Avoids bad [] := List.forall_mem_nil _

theorem Avoids.append {xs ys : List Char} (hxs : Avoids bad xs) (hys : Avoids bad ys) :
    Avoids bad (xs ++ ys) :=
  List.forall_mem_append.mpr ⟨hxs, hys⟩

theorem Avoids.cons {c : Char} {cs : List Char} (hc : bad c = false) (hcs : Avoids bad cs) :
    Avoids bad (c :: cs) :=
  List.forall_mem_cons.mpr ⟨hc, hcs⟩

theorem Avoids.of_subset {xs ys : List Char} (h : Avoids bad ys) (hsub : xs ⊆ ys) :
    Avoids bad xs :=
  fun c hc => h c (hsub hc)

theorem Avoids.mono {bad' : Char → Bool} {cs : List Char} (h : Avoids bad cs)
    (hsub : ∀ c, bad' c = true → bad c = true) : Avoids bad' cs :=
  fun c hc => Bool.eq_false_iff.mpr fun hbad => Bool.eq_false_iff.mp (h c hc) (hsub c hbad)

theorem opensTail_of_opensFragment {c : Char} (h : opensFragment c = true) :
    opensTail c = true := by
  simp only [opensFragment, opensTail, Bool.or_eq_true] at h ⊢
  exact h.elim (fun h => .inl (.inl h)) .inr

theorem opensFragment_of_controls {c : Char} (h : controls c = true) : opensFragment c = true := by
  rw [opensFragment, h, Bool.true_or]

theorem Avoids.plain {cs : List Char} (h : Avoids opensFragment cs) : Avoids controls cs :=
  h.mono fun _ => opensFragment_of_controls

theorem Avoids.query {cs : List Char} (h : Avoids opensTail cs) : Avoids opensFragment cs :=
  h.mono fun _ => opensTail_of_opensFragment

/-! Digits and letters. -/

theorem opensTail_digitChar : ∀ n : Nat, opensTail (Nat.digitChar n) = false
  | 0 | 1 | 2 | 3 | 4 | 5 | 6 | 7 | 8 | 9 | 10 | 11 | 12 | 13 | 14 | 15 => by decide
  | n + 16 => by
    have hstar : Nat.digitChar (n + 16) = '*' := Nat.digitChar_eq_star.mpr (by omega)
    rw [hstar]
    decide

theorem avoids_toDigits (base n : Nat) : Avoids opensTail (Nat.toDigits base n) := by
  have hcore : ∀ (fuel n : Nat) (cs : List Char), Avoids opensTail cs →
      Avoids opensTail (Nat.toDigitsCore base fuel n cs) := by
    intro fuel
    induction fuel with
    | zero => intro n cs hcs; exact hcs
    | succ fuel ih =>
      intro n cs hcs
      have hdigit := hcs.cons (opensTail_digitChar (n % base))
      rw [Nat.toDigitsCore]
      split
      · exact hdigit
      · exact ih _ _ hdigit
  exact hcore _ n [] avoids_nil

theorem toNat_le_of_isAlphanum {c : Char} (h : c.isAlphanum = true) : c.toNat ≤ 'z'.toNat := by
  rcases (Bool.or_eq_true _ _).mp h with halpha | hdigit
  · rcases (Bool.or_eq_true _ _).mp halpha with hupper | hlower
    · exact Nat.le_trans (UInt32.le_iff_toNat_le.mp (of_decide_eq_true hupper).2) (by decide)
    · exact UInt32.le_iff_toNat_le.mp (of_decide_eq_true ((Bool.and_eq_true _ _).mp hlower).2)
  · exact Nat.le_trans
      (UInt32.le_iff_toNat_le.mp (of_decide_eq_true ((Bool.and_eq_true _ _).mp hdigit).2))
      (by decide)

/-- A property of the characters up to the last small letter is checked one by one. -/
theorem forall_le_z {P : Char → Prop} (h : ∀ n ≤ 'z'.toNat, P (Char.ofNat n)) {c : Char}
    (hc : c.toNat ≤ 'z'.toNat) : P c := by
  rw [← Char.ofNat_toNat c]
  exact h c.toNat hc

theorem opensTail_of_isAlphanum {c : Char} (h : c.isAlphanum = true) : opensTail c = false :=
  forall_le_z (P := fun c => c.isAlphanum = true → opensTail c = false) (by decide)
    (toNat_le_of_isAlphanum h) h

theorem opensTail_toLower_of_isAlphanum {c : Char} (h : c.isAlphanum = true) :
    opensTail c.toLower = false :=
  forall_le_z (P := fun c => c.isAlphanum = true → opensTail c.toLower = false) (by decide)
    (toNat_le_of_isAlphanum h) h

/-! Encoded text. -/

theorem mem_percentSigns {c d : Char} (h : d ∈ percentChar c) :
    d ∈ "%0123456789ABCDEF".toList := by
  have hdigit : ∀ n < 16, upperHexDigit n ∈ "%0123456789ABCDEF".toList := by decide
  obtain ⟨b, -, hd⟩ := List.mem_flatMap.mp h
  have hb : b.toNat < 256 := b.toNat_lt_size
  simp only [percentByte, List.mem_cons, List.not_mem_nil, or_false] at hd
  rcases hd with rfl | rfl | rfl
  · decide
  · exact hdigit _ (by omega)
  · exact hdigit _ (by omega)

theorem avoids_percentChar (c : Char) : Avoids opensTail (percentChar c) := by
  have hsigns : Avoids opensTail "%0123456789ABCDEF".toList := by decide
  exact fun d hd => hsigns d (mem_percentSigns hd)

theorem avoids_encode {encoded : Char → Bool} {cs : List Char}
    (hbad : ∀ c, bad c = true → opensTail c = true)
    (h : ∀ c ∈ cs, bad c = true → encoded c = true) : Avoids bad (encode encoded cs) := by
  intro d hd
  obtain ⟨c, hc, hd⟩ := List.mem_flatMap.mp hd
  split at hd
  next => exact (avoids_percentChar c).mono hbad d hd
  next hkept =>
    rw [List.mem_singleton.mp hd]
    exact Bool.eq_false_iff.mpr fun hbadc => hkept (h c hc hbadc)

theorem inPath_of_opensTail {c : Char} (h : opensTail c = true) : inPath c = true := by
  simp only [opensTail, Bool.or_eq_true, beq_iff_eq] at h
  rcases h with (h | rfl) | rfl
  · rw [inPath, inFragment, h, Bool.true_or, Bool.true_or]
  · rfl
  · rfl

theorem avoids_encode_inPath (cs : List Char) : Avoids opensTail (encode inPath cs) :=
  avoids_encode (fun _ => id) fun _ _ => inPath_of_opensTail

theorem avoids_encode_inUserinfo (cs : List Char) : Avoids opensTail (encode inUserinfo cs) :=
  avoids_encode (fun _ => id) fun c _ h => by
    rw [inUserinfo, inPath_of_opensTail h, Bool.true_or]

theorem avoids_encode_inSegment (special : Bool) (cs : List Char) :
    Avoids opensTail (encode (inSegment special) cs) :=
  avoids_encode (fun _ => id) fun c _ h => by
    rw [inSegment, inPath_of_opensTail h, Bool.true_or, Bool.true_or]

theorem avoids_encode_inQuery (special : Bool) (cs : List Char) :
    Avoids opensFragment (encode (inQuery special) cs) := by
  refine avoids_encode (fun _ => opensTail_of_opensFragment) fun c _ h => ?_
  simp only [opensFragment, Bool.or_eq_true, beq_iff_eq] at h
  rcases h with h | rfl
  · rw [inQuery, h, Bool.true_or, Bool.true_or]
  · cases special <;> rfl

theorem avoids_encode_inFragment (cs : List Char) : Avoids controls (encode inFragment cs) :=
  avoids_encode (fun _ h => opensTail_of_opensFragment (opensFragment_of_controls h))
    fun c _ h => by rw [inFragment, h, Bool.true_or]

theorem avoids_encode_controls {cs : List Char} (h : ∀ c ∈ cs, (c == '?' || c == '#') = false) :
    Avoids opensTail (encode controls cs) := by
  refine avoids_encode (fun _ => id) fun c hc hopens => ?_
  rwa [opensTail, Bool.or_assoc, h c hc, Bool.or_false] at hopens

theorem avoids_formEncode (cs : List Char) : Avoids opensFragment (formEncode cs) := by
  have hsigns : Avoids opensFragment ['*', '-', '.', '_'] := by decide
  intro d hd
  obtain ⟨c, -, hd⟩ := List.mem_flatMap.mp hd
  split at hd
  · rw [List.mem_singleton.mp hd]
    decide
  · split at hd
    next hkeeps =>
      rw [List.mem_singleton.mp hd]
      rcases (Bool.or_eq_true _ _).mp hkeeps with h | h
      · exact Bool.eq_false_iff.mpr fun hopens =>
          Bool.eq_false_iff.mp (opensTail_of_isAlphanum h) (opensTail_of_opensFragment hopens)
      · exact hsigns c (List.contains_iff_mem.mp h)
    next => exact (avoids_percentChar c).query d hd

/-! The text of a well-formed URL. -/

theorem mem_of_mem_intercalate {separator c : Char} : ∀ {parts : List (List Char)},
    c ∈ [separator].intercalate parts → c = separator ∨ ∃ part ∈ parts, c ∈ part
  | [part], hc => by
    rw [List.intercalate_singleton] at hc
    exact .inr ⟨part, List.mem_cons_self, hc⟩
  | part :: next :: rest, hc => by
    rw [List.intercalate_cons_cons, List.append_assoc] at hc
    rcases List.mem_append.mp hc with hpart | hc
    · exact .inr ⟨part, List.mem_cons_self, hpart⟩
    · rcases List.mem_cons.mp hc with rfl | hc
      · exact .inl rfl
      · refine (mem_of_mem_intercalate hc).imp_right fun ⟨later, hlater, hc⟩ => ?_
        exact ⟨later, List.mem_cons_of_mem part hlater, hc⟩

theorem mem_intercalate {separator c : Char} {part : List Char} (hc : c ∈ part) :
    ∀ {parts : List (List Char)}, part ∈ parts → c ∈ [separator].intercalate parts
  | [_], hpart => by
    obtain rfl := List.mem_singleton.mp hpart
    rwa [List.intercalate_singleton]
  | _ :: next :: rest, hpart => by
    rw [List.intercalate_cons_cons]
    rcases List.mem_cons.mp hpart with rfl | hrest
    · exact List.mem_append_left _ (List.mem_append_left _ hc)
    · exact List.mem_append_right _ (mem_intercalate hc hrest)

theorem avoids_join {separator : Char} (hseparator : bad separator = false)
    {parts : List (List Char)} (hparts : ∀ part ∈ parts, Avoids bad part) :
    Avoids bad (Host.join separator parts) := by
  intro c hc
  rcases mem_of_mem_intercalate hc with rfl | ⟨part, hpart, hc⟩
  · exact hseparator
  · exact hparts part hpart c hc

theorem avoids_join_map {separator : Char} (hseparator : bad separator = false)
    {f : Nat → List Char} (hf : ∀ n, Avoids bad (f n)) (numbers : List Nat) :
    Avoids bad (Host.join separator (numbers.map f)) := by
  refine avoids_join hseparator fun part hpart => ?_
  obtain ⟨n, -, rfl⟩ := List.mem_map.mp hpart
  exact hf n

theorem Host.WellFormed.text {host : Host} (h : host.WellFormed) :
    Avoids opensTail host.text := by
  have hpieces : ∀ pieces : List Nat,
      Avoids opensTail (Host.join ':' (pieces.map Host.hex)) :=
    avoids_join_map (by decide) (avoids_toDigits 16)
  have hgap : Avoids opensTail [':', ':'] := by decide
  cases host with
  | empty => exact avoids_nil
  | name text => exact h
  | ipv4 address => exact avoids_join_map (by decide) (fun i => avoids_toDigits 10 _) [3, 2, 1, 0]
  | ipv6 pieces =>
    rw [Host.text]
    refine Avoids.cons rfl (Avoids.append ?_ (avoids_nil.cons rfl))
    split
    · exact hpieces pieces
    · exact ((hpieces _).append hgap).append (hpieces _)

theorem Authority.WellFormed.text {a : Authority} (h : a.WellFormed) :
    Avoids opensTail a.text := by
  have huserinfo :
      Avoids opensTail (a.user ++ if a.password.isEmpty then [] else ':' :: a.password) := by
    refine h.user.append ?_
    split
    · exact avoids_nil
    · exact h.password.cons rfl
  have hsign : ∀ {cs : List Char}, Avoids opensTail cs →
      Avoids opensTail (if cs.isEmpty then [] else cs ++ ['@']) := by
    intro cs hcs
    split
    · exact avoids_nil
    · exact hcs.append (by decide)
  rw [Authority.text]
  refine ((hsign huserinfo).append h.host.text).append ?_
  split
  · exact (avoids_toDigits 10 _).cons rfl
  · exact avoids_nil

theorem Tail.WellFormed.text {t : Tail} (h : t.WellFormed) : Avoids controls t.text := by
  rw [Tail.text]
  refine Avoids.append ?_ ?_
  · split
    next q hq => exact (h.query q hq).plain.cons rfl
    next => exact avoids_nil
  · split
    next f hf => exact (h.fragment f hf).cons rfl
    next => exact avoids_nil

theorem avoids_pathText {segments : List (List Char)} (h : ∀ s ∈ segments, Avoids opensTail s) :
    Avoids opensTail (pathText segments) := by
  intro c hc
  obtain ⟨s, hs, hc⟩ := List.mem_flatMap.mp hc
  exact (h s hs).cons rfl c hc

end Url

theorem RootedUrl.text_eq (u : RootedUrl) :
    u.text = u.root ++ Url.pathText u.segments ++ u.tail.text := rfl

theorem RootedUrl.WellFormed.front {u : RootedUrl} (h : u.WellFormed) :
    Url.Avoids Url.opensTail (u.root ++ Url.pathText u.segments) := by
  rw [RootedUrl.root]
  refine (h.scheme.append (Url.Avoids.cons rfl ?_)).append (Url.avoids_pathText h.path.avoids)
  split
  next a ha => exact ((h.authority a ha).text.cons rfl).cons rfl
  next =>
    split
    · decide
    · exact Url.avoids_nil

namespace Url

theorem WellFormed.text {url : Url} (h : url.WellFormed) : Avoids controls url.text := by
  cases url with
  | rooted u => exact (RootedUrl.WellFormed.front h).query.plain.append h.tail.text
  | rootless scheme text tail =>
    obtain ⟨hscheme, htext, htail⟩ := h
    exact (hscheme.append (htext.cons rfl)).query.plain.append htail.text

/-! Paths. -/

theorem subset_climb (done : List (List Char)) : climb done ⊆ done := by
  unfold climb
  split
  · split
    · exact List.Subset.refl done
    · exact List.dropLast_subset done
  · exact List.nil_subset done

theorem avoids_addSegment (file ends : Bool) {done : List (List Char)} {segment : List Char}
    (hdone : ∀ s ∈ done, Avoids opensTail s) (hsegment : Avoids opensTail segment) :
    ∀ s ∈ addSegment file ends done segment, Avoids opensTail s := by
  have hclimb : ∀ s ∈ climb done, Avoids opensTail s := fun s hs => hdone s (subset_climb done hs)
  have hadd : ∀ {before : List (List Char)} {last : List Char},
      (∀ s ∈ before, Avoids opensTail s) → Avoids opensTail last →
        ∀ s ∈ before ++ [last], Avoids opensTail s := by
    intro before last hbefore hlast
    exact List.forall_mem_append.mpr ⟨hbefore, List.forall_mem_singleton.mpr hlast⟩
  unfold addSegment
  split
  · split
    · exact hadd hclimb avoids_nil
    · exact hclimb
  · split
    · split
      · exact hadd hdone avoids_nil
      · exact hdone
    · split
      · refine hadd hdone ((hsegment.of_subset ?_).append (by decide))
        exact List.take_subset 1 segment
      · exact hadd hdone hsegment

theorem avoids_addSegments (file : Bool) {segments done : List (List Char)}
    (hdone : ∀ s ∈ done, Avoids opensTail s) (hsegments : ∀ s ∈ segments, Avoids opensTail s) :
    ∀ s ∈ addSegments file done segments, Avoids opensTail s := by
  induction segments generalizing done with
  | nil => exact hdone
  | cons segment rest ih =>
    obtain ⟨hsegment, hrest⟩ := List.forall_mem_cons.mp hsegments
    cases rest with
    | nil => exact avoids_addSegment file true hdone hsegment
    | cons next rest => exact ih (avoids_addSegment file false hdone hsegment) hrest

theorem squeezed_squeeze (segments : List (List Char)) : Squeezed (squeeze segments) := by
  unfold squeeze
  split
  next => exact fun _ => rfl
  next rest hrest =>
    intro hhead
    have hfirst := List.head?_dropWhile_not List.isEmpty segments
    rw [hhead] at hfirst
    cases hfirst

/-- Segments make a path once those of a file are squeezed. -/
theorem wellFormedPath_squeeze {scheme : List Char} {segments : List (List Char)}
    (h : ∀ s ∈ segments, Avoids opensTail s) :
    WellFormedPath scheme (if isFile scheme then squeeze segments else segments) := by
  split
  next =>
    refine ⟨?_, fun _ => squeezed_squeeze segments⟩
    unfold squeeze
    split
    · exact List.forall_mem_singleton.mpr avoids_nil
    · exact fun s hs => h s ((List.dropWhile_sublist _).subset hs)
  next hfile => exact ⟨h, fun hisFile => absurd hisFile hfile⟩

theorem wellFormedPath_resolvePath {done : List (List Char)}
    (hdone : ∀ s ∈ done, Avoids opensTail s) (scheme text : List Char) :
    WellFormedPath scheme (resolvePath scheme done text) := by
  have hpieces :
      ∀ s ∈ (splitPath (isSpecial scheme) text).map (encode inPath), Avoids opensTail s := by
    intro s hs
    obtain ⟨piece, -, rfl⟩ := List.mem_map.mp hs
    exact avoids_encode_inPath piece
  exact wellFormedPath_squeeze (avoids_addSegments (isFile scheme) hdone hpieces)

end Url

/-! Addresses below a URL. -/

namespace RootedUrl

variable {u : RootedUrl}

theorem WellFormed.dropEmptyEnd (h : u.WellFormed) : u.dropEmptyEnd.WellFormed := by
  unfold RootedUrl.dropEmptyEnd
  split
  next hends =>
    refine { h with path := ⟨fun s hs => h.path.avoids s (List.dropLast_subset _ hs), ?_⟩ }
    intro hfile hhead
    -- with two segments the first stays, and it is not empty
    have hfirst : u.segments.head? = some [] := by
      rw [← hhead]
      exact (List.head?_dropLast.trans (if_pos hends.1)).symm
    have hlength := congrArg List.length (h.path.squeezed hfile hfirst)
    exact absurd hends.1 (by rw [hlength]; decide)
  next => exact h

theorem WellFormed.push (h : u.WellFormed) (segment : List Char) : (u.push segment).WellFormed := by
  have hdone : ∀ s ∈ (if u.segments = [[]] then [] else u.segments),
      Url.Avoids Url.opensTail s := by
    split
    · exact List.forall_mem_nil _
    · exact h.path.avoids
  have hpath := Url.avoids_addSegment (Url.isFile u.scheme) true hdone
    (Url.avoids_encode_inSegment u.special
      (segment.filter fun c => !(c == '\t' || c == '\n' || c == '\r')))
  exact { h with path := Url.wellFormedPath_squeeze hpath }

theorem WellFormed.endpoint (h : u.WellFormed) (path : List Char) :
    (u.endpoint path).WellFormed := by
  unfold RootedUrl.endpoint
  have hstart := h.dropEmptyEnd
  generalize segmentsOf path = segments, u.dropEmptyEnd = v at hstart
  induction segments generalizing v with
  | nil => exact hstart
  | cons segment rest ih => exact ih (v.push segment) (hstart.push segment)

theorem WellFormed.addPair (h : u.WellFormed) (name value : List Char) :
    (u.addPair name value).WellFormed := by
  have hpair : Url.Avoids Url.opensFragment (pairText name value) :=
    (Url.avoids_formEncode name).append ((Url.avoids_formEncode value).cons rfl)
  refine { h with tail := ⟨?_, h.tail.fragment⟩ }
  intro q hq
  obtain rfl := Option.some.inj hq
  split
  next c q hquery => exact (h.tail.query _ hquery).append (hpair.cons rfl)
  next => exact hpair

theorem WellFormed.directory (h : u.WellFormed) : u.directory.WellFormed := by
  refine { h with path := ?_, tail := ⟨nofun, nofun⟩ }
  unfold RootedUrl.directory
  dsimp only
  split
  next => exact h.path
  next hends =>
    refine ⟨List.forall_mem_append.mpr
      ⟨h.path.avoids, List.forall_mem_singleton.mpr Url.avoids_nil⟩, fun hfile hhead => ?_⟩
    cases hsegments : u.segments with
    | nil => rfl
    | cons s rest =>
      -- a path that begins with an empty segment ends with it
      rw [hsegments] at hhead hends
      have hall := h.path.squeezed hfile (hsegments ▸ hhead)
      rw [← hsegments, hall] at hends
      exact absurd rfl hends

end RootedUrl

end CallFlow
