import CallFlow.Proofs.Url.Reading
import Mathlib.Data.List.TakeWhile

/-!
# References below a base

Text that is no URL by itself is resolved from the path of the base. Whether the result stays on the
host of the base and below its path depends on the reference: `Unanchored` says that it names neither
a scheme nor a host nor the root, and `descends` that its double dots do not lead above where it
starts. References without these properties do leave the base, and the last results say where to.
-/

namespace CallFlow
set_option autoImplicit false

namespace Url

def reference (target : List Char) : List Char := clean (target.dropWhile (· == '/'))

/-- A reference that only says how to go on from a path. On a drive it does not change the drive. -/
structure Unanchored (base : RootedUrl) (reference : List Char) : Prop where
  relative : splitScheme? reference = none
  unrooted : reference.head?.any isSlash = false
  driveless : isFile base.scheme = true →
    startsWithDriveSegment (splitTail base.special reference).1 = false

/-- How many segments deep a path is behind one more segment, if that is not above its start. -/
def depthBehind (depth : Nat) (segment : List Char) : Option Nat :=
  if isDoubleDot segment then
    match depth with
    | 0 => none
    | above + 1 => some above
  else if isDot segment then some depth
  else some (depth + 1)

/-- Whether every double dot has a segment before it that it can take back. -/
def descends (segments : List (List Char)) : Bool := (segments.foldlM depthBehind 0).isSome

def addedSegments (base : RootedUrl) (reference : List Char) : List (List Char) :=
  (splitPath base.special (splitTail base.special reference).1).map (encode inPath)

end Url

/-- Whether a URL has the scheme and the authority of a base, and a path below the base's. -/
def RootedUrl.Encloses (base : RootedUrl) : Url → Prop
  | .rooted u => u.scheme = base.scheme ∧ u.authority = base.authority ∧
      Url.pathText base.directory.segments <+: Url.pathText u.segments
  | .rootless .. => False

instance (base : RootedUrl) : DecidablePred base.Encloses
  | .rooted _ => inferInstanceAs (Decidable (_ ∧ _ ∧ _))
  | .rootless .. => inferInstanceAs (Decidable False)

namespace Url

/-! Segments behind a path. -/

variable {root extra : List (List Char)}

theorem climb_append (root : List (List Char)) (hextra : extra ≠ []) :
    ∃ kept, climb (root ++ extra) = root ++ kept ∧ extra.length ≤ kept.length + 1 := by
  have hlast : (root ++ extra).getLast? = some (extra.getLast hextra) := by
    rw [List.getLast?_append, List.getLast?_eq_some_getLast hextra, Option.some_or]
  unfold climb
  rw [hlast]
  dsimp only
  split
  · exact ⟨extra, rfl, Nat.le_succ _⟩
  · refine ⟨extra.dropLast, List.dropLast_append_of_ne_nil hextra, ?_⟩
    rw [List.length_dropLast]
    omega

/-- A segment that does not lead above the start leaves what is in front of it alone. -/
theorem addSegment_append (file ends : Bool) {segment : List Char} {depth behind : Nat}
    (hbehind : depthBehind depth segment = some behind) (hdepth : depth ≤ extra.length) :
    ∃ kept, addSegment file ends (root ++ extra) segment = root ++ kept ∧
      behind ≤ kept.length ∧ (ends = true → kept ≠ []) := by
  have hadd : ∀ (before : List (List Char)) (last : List Char) (bound : Nat),
      bound ≤ before.length + 1 → ∃ kept, root ++ before ++ [last] = root ++ kept ∧
        bound ≤ kept.length ∧ (ends = true → kept ≠ []) := by
    intro before last bound hbound
    refine ⟨before ++ [last], List.append_assoc .., ?_, fun _ => by simp⟩
    rwa [List.length_append, List.length_singleton]
  unfold depthBehind at hbehind
  unfold addSegment
  split at hbehind
  next hdouble =>
    rw [if_pos hdouble]
    split at hbehind
    next => cases hbehind
    next above =>
      cases hbehind
      have hextra : extra ≠ [] := List.ne_nil_of_length_pos (by omega)
      obtain ⟨kept, hkept, hlength⟩ := climb_append root hextra
      rw [hkept]
      split
      · exact hadd kept [] _ (by omega)
      next hends => exact ⟨kept, rfl, by omega, fun h => absurd h hends⟩
  next hdouble =>
    rw [if_neg hdouble]
    split at hbehind
    next hdot =>
      cases hbehind
      rw [if_pos hdot]
      split
      · exact hadd extra [] _ (by omega)
      next hends => exact ⟨extra, rfl, hdepth, fun h => absurd h hends⟩
    next hdot =>
      cases hbehind
      rw [if_neg hdot]
      split
      · exact hadd extra _ _ (by omega)
      · exact hadd extra _ _ (by omega)

theorem addSegments_append (file : Bool) (root : List (List Char)) {segments : List (List Char)}
    (hne : segments ≠ []) {depth behind : Nat}
    (hbehind : segments.foldlM depthBehind depth = some behind) (hdepth : depth ≤ extra.length) :
    ∃ kept, addSegments file (root ++ extra) segments = root ++ kept ∧ kept ≠ [] := by
  induction segments generalizing extra depth with
  | nil => exact absurd rfl hne
  | cons segment rest ih =>
    rw [List.foldlM_cons] at hbehind
    obtain ⟨next, hnext, hrest⟩ := Option.bind_eq_some_iff.mp hbehind
    cases rest with
    | nil =>
      obtain ⟨kept, hkept, -, hends⟩ := addSegment_append file true hnext hdepth
      exact ⟨kept, hkept, hends rfl⟩
    | cons second rest =>
      obtain ⟨kept, hkept, hlength, -⟩ := addSegment_append file false hnext hdepth
      rw [addSegments, hkept]
      · exact ih (List.cons_ne_nil _ _) hrest hlength
      · exact List.cons_ne_nil _ _

theorem squeeze_cons {first : List Char} (h : first ≠ []) (rest : List (List Char)) :
    squeeze (first :: rest) = first :: rest := by
  obtain ⟨c, cs, rfl⟩ := List.exists_cons_of_ne_nil h
  rfl

theorem Squeezed.head_ne_nil {first : List Char} {rest : List (List Char)} (hrest : rest ≠ [])
    (h : Squeezed (first :: rest)) : first ≠ [] := by
  rintro rfl
  exact hrest (List.cons.inj (h rfl)).2

theorem squeeze_append (h : Squeezed (root ++ [[]])) (hextra : extra ≠ []) :
    ∃ kept, squeeze (root ++ extra) = root ++ kept ∧ kept ≠ [] := by
  cases root with
  | nil =>
    refine ⟨squeeze extra, rfl, ?_⟩
    unfold squeeze
    split
    · exact List.cons_ne_nil _ _
    next hrest => exact hrest
  | cons first root =>
    exact ⟨extra, squeeze_cons (h.head_ne_nil (by simp)) _, hextra⟩

theorem pathText_prefix (hextra : extra ≠ []) :
    pathText (root ++ [[]]) <+: pathText (root ++ extra) := by
  obtain ⟨segment, rest, rfl⟩ := List.exists_cons_of_ne_nil hextra
  rw [pathText, pathText, List.flatMap_append, List.flatMap_append, List.flatMap_cons,
    List.flatMap_cons, List.flatMap_nil, List.append_nil, List.cons_append]
  exact (List.prefix_append_right_inj _).mpr (List.prefix_append ['/'] _)

theorem resolvePath_append {scheme text : List Char}
    (hsqueezed : isFile scheme = true → Squeezed (root ++ [[]]))
    (hdescends : descends ((splitPath (isSpecial scheme) text).map (encode inPath)) = true) :
    ∃ kept, resolvePath scheme root text = root ++ kept ∧ kept ≠ [] := by
  obtain ⟨behind, hbehind⟩ := Option.isSome_iff_exists.mp hdescends
  have hpieces : (splitPath (isSpecial scheme) text).map (encode inPath) ≠ [] :=
    mt List.map_eq_nil_iff.mp (List.splitOn_ne_nil _ _)
  obtain ⟨kept, hkept, hne⟩ :=
    addSegments_append (isFile scheme) root hpieces hbehind
      (Nat.le_refl ([] : List (List Char)).length)
  rw [List.append_nil] at hkept
  unfold resolvePath
  dsimp only
  rw [hkept]
  split
  next hfile => exact squeeze_append (hsqueezed hfile) hne
  next => exact ⟨kept, rfl, hne⟩

/-! Reading. -/

theorem withPath_eq (base : RootedUrl) (segments : List (List Char)) (tail : Tail) :
    ∃ marked, withPath base segments tail = .rooted { base with marked, segments, tail } := by
  unfold withPath
  split
  next => exact ⟨base.marked, rfl⟩
  next hauthority => exact ⟨_, by rw [withoutAuthority, hauthority]⟩

theorem isSlash_of_splitTail {special : Bool} {text rest : List Char} {c : Char}
    (hunrooted : text.head?.any isSlash = false) (h : (splitTail special text).1 = c :: rest) :
    isSlash c = false := by
  cases text with
  | nil => cases h
  | cons d behind =>
    rw [splitTail, List.takeWhile_cons] at h
    split at h
    · cases h
      exact hunrooted
    · cases h

theorem splitTail_of_path_eq_nil {special : Bool} {text : List Char}
    (h : (splitTail special text).1 = []) : (splitTail special text).2 = readTail special text := by
  have happend := List.takeWhile_append_dropWhile (p := fun c => c != '?' && c != '#') (l := text)
  have hnil : text.takeWhile (fun c => c != '?' && c != '#') = [] := h
  rw [hnil, List.nil_append] at happend
  exact congrArg (readTail special) happend

theorem query_readTail (special : Bool) {text : List Char} (h : text.head? ≠ some '?') :
    (readTail special text).query = none := by
  unfold readTail
  dsimp only
  split
  · exact absurd rfl h
  · rfl

/-- What goes on from a directory stands behind all of it but the empty segment at its end. -/
theorem parent_of_directory {base : RootedUrl} (h : base.segments = root ++ [[]]) :
    parent base = root := by
  rw [parent, h, List.getLast?_concat]
  dsimp only
  rw [if_neg (by simp [isDrive]), List.dropLast_concat]

/-- A reference that goes on from a directory has the directory's path in front of its own, and what
follows its path is its own as well. -/
theorem readRelative_eq {base : RootedUrl} {text : List Char}
    (hsegments : base.segments = root ++ [[]]) (hquery : base.tail.query = none)
    (hunrooted : text.head?.any isSlash = false) :
    ∃ marked segments, readRelative base text = .ok (.rooted
        { base with marked, segments, tail := (splitTail base.special text).2 }) ∧
      (segments = base.segments ∨
        segments = resolvePath base.scheme root (splitTail base.special text).1) := by
  have hparent := parent_of_directory hsegments
  unfold readRelative
  dsimp only
  split
  next hpath =>
    refine ⟨base.marked, base.segments, ?_, .inl rfl⟩
    split
    next => rfl
    next hquestion =>
      have hnone := query_readTail base.special (mt beq_iff_eq.mpr hquestion)
      rw [splitTail_of_path_eq_nil hpath, hquery, ← hnone]
  next c rest hpath =>
    have hc : isSlash c = false := isSlash_of_splitTail hunrooted hpath
    rw [hc, hparent]
    obtain ⟨marked, hwith⟩ := withPath_eq base
      (resolvePath base.scheme root (splitTail base.special text).1)
      (splitTail base.special text).2
    exact ⟨marked, _, congrArg Except.ok hwith, .inr rfl⟩

/-- A reference that goes on from a path of files is read like others, if it names no drive. -/
theorem readFile_eq_readRelative {base : RootedUrl} {text : List Char}
    (hfile : isFile base.scheme = true) (hunrooted : text.head?.any isSlash = false)
    (hdriveless : startsWithDriveSegment (splitTail base.special text).1 = false) :
    readFile (some base) text = readRelative base text := by
  have hscheme : base.scheme = "file".toList := beq_iff_eq.mp hfile
  have hspecial : base.special = true := by
    rw [RootedUrl.special, hscheme]
    rfl
  rw [hspecial] at hdriveless
  unfold readFile
  dsimp only
  split
  next _ hnone => cases hnone
  next b _ hb =>
    cases hb
    rfl
  next c rest hpath =>
    have hc : isSlash c = false := isSlash_of_splitTail hunrooted hpath
    rw [hc]
    unfold readRelative
    rw [hspecial, hscheme]
    simp only [hpath, hc] at hdriveless ⊢
    rw [hdriveless]
    rfl

end Url

namespace RootedUrl

theorem directory_scheme (u : RootedUrl) : u.directory.scheme = u.scheme := rfl

theorem directory_special (u : RootedUrl) : u.directory.special = u.special := rfl

theorem directory_segments (u : RootedUrl) : ∃ root, u.directory.segments = root ++ [[]] := by
  unfold directory
  dsimp only
  split
  next hends =>
    obtain ⟨root, hroot⟩ := List.getLast?_eq_some_iff.mp hends
    exact ⟨root, hroot⟩
  next => exact ⟨u.segments, rfl⟩

theorem below_eq_readRelative {u : RootedUrl} {target : List Char}
    (h : Url.Unanchored u (Url.reference target)) :
    u.below target = Url.readRelative u.directory (Url.reference target) := by
  rw [below, Url.resolve, show Url.clean _ = Url.reference target from rfl, h.relative]
  dsimp only
  split
  next hfile => exact Url.readFile_eq_readRelative hfile h.unrooted (h.driveless hfile)
  next => rfl

theorem below_of_unanchored {u : RootedUrl} (hu : u.WellFormed) {target : List Char}
    (h : Url.Unanchored u (Url.reference target)) :
    ∃ marked segments, u.below target = .ok (.rooted { u with
        marked, segments, tail := (Url.splitTail u.special (Url.reference target)).2 }) ∧
      (Url.descends (Url.addedSegments u (Url.reference target)) = true →
        Url.pathText u.directory.segments <+: Url.pathText segments) := by
  obtain ⟨root, hroot⟩ := u.directory_segments
  obtain ⟨marked, segments, heq, hsegments⟩ := Url.readRelative_eq hroot rfl h.unrooted
  refine ⟨marked, segments, (below_eq_readRelative h).trans heq, fun hdescends => ?_⟩
  rcases hsegments with rfl | rfl
  · exact List.prefix_refl _
  · have hsqueezed : Url.isFile u.scheme = true → Url.Squeezed (root ++ [[]]) :=
      fun hfile => hroot ▸ hu.directory.path.squeezed hfile
    obtain ⟨kept, hkept, hne⟩ := Url.resolvePath_append hsqueezed hdescends
    rw [hroot, directory_scheme, directory_special, hkept]
    exact Url.pathText_prefix hne

end RootedUrl

namespace CallContext

/-- A target that is no URL by itself and only says how to go on from a path: its address has the
scheme and the authority of the base, and what follows the path is the target's own. If its double
dots do not lead above where it starts, the path is below the base's. -/
theorem callback_custom_below {caller called callSid base : String} {context : CallContext}
    (hcontext : ofText caller called callSid base = .ok context) (options : Options)
    {target : String} {cause : Url.Error} (hparse : Url.parse target.toList = .error cause)
    (hreference : Url.Unanchored context.base (Url.reference target.toList)) :
    ∃ marked segments,
      context.callback options (.custom target) = .rooted { context.base with
        marked, segments
        tail := (Url.splitTail context.base.special (Url.reference target.toList)).2 } ∧
      (Url.descends (Url.addedSegments context.base (Url.reference target.toList)) = true →
        context.base.Encloses (context.callback options (.custom target))) := by
  obtain ⟨marked, segments, hbelow, hdescends⟩ :=
    RootedUrl.below_of_unanchored (wellFormed_base_of_ofText hcontext) hreference
  have hurl : context.callback options (.custom target) = context.customUrl target := rfl
  rw [hurl, customUrl, hparse, hbelow]
  exact ⟨marked, segments, rfl, fun h => ⟨rfl, rfl, hdescends h⟩⟩

/-- A host in the target is a name below the base once the slashes in front of it are gone. -/
theorem callback_custom_below_mailbox :
    ∃ context, ofText "" "" "" "https://hooks.example.com/api/voice" = .ok context ∧
      Url.parse "//elsewhere.example/../done?mailbox=5".toList = .error .relative ∧
      context.callbackUrl {} (.custom "//elsewhere.example/../done?mailbox=5") =
        "https://hooks.example.com/api/voice/done?mailbox=5" ∧
      context.base.Encloses
        (context.callback {} (.custom "//elsewhere.example/../done?mailbox=5")) := by
  have hcontext : ofText "" "" "" "https://hooks.example.com/api/voice" = .ok
      ⟨"", "", "", ⟨"https".toList, some ⟨[], [], .name "hooks.example.com".toList, none⟩, false,
        ["api".toList, "voice".toList], ⟨none, none⟩⟩⟩ := by
    decide +kernel
  have hparse : Url.parse "//elsewhere.example/../done?mailbox=5".toList = .error .relative := by
    decide +kernel
  obtain ⟨-, -, -, hbelow⟩ := callback_custom_below hcontext {} hparse
    ⟨by decide +kernel, by decide +kernel, by decide +kernel⟩
  exact ⟨_, hcontext, hparse, by decide +kernel, hbelow (by decide +kernel)⟩

end CallContext

/-! References that leave the base. -/

namespace Url

def cleanEnd (text : List Char) : List Char :=
  ((text.reverse.dropWhile fun c => c.toNat ≤ 0x20).reverse).filter
    fun c => !(c == '\t' || c == '\n' || c == '\r')

theorem clean_append {front : List Char} (hne : front ≠ [])
    (hfront : front.all (fun c => 0x20 < c.toNat) = true) (rest : List Char) :
    clean (front ++ rest) = front ++ cleanEnd rest := by
  simp only [List.all_eq_true, decide_eq_true_eq] at hfront
  have hkept : ∀ cs : List Char, cs ≠ [] → (∀ c ∈ cs, 0x20 < c.toNat) → ∀ rest : List Char,
      (cs ++ rest).dropWhile (fun c => decide (c.toNat ≤ 0x20)) = cs ++ rest := by
    intro cs hcs hin rest
    obtain ⟨c, cs, rfl⟩ := List.exists_cons_of_ne_nil hcs
    exact List.dropWhile_cons_of_neg (by simpa using hin c List.mem_cons_self)
  have hreverse : front.reverse ≠ [] ∧ ∀ c ∈ front.reverse, 0x20 < c.toNat :=
    ⟨mt List.reverse_eq_nil_iff.mp hne, fun c hc => hfront c (List.mem_reverse.mp hc)⟩
  have hfilter : front.filter (fun c => !(c == '\t' || c == '\n' || c == '\r')) = front := by
    refine List.filter_eq_self.mpr fun c hc => Bool.not_eq_true' _ |>.mpr ?_
    refine Bool.eq_false_iff.mpr fun hblank => ?_
    simp only [Bool.or_eq_true, beq_iff_eq] at hblank
    have hlow := hfront c hc
    rcases hblank with (rfl | rfl) | rfl <;> exact absurd hlow (by decide)
  unfold clean
  dsimp only
  rw [hkept front hne hfront, List.reverse_append, List.dropWhile_append, cleanEnd]
  split
  next hempty =>
    rw [List.isEmpty_iff.mp hempty]
    have hfrontKept := hkept _ hreverse.1 hreverse.2 []
    rw [List.append_nil] at hfrontKept
    rw [hfrontKept, List.reverse_reverse, hfilter]
    simp
  next =>
    rw [List.reverse_append, List.reverse_reverse, List.filter_append, hfilter]

theorem splitScheme?_append {scheme : List Char} (halpha : scheme.head?.any Char.isAlpha = true)
    (hin : scheme.all inScheme = true) (hlower : scheme.map Char.toLower = scheme)
    (rest : List Char) : splitScheme? (scheme ++ ':' :: rest) = some (scheme, rest) := by
  cases scheme with
  | nil => cases halpha
  | cons c scheme =>
    have halpha : c.isAlpha = true := halpha
    have hin := List.all_eq_true.mp hin
    rw [List.cons_append, splitScheme?, if_pos halpha, ← List.cons_append,
      List.dropWhile_append_of_pos hin, List.takeWhile_append_of_pos hin, List.dropWhile_cons_of_neg (by decide),
      List.takeWhile_cons_of_neg (by decide), List.append_nil, hlower]
    rfl

theorem special_letters : ∀ scheme ∈ specialSchemes.map (·.1),
    scheme.head?.any Char.isAlpha = true ∧ scheme.all inScheme = true ∧
      scheme.all (fun c => 0x20 < c.toNat) = true ∧ scheme.map Char.toLower = scheme := by
  decide

theorem drop_length_takeWhile (p : Char → Bool) (text : List Char) :
    text.drop (text.takeWhile p).length = text.dropWhile p := by
  conv => lhs; arg 2; rw [← List.takeWhile_append_dropWhile (p := p) (l := text)]
  exact List.drop_left

theorem parse_special {scheme : List Char} (hspecial : isSpecial scheme = true)
    (hfile : isFile scheme = false) (rest : List Char) :
    parse (scheme ++ "://".toList ++ rest) = readFull scheme ((cleanEnd rest).dropWhile isSlash) := by
  obtain ⟨halpha, hin, hletters, hlower⟩ := special_letters scheme (by
    obtain ⟨entry, hentry, heq⟩ := List.any_eq_true.mp hspecial
    exact List.mem_map.mpr ⟨entry, hentry, beq_iff_eq.mp heq⟩)
  have hfront : (scheme ++ "://".toList).all (fun c => 0x20 < c.toNat) = true := by
    rw [List.all_append, hletters]
    decide
  rw [parse, clean_append (by simp) hfront, List.append_assoc,
    show "://".toList ++ cleanEnd rest = ':' :: '/' :: '/' :: cleanEnd rest from rfl,
    splitScheme?_append halpha hin hlower]
  dsimp only
  rw [readSchemed, hfile, hspecial]
  dsimp only
  rw [drop_length_takeWhile]
  rfl

theorem readRelative_backslashes (base : RootedUrl) (rest : List Char) :
    readRelative base ('\\' :: '\\' :: rest) =
      readFull base.scheme (rest.dropWhile isSlash) := by
  have hpath : (splitTail base.special ('\\' :: '\\' :: rest)).1 =
      '\\' :: '\\' :: (splitTail base.special rest).1 := rfl
  unfold readRelative
  simp only [hpath]
  have htwo : 2 ≤ (('\\' :: '\\' :: (splitTail base.special rest).1).takeWhile isSlash).length :=
    Nat.le_add_left 2 _
  rw [if_pos (show isSlash '\\' = true from rfl), if_pos htwo]
  rfl

end Url

namespace CallContext

/-- Behind two backslashes a target is as free as a URL that is written out: any address with the
scheme of the base can be named. -/
theorem callback_custom_backslashes {context : CallContext}
    (hspecial : context.base.special = true) (hfile : Url.isFile context.base.scheme = false)
    (options : Options) (rest : String) {url : Url}
    (hurl : Url.parse (context.base.scheme ++ "://".toList ++ rest.toList) = .ok url) :
    context.callback options (.custom ("\\\\" ++ rest)) = url := by
  rw [Url.parse_special hspecial hfile] at hurl
  have htarget : ("\\\\" ++ rest).toList = ['\\', '\\'] ++ rest.toList := String.toList_append
  have hclean : Url.clean (['\\', '\\'] ++ rest.toList) =
      '\\' :: '\\' :: Url.cleanEnd rest.toList :=
    Url.clean_append (by simp) (by decide) _
  have hparse : Url.parse ("\\\\" ++ rest).toList = .error .relative := by
    rw [htarget, Url.parse, hclean]
    rfl
  have hbelow : context.base.below ("\\\\" ++ rest).toList =
      Url.readFull context.base.scheme ((Url.cleanEnd rest.toList).dropWhile Url.isSlash) := by
    have hdrop : (['\\', '\\'] ++ rest.toList).dropWhile (· == '/') =
        ['\\', '\\'] ++ rest.toList := rfl
    rw [htarget, RootedUrl.below, hdrop, Url.resolve, hclean]
    change (if Url.isFile context.base.scheme = true then _ else Url.readRelative _ _) = _
    rw [hfile]
    exact Url.readRelative_backslashes _ _
  rw [callback, customUrl, hparse, hbelow, hurl]

/-- Targets that leave the base: a host behind backslashes, behind a blank or behind a slash and a
scheme, double dots that climb, also encoded, and a slash that the one in front of it protects. -/
theorem callback_custom_leaves_base :
    ∃ context, ofText "" "" "" "https://hooks.example.com/api/voice" = .ok context ∧
      (∀ target ∈ ["\\\\evil.example/x", " //evil.example/x", "/https://evil.example/x", "../x",
          "%2e%2e/x", "/\\x"],
        Url.parse target.toList = .error .relative ∧
          ¬ context.base.Encloses (context.callback {} (.custom target))) ∧
      context.callbackUrl {} (.custom "\\\\evil.example/x") = "https://evil.example/x" := by
  refine ⟨⟨"", "", "", ⟨"https".toList, some ⟨[], [], .name "hooks.example.com".toList, none⟩,
    false, ["api".toList, "voice".toList], ⟨none, none⟩⟩⟩, ?_⟩
  decide +kernel

end CallContext
end CallFlow
