import CallFlow.CallContext
import CallFlow.Proofs.Url.Characters

/-!
# URLs that are read

Reading refuses a text or gives a well-formed URL. Each lemma is about one stage of the parser, in
its order, and the last ones are about the addresses of callbacks.
-/

namespace CallFlow
set_option autoImplicit false

namespace Url

theorem wellFormed_readTail (special : Bool) (text : List Char) :
    (readTail special text).WellFormed := by
  unfold readTail
  dsimp only
  split
  next t =>
    refine ⟨fun q hq => ?_, fun f hf => ?_⟩
    · cases hq
      exact avoids_encode_inQuery special _
    · split at hf <;> cases hf
      exact avoids_encode_inFragment _
  next t _ =>
    refine ⟨nofun, fun f hf => ?_⟩
    split at hf <;> cases hf
    exact avoids_encode_inFragment _

theorem wellFormed_splitTail (special : Bool) (text : List Char) :
    (splitTail special text).2.WellFormed :=
  wellFormed_readTail special _

theorem forall_mem_splitTail (special : Bool) (text : List Char) :
    ∀ c ∈ (splitTail special text).1, (c == '?' || c == '#') = false := by
  intro c hc
  have hin := List.all_eq_true.mp List.all_takeWhile c hc
  simpa using hin

def Ensures {α : Type} (P : α → Prop) : Except Error α → Prop
  | .ok a => P a
  | .error _ => True

theorem ensures_throw {α : Type} {P : α → Prop} (cause : Error) :
    Ensures P (throw cause : Except Error α) := trivial

theorem ensures_pure {α : Type} {P : α → Prop} {a : α} (h : P a) :
    Ensures P (pure a : Except Error α) := h

theorem Ensures.bind {α β : Type} {P : α → Prop} {Q : β → Prop} {x : Except Error α}
    {f : α → Except Error β} (hx : Ensures P x) (hf : ∀ a, P a → Ensures Q (f a)) :
    Ensures Q (x >>= f) := by
  cases x with
  | error cause => trivial
  | ok a => exact hf a hx

theorem ensures_true {α : Type} (x : Except Error α) : Ensures (fun _ => True) x := by
  cases x <;> trivial

theorem ensures_readIpv4 (name : List Char) : Ensures Host.WellFormed (Host.readIpv4 name) := by
  unfold Host.readIpv4
  split <;> trivial

theorem ensures_readIpv6 (text : List Char) : Ensures Host.WellFormed (Host.readIpv6 text) := by
  unfold Host.readIpv6
  dsimp only
  split
  · split <;> trivial
  · split <;> trivial
  · trivial

theorem Host.forbiddenInName_of_opensTail {c : Char} (h : opensTail c = true) :
    forbiddenInName c = true := by
  simp only [opensTail, Bool.or_eq_true, beq_iff_eq] at h
  rcases h with (h | rfl) | rfl
  · rw [forbiddenInName, h, Bool.true_or]
  · rfl
  · rfl

theorem Host.forbidden_of_sign {c : Char} (h : (c == '?' || c == '#') = true) :
    forbidden c = true := by
  simp only [Bool.or_eq_true, beq_iff_eq] at h
  rcases h with rfl | rfl <;> rfl

theorem ensures_ofSpecial (text : List Char) : Ensures Host.WellFormed (Host.ofSpecial text) := by
  unfold Host.ofSpecial
  split
  next inner _ => exact (ensures_true inner).bind fun inner _ => ensures_readIpv6 inner
  next =>
    split
    · exact ensures_throw _
    next domain _ =>
      split
      · exact ensures_throw _
      next hkept =>
        have hdomain : Avoids opensTail domain := by
          intro c hc
          refine Bool.eq_false_iff.mpr fun hopens => hkept (List.any_eq_true.mpr ⟨c, hc, ?_⟩)
          exact Host.forbiddenInName_of_opensTail hopens
        split
        · exact ensures_throw _
        · split
          · exact ensures_readIpv4 _
          · exact ensures_pure hdomain

theorem ensures_ofOther (text : List Char) : Ensures Host.WellFormed (Host.ofOther text) := by
  unfold Host.ofOther
  split
  next inner _ => exact (ensures_true inner).bind fun inner _ => ensures_readIpv6 inner
  next =>
    split
    · exact ensures_throw _
    next hkept =>
      split
      · trivial
      · refine ensures_pure (avoids_encode_controls fun c hc => ?_)
        refine Bool.eq_false_iff.mpr fun hsign => hkept (List.any_eq_true.mpr ⟨c, hc, ?_⟩)
        exact Host.forbidden_of_sign hsign

theorem ensures_readAuthority (scheme text : List Char) :
    Ensures (fun read => read.1.WellFormed) (readAuthority scheme text) := by
  unfold readAuthority
  extract_lets special inPart part rest
  generalize splitUserinfo part = split
  obtain ⟨userinfo, part⟩ := split
  have hauthority : ∀ (host : Host) (port : Option Nat), host.WellFormed → Authority.WellFormed
      ⟨(splitPassword (userinfo.getD [])).1, (splitPassword (userinfo.getD [])).2, host, port⟩ :=
    fun host port hhost =>
      ⟨avoids_encode_inUserinfo _, avoids_encode_inUserinfo _, hhost⟩
  dsimp -zeta only
  extract_lets hasUser finish readHost readNonempty
  have hfinish : ∀ host : Host, host.WellFormed →
      Ensures (fun read => read.1.WellFormed) (finish host) := by
    intro host hhost
    dsimp only [finish]
    split
    · trivial
    · split
      next portText _ =>
        exact (ensures_true (readPort scheme portText)).bind fun _ _ => hauthority host _ hhost
      next => exact hauthority host none hhost
  have hreadHost : Ensures (fun read => read.1.WellFormed) (readHost ()) := by
    dsimp only [readHost]
    split
    · exact (ensures_ofSpecial _).bind hfinish
    · exact (ensures_ofOther _).bind hfinish
  split
  · trivial
  · dsimp only [readNonempty]
    split
    · trivial
    · exact hreadHost

theorem wellFormedPath_root (scheme : List Char) : WellFormedPath scheme [[]] :=
  ⟨List.forall_mem_singleton.mpr avoids_nil, fun _ _ => rfl⟩

theorem wellFormedPath_readPath (scheme text : List Char) :
    WellFormedPath scheme (readPath scheme text) := by
  have hresolve := wellFormedPath_resolvePath (List.forall_mem_nil _) scheme
  unfold readPath
  split
  · split
    · exact wellFormedPath_root scheme
    · exact ⟨List.forall_mem_nil _, fun _ => nofun⟩
  · split
    · exact hresolve _
    · exact hresolve _

theorem ensures_readFull {scheme : List Char} (hscheme : Avoids opensTail scheme)
    (text : List Char) : Ensures WellFormed (readFull scheme text) := by
  refine (ensures_readAuthority scheme text).bind fun read hread => ?_
  obtain ⟨authority, rest⟩ := read
  refine ⟨hscheme, fun a ha => ?_, wellFormedPath_readPath scheme _, wellFormed_splitTail _ rest⟩
  obtain rfl := Option.some.inj ha
  exact hread

theorem wellFormed_withoutAuthority {scheme : List Char} {segments : List (List Char)} {tail : Tail}
    (hscheme : Avoids opensTail scheme) (hpath : WellFormedPath scheme segments)
    (htail : tail.WellFormed) :
    WellFormed (withoutAuthority scheme segments tail) :=
  ⟨hscheme, nofun, hpath, htail⟩

theorem wellFormed_withPath {base : RootedUrl} {segments : List (List Char)} {tail : Tail}
    (hbase : base.WellFormed) (hpath : WellFormedPath base.scheme segments)
    (htail : tail.WellFormed) :
    WellFormed (withPath base segments tail) := by
  unfold withPath
  split
  · exact { hbase with path := hpath, tail := htail }
  · exact wellFormed_withoutAuthority hbase.scheme hpath htail

theorem avoids_parent {base : RootedUrl} (hbase : base.WellFormed) :
    ∀ s ∈ parent base, Avoids opensTail s := by
  unfold parent
  split
  · split
    · exact hbase.path.avoids
    · exact fun s hs => hbase.path.avoids s (List.dropLast_subset _ hs)
  · exact List.forall_mem_nil _

theorem ensures_readRelative {base : RootedUrl} (hbase : base.WellFormed) (text : List Char) :
    Ensures WellFormed (readRelative base text) := by
  have htail := wellFormed_splitTail base.special text
  unfold readRelative
  dsimp only
  split
  · refine { hbase with tail := ?_ }
    split
    · exact htail
    · exact ⟨hbase.tail.query, htail.fragment⟩
  · split
    · split
      · exact ensures_readFull hbase.scheme _
      · exact wellFormed_withPath hbase (wellFormedPath_resolvePath (List.forall_mem_nil _) _ _) htail
    · exact wellFormed_withPath hbase (wellFormedPath_resolvePath (avoids_parent hbase) _ _) htail

theorem Authority.wellFormed_blank {host : Host} (h : host.WellFormed) :
    Authority.WellFormed { Authority.blank with host } :=
  ⟨avoids_nil, avoids_nil, h⟩

theorem wellFormed_file (host : Host) {segments : List (List Char)} {tail : Tail}
    (hhost : host.WellFormed) (hpath : WellFormedPath "file".toList segments)
    (htail : tail.WellFormed) :
    WellFormed
      (.rooted ⟨"file".toList, some { Authority.blank with host }, false, segments, tail⟩) := by
  have hscheme : Avoids opensTail "file".toList := by decide
  refine ⟨hscheme, fun a ha => ?_, hpath, htail⟩
  obtain rfl := Option.some.inj ha
  exact Authority.wellFormed_blank hhost

theorem ensures_readFileHost (text : List Char) : Ensures WellFormed (readFileHost text) := by
  have htail := wellFormed_splitTail true text
  unfold readFileHost
  dsimp only
  split
  · exact wellFormed_file .empty trivial (wellFormedPath_resolvePath (List.forall_mem_nil _) _ _)
      htail
  · refine (ensures_ofSpecial _).bind fun host hhost => ?_
    refine wellFormed_file _ ?_ (wellFormedPath_readPath _ _) htail
    split
    · trivial
    · exact hhost

theorem wellFormed_keptOf {base : Option RootedUrl} (hbase : ∀ b ∈ base, b.WellFormed)
    (path : List Char) :
    (∀ s ∈ (keptOf base path).1, Avoids opensTail s) ∧ (keptOf base path).2.WellFormed := by
  unfold keptOf
  split
  · exact ⟨List.forall_mem_nil _, trivial⟩
  next b =>
    have hb : b.WellFormed := hbase b rfl
    split
    · exact ⟨List.forall_mem_nil _, trivial⟩
    · split
      · refine ⟨List.forall_mem_nil _, ?_⟩
        cases hauthority : b.authority with
        | none => trivial
        | some a => exact (hb.authority a hauthority).host
      next drive hdrive =>
        refine ⟨fun s hs => hb.path.avoids s ?_, trivial⟩
        have hmem : s ∈ (b.segments.take 1).filter isDrive := hs
        exact List.take_subset 1 _ (List.mem_filter.mp hmem).1

theorem ensures_readFile {base : Option RootedUrl} (hbase : ∀ b ∈ base, b.WellFormed)
    (hfile : ∀ b ∈ base, isFile b.scheme = true) (text : List Char) :
    Ensures WellFormed (readFile base text) := by
  have htail := wellFormed_splitTail true text
  unfold readFile
  dsimp only
  split
  · exact wellFormed_file .empty trivial (wellFormedPath_root _) htail
  next b _ => exact ensures_readRelative (hbase b rfl) text
  · split
    · split
      · exact ensures_readFileHost _
      · obtain ⟨hdrive, hhost⟩ := wellFormed_keptOf hbase _
        exact wellFormed_file _ hhost (wellFormedPath_resolvePath hdrive _ _) htail
    · split
      next b =>
        have hb : b.WellFormed := hbase b rfl
        split
        · exact wellFormed_file .empty trivial
            (wellFormedPath_resolvePath (List.forall_mem_nil _) _ _) htail
        · have hscheme : b.scheme = "file".toList := beq_iff_eq.mp (hfile b rfl)
          refine wellFormed_withPath hb ?_ htail
          rw [hscheme]
          exact wellFormedPath_resolvePath (avoids_parent hb) _ _
      next =>
        exact wellFormed_file .empty trivial
          (wellFormedPath_resolvePath (List.forall_mem_nil _) _ _) htail

theorem ensures_readSchemed {base : Option RootedUrl} (hbase : ∀ b ∈ base, b.WellFormed)
    {scheme : List Char} (hscheme : Avoids opensTail scheme) (text : List Char) :
    Ensures WellFormed (readSchemed base scheme text) := by
  unfold readSchemed
  split
  · exact ensures_readFile (fun b hb => hbase b (Option.mem_filter_iff.mp hb).1)
      (fun b hb => (Option.mem_filter_iff.mp hb).2) text
  · split
    · dsimp only
      split
      next b =>
        split
        · exact ensures_readRelative (hbase b rfl) text
        · exact ensures_readFull hscheme _
      next => exact ensures_readFull hscheme _
    · split
      · exact ensures_readFull hscheme _
      · exact wellFormed_withoutAuthority hscheme
          (wellFormedPath_resolvePath (List.forall_mem_nil _) _ _) (wellFormed_splitTail false _)
      · exact ⟨hscheme, avoids_encode_controls (forall_mem_splitTail false text),
          wellFormed_splitTail false text⟩

theorem avoids_of_splitScheme? {text scheme rest : List Char}
    (h : splitScheme? text = some (scheme, rest)) : Avoids opensTail scheme := by
  have hin : ∀ c ∈ text.takeWhile inScheme, opensTail c.toLower = false := by
    intro c hc
    have hscheme := List.all_eq_true.mp List.all_takeWhile c hc
    simp only [inScheme, Bool.or_eq_true, beq_iff_eq] at hscheme
    rcases hscheme with ((h | rfl) | rfl) | rfl
    · exact opensTail_toLower_of_isAlphanum h
    · decide
    · decide
    · decide
  unfold splitScheme? at h
  split at h
  · cases h
  · split at h
    · split at h
      · cases h
        intro c hc
        obtain ⟨d, hd, rfl⟩ := List.mem_map.mp hc
        exact hin d hd
      · cases h
    · cases h

theorem ensures_parse (text : List Char) : Ensures WellFormed (parse text) := by
  unfold parse
  split
  next scheme rest hsplit =>
    have hnone : ∀ b ∈ (none : Option RootedUrl), b.WellFormed :=
      fun b h => absurd h (Option.not_mem_none b)
    exact ensures_readSchemed hnone (avoids_of_splitScheme? hsplit) rest
  next => trivial

theorem ensures_resolve {base : RootedUrl} (hbase : base.WellFormed) (text : List Char) :
    Ensures WellFormed (resolve base text) := by
  have hsome : ∀ b ∈ some base, b.WellFormed := fun b hb => Option.some.inj hb ▸ hbase
  unfold resolve
  dsimp only
  split
  next scheme rest hsplit => exact ensures_readSchemed hsome (avoids_of_splitScheme? hsplit) rest
  next =>
    split
    next hfile => exact ensures_readFile hsome (fun b hb => Option.some.inj hb ▸ hfile) _
    next => exact ensures_readRelative hbase _

end Url

/-! Addresses that a call gives out. -/

namespace CallContext

theorem base_of_ofText {P : Url → Prop} {caller called callSid base : String}
    {context : CallContext} (hparse : Url.Ensures P (Url.parse base.toList))
    (h : ofText caller called callSid base = .ok context) : P (.rooted context.base) := by
  unfold ofText at h
  split at h
  next url hurl =>
    cases h
    rw [hurl] at hparse
    exact hparse
  next => cases h
  next => cases h

theorem wellFormed_base_of_ofText {caller called callSid base : String} {context : CallContext}
    (h : ofText caller called callSid base = .ok context) : context.base.WellFormed :=
  base_of_ofText (Url.ensures_parse base.toList) h

variable {context : CallContext}

theorem wellFormed_customUrl (hbase : context.base.WellFormed) (target : String) :
    (context.customUrl target).WellFormed := by
  have hparse := Url.ensures_parse target.toList
  have hbelow := Url.ensures_resolve hbase.directory (target.toList.dropWhile (· == '/'))
  unfold customUrl
  split
  next url hurl =>
    rw [hurl] at hparse
    exact hparse
  next =>
    split
    next url hurl =>
      rw [RootedUrl.below] at hurl
      rw [hurl] at hbelow
      exact hbelow
    next => exact hbase.endpoint target.toList

theorem wellFormed_callback (hbase : context.base.WellFormed) (options : Options)
    (callback : Callback) : (context.callback options callback).WellFormed := by
  cases callback with
  | gather blockId => exact (hbase.endpoint options.gatherPath.toList).addPair _ _
  | dialStatus => exact hbase.endpoint options.statusPath.toList
  | recordingStatus => exact hbase.endpoint options.recordingPath.toList
  | menu => exact hbase.endpoint options.menuPath.toList
  | custom target => exact wellFormed_customUrl hbase target

/-- Callback addresses are printable ASCII, whatever the block, the target or the path is. -/
theorem avoids_callbackUrl (hbase : context.base.WellFormed) (options : Options)
    (callback : Callback) :
    Url.Avoids Url.controls (context.callbackUrl options callback).toList := by
  rw [callbackUrl, Url.toText, String.toList_ofList]
  exact (wellFormed_callback hbase options callback).text

end CallContext
end CallFlow
