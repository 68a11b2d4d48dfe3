import CallFlow.Proofs.Json.Passed

/-!
# The fields of a text

A text is an object in one way at most: its fields are determined by it, down to the blanks.
-/

namespace CallFlow.Json
set_option autoImplicit false

variable {s s' t t' x x' : List Char}

def Ends (s : List Char) : Prop := ∃ c t, s = c :: t ∧ isSpace c = false ∧ ofNumber c = false

theorem Ends.stops (h : Ends x) (ht : Blanks t) : Stops ofNumber (t ++ x) := by
  obtain ⟨c, x, rfl, -, hc⟩ := h
  exact (stops_blanks ht).append (stops_cons_iff.mpr hc)

theorem Blanks.append_inj {c c' : Char} (ht : Blanks t) (ht' : Blanks t') (hc : isSpace c = false)
    (hc' : isSpace c' = false) (h : t ++ c :: x = t' ++ c' :: x') : t = t' ∧ c = c' ∧ x = x' := by
  have hskip := congrArg skipSpace h
  rw [skipSpace_append_cons ht hc, skipSpace_append_cons ht' hc'] at hskip
  rw [hskip] at h
  exact ⟨List.append_cancel_right h, List.cons.inj hskip⟩

theorem IsString.append_inj (ht : IsString t) (ht' : IsString t')
    (h : t ++ '"' :: x = t' ++ '"' :: x') : t = t' ∧ x = x' := by
  have hrest := (gives_passString ht x).unique (h ▸ gives_passString ht' x')
  obtain rfl := hrest.2
  exact ⟨List.append_cancel_right h, rfl⟩

theorem ValueText.append_inj (ht : ValueText t) (ht' : ValueText t') (hx : Stops ofNumber x)
    (hx' : Stops ofNumber x') (h : t ++ x = t' ++ x') : t = t' ∧ x = x' := by
  have hnil : Blanks [] := nofun
  have hrest := (gives_passValue ht hnil hx).unique (h ▸ gives_passValue ht' hnil hx')
  obtain rfl := hrest.2
  exact ⟨List.append_cancel_right h, rfl⟩

theorem Entry.append_inj {e e' : Entry} (he : e.Named) (he' : e'.Named)
    (hv : ValueText e.value.core) (hv' : ValueText e'.value.core) (hx : Ends x) (hx' : Ends x')
    (h : e.padded.text ++ x = e'.padded.text ++ x') : e = e' ∧ x = x' := by
  obtain ⟨⟨before, name, gap⟩, ⟨blanks, core, behind⟩⟩ := e
  obtain ⟨⟨before', name', gap'⟩, ⟨blanks', core', behind'⟩⟩ := e'
  simp only [padded, Padded.text, List.append_assoc, List.cons_append] at h
  obtain ⟨hbefore, -, h⟩ := he.blanks.1.append_inj he'.blanks.1 rfl rfl h
  obtain ⟨hname, h⟩ := he.name.append_inj he'.name h
  obtain ⟨hgap, -, h⟩ := he.blanks.2.append_inj he'.blanks.2 rfl rfl h
  obtain ⟨c, t, hcore, hc, -⟩ := hv.starts
  obtain ⟨c', t', hcore', hc', -⟩ := hv'.starts
  have hvalue : blanks = blanks' ∧ core ++ (behind ++ x) = core' ++ (behind' ++ x') := by
    dsimp only at hcore hcore'
    rw [hcore, hcore'] at h ⊢
    obtain ⟨hblanks, hhead, htail⟩ := he.value.1.append_inj he'.value.1 hc hc' h
    exact ⟨hblanks, congrArg₂ List.cons hhead htail⟩
  obtain ⟨hcores, h⟩ :=
    hv.append_inj hv' (hx.stops he.value.2) (hx'.stops he'.value.2) hvalue.2
  obtain ⟨d, y, rfl, hd, -⟩ := hx
  obtain ⟨d', y', rfl, hd', -⟩ := hx'
  obtain ⟨hbehind, hhead, htail⟩ := he.value.2.append_inj he'.value.2 hd hd' h
  dsimp only at hbefore hname hgap hcores hbehind
  rw [hbefore, hname, hgap, hvalue.1, hcores, hbehind, hhead, htail]
  exact ⟨rfl, rfl⟩

section Entries
variable {entries entries' : List Entry}

theorem ends_behindOthers (ps : List Padded) (x : List Char) :
    Ends (behindOthers ps ++ '\x7d' :: x) := by
  cases ps with
  | nil => exact ⟨_, _, rfl, rfl, rfl⟩
  | cons p ps => exact ⟨_, _, rfl, rfl, rfl⟩

theorem behindOthers_inj (hentries : ∀ e ∈ entries, e.Named ∧ ValueText e.value.core)
    (hentries' : ∀ e ∈ entries', e.Named ∧ ValueText e.value.core)
    (h : behindOthers (entries.map Entry.padded) ++ '\x7d' :: x =
      behindOthers (entries'.map Entry.padded) ++ '\x7d' :: x') : entries = entries' := by
  induction entries generalizing entries' with
  | nil =>
    cases entries' with
    | nil => rfl
    | cons e' entries' => cases h
  | cons e entries ih =>
    cases entries' with
    | nil => cases h
    | cons e' entries' =>
      obtain ⟨⟨he, hv⟩, hothers⟩ := List.forall_mem_cons.mp hentries
      obtain ⟨⟨he', hv'⟩, hothers'⟩ := List.forall_mem_cons.mp hentries'
      simp only [List.map_cons, behindOthers, List.flatMap_cons, List.cons_append,
        List.append_assoc, List.cons.injEq, true_and] at h
      obtain ⟨rfl, hrest⟩ := Entry.append_inj he he' hv hv'
        (ends_behindOthers _ x) (ends_behindOthers _ x') h
      exact congrArg (e :: ·) (ih hothers hothers' hrest)

theorem Parted.not_empty_and_parts {e : Entry} (he : e.Named) {ps : List Padded}
    {body body' : List Char} (h : Parted '\x7d' [] body) (h' : Parted '\x7d' (e.padded :: ps) body') :
    body ++ x ≠ body' ++ x' := by
  intro heq
  cases h with
  | empty hblanks =>
    cases h'
    simp only [Entry.padded, Padded.text, List.append_assoc, List.cons_append] at heq
    obtain ⟨-, hc, -⟩ := hblanks.append_inj he.blanks.1 rfl rfl heq
    exact absurd hc (by decide)

theorem Parted.entries_inj {body body' : List Char}
    (h : Parted '\x7d' (entries.map Entry.padded) body)
    (h' : Parted '\x7d' (entries'.map Entry.padded) body')
    (hentries : ∀ e ∈ entries, e.Named ∧ ValueText e.value.core)
    (hentries' : ∀ e ∈ entries', e.Named ∧ ValueText e.value.core)
    (heq : body ++ x = body' ++ x') : entries = entries' := by
  cases entries with
  | nil =>
    cases entries' with
    | nil => rfl
    | cons e' entries' =>
      exact absurd heq (not_empty_and_parts (hentries' e' List.mem_cons_self).1 h h')
  | cons e entries =>
    cases entries' with
    | nil =>
      exact absurd heq.symm (not_empty_and_parts (hentries e List.mem_cons_self).1 h' h)
    | cons e' entries' =>
      obtain ⟨⟨he, hv⟩, hothers⟩ := List.forall_mem_cons.mp hentries
      obtain ⟨⟨he', hv'⟩, hothers'⟩ := List.forall_mem_cons.mp hentries'
      cases h
      cases h'
      simp only [List.append_assoc, List.singleton_append] at heq
      obtain ⟨rfl, hrest⟩ := Entry.append_inj he he' hv hv'
        (ends_behindOthers _ x) (ends_behindOthers _ x') heq
      exact congrArg (e :: ·) (behindOthers_inj hothers hothers' hrest)

end Entries

/-- The fields of an object are determined by its text. -/
theorem IsObject.entries_unique {entries entries' : List Entry} {text : String}
    (h : IsObject entries text) (h' : IsObject entries' text) : entries = entries' := by
  obtain ⟨p, hp, ⟨body, hbody, hnamed, hcore⟩, hvalues, htext⟩ := h
  obtain ⟨p', hp', ⟨body', hbody', hnamed', hcore'⟩, hvalues', htext'⟩ := h'
  rw [htext, Padded.text, Padded.text, hcore, hcore'] at htext'
  obtain ⟨-, -, heq⟩ := hp.1.append_inj hp'.1 rfl rfl htext'
  exact hbody.entries_inj hbody' (fun e he => ⟨hnamed e he, hvalues e he⟩)
    (fun e he => ⟨hnamed' e he, hvalues' e he⟩) heq

/-- A text of the grammar that goes on as an object is one. -/
theorem IsJson.exists_isObject {text : String} (h : IsJson text) (hopens : OpensObject text) :
    ∃ entries, IsObject entries text := by
  obtain ⟨p, hp, hvalue, htext⟩ := h
  obtain ⟨blanks, s, hblanks, hopens⟩ := hopens
  obtain ⟨c, t, hcore, hc, -⟩ := hvalue.starts
  have hbrace : c = '\x7b' := by
    rw [htext, Padded.text, hcore] at hopens
    exact (hp.1.append_inj hblanks hc rfl hopens).2.1
  rw [hbrace] at hcore
  rcases hvalue.scalar_or with hscalar | ⟨items, ⟨body, -, -, heq⟩, -⟩ | ⟨entries, hobject, hvalues⟩
  · have hopening := hscalar [] .nil
    rw [hcore, List.cons_append] at hopening
    have hbrace : Gives (passHead ('\x7b' :: (t ++ []))) .object (t ++ []) :=
      gives_ok_iff.mpr ⟨rfl, rfl⟩
    cases (hopening.unique hbrace).1
  · rw [hcore] at heq
    cases heq
  · exact ⟨entries, p, hp, hobject, hvalues, htext⟩

end CallFlow.Json
