import CallFlow.Proofs.Markup.Reader

/-!
# Reading what is written

Elements with proper names are read back: the reader, in whatever element it is, adds one node for
every element that is written, with the strings that the writer was given, less the characters that no
document may hold. Each lemma runs the reader over one more piece of the text, from a single value to
a whole document.
-/

namespace CallFlow.Markup
set_option autoImplicit false

open Text (inRanges)

def isName : List Char → Bool
  | [] => false
  | c :: cs => isNameStart c && cs.all isNameChar

def legal (s : String) : String := String.ofList (s.toList.filter isXmlChar)

def legalAttributes (attributes : List (String × String)) : List (String × String) :=
  attributes.map fun (name, value) => (name, legal value)

/-- Tags with proper names, and no name twice. -/
structure Tag.WellFormed (tag : Tag) : Prop where
  name : isName tag.name.toList = true
  attributes : ∀ name ∈ tag.attributes.map (·.1), isName name.toList = true
  distinct : (tag.attributes.map (·.1)).Nodup

mutual

def Element.WellFormed : Element → Prop
  | .empty tag => tag.WellFormed
  | .text tag _ => tag.WellFormed
  | .nested tag children => tag.WellFormed ∧ AllWellFormed children

def AllWellFormed : List Element → Prop
  | [] => True
  | element :: rest => element.WellFormed ∧ AllWellFormed rest

end

mutual

/-- The node that an element is read as, so many levels below the root. -/
def Element.node (pretty : Bool) (depth : Nat) : Element → Node
  | .empty tag => .element tag.name (legalAttributes tag.attributes) []
  | .text tag content =>
    .element tag.name (legalAttributes tag.attributes)
      (textNodes (content.toList.filter isXmlChar))
  | .nested tag children =>
    .element tag.name (legalAttributes tag.attributes)
      (childNodes pretty (depth + 1) children ++ textNodes (lineStart pretty depth))

/-- Elements with the text that sets them on lines of their own. -/
def childNodes (pretty : Bool) (depth : Nat) : List Element → List Node
  | [] => []
  | element :: rest =>
    textNodes (lineStart pretty depth) ++ element.node pretty depth ::
      childNodes pretty depth rest

end

/-! Text between tags, and values. -/

theorem all_isXmlChar_escapeChars (cs : List Char) : (escapeChars cs).all isXmlChar = true :=
  List.all_eq_true.mpr fun _ hc => isXmlChar_of_mem_escapeChars hc

theorem charData?_escapeChars (cs : List Char) :
    charData? (escapeChars cs) = some (cs.filter isXmlChar) := by
  have hend := holdsSectionEnd_of_notMem (notMem_escapeChars (c := '>') (by decide) cs)
  rw [charData?, all_isXmlChar_escapeChars, hend]
  exact unescape_escapeChars cs

theorem attValue?_escapeChars (cs : List Char) :
    attValue? (escapeChars cs) = some (cs.filter isXmlChar) := by
  have hbracket : (escapeChars cs).contains '<' = false := by
    simpa using notMem_escapeChars (c := '<') (by decide) cs
  rw [attValue?, all_isXmlChar_escapeChars, hbracket]
  exact unescape_escapeChars cs

theorem eq_of_mem_lineStart {pretty : Bool} {depth : Nat} {c : Char}
    (h : c ∈ lineStart pretty depth) : c = '\n' ∨ c = ' ' := by
  cases pretty with
  | false => simp [lineStart] at h
  | true =>
    rcases List.mem_cons.mp h with h | h
    · exact .inl h
    · exact .inr (List.eq_of_mem_replicate h)

theorem notMem_lineStart {c : Char} (h : c ∉ ['\n', ' ']) (pretty : Bool) (depth : Nat) :
    c ∉ lineStart pretty depth := by
  intro hmem
  exact h (by simpa using eq_of_mem_lineStart hmem)

theorem all_isXmlChar_lineStart (pretty : Bool) (depth : Nat) :
    (lineStart pretty depth).all isXmlChar = true := by
  refine List.all_eq_true.mpr fun c hc => ?_
  rcases eq_of_mem_lineStart hc with rfl | rfl <;> decide

theorem charData?_lineStart (pretty : Bool) (depth : Nat) :
    charData? (lineStart pretty depth) = some (lineStart pretty depth) := by
  have hend := holdsSectionEnd_of_notMem
    (notMem_lineStart (c := '>') (by decide) pretty depth)
  rw [charData?, all_isXmlChar_lineStart, hend]
  exact unescape_of_notMem (notMem_lineStart (by decide) pretty depth)

theorem all_isSpace_lineStart (pretty : Bool) (depth : Nat) :
    (lineStart pretty depth).all isSpace = true := by
  refine List.all_eq_true.mpr fun c hc => ?_
  rcases eq_of_mem_lineStart hc with rfl | rfl <;> decide

namespace Progress

def within (p : Progress) (tag : Tag) (children : List Node) : Progress :=
  { p with opened := ⟨tag, children⟩ :: p.opened }

theorem text?_within {raw content : List Char} (p : Progress) (tag : Tag) (children : List Node)
    (h : charData? raw = some content) :
    (p.within tag children).text? raw = some (p.within tag (children ++ textNodes content)) := by
  rw [text?, within, h]
  rfl

theorem add_within (p : Progress) (tag : Tag) (children : List Node) (node : Node) :
    (p.within tag children).add node = p.within tag (children ++ [node]) := rfl

theorem open?_of_admits {p : Progress} (h : p.admits = true) (tag : Tag) :
    p.open? tag = some (p.within tag []) := by
  rw [open?, if_pos h]
  rfl

theorem close?_within (p : Progress) (tag : Tag) (children : List Node) :
    (p.within tag children).close? tag.name.toList =
      some (p.add (.element tag.name tag.attributes children)) := by
  rw [close?, within, String.ofList_toList]
  simp only [if_true]
  rfl

theorem admits_within {p : Progress} (h : p.admits = true) (tag : Tag) (children : List Node) :
    (p.within tag children).admits = true := by
  simp only [admits, Bool.and_eq_true] at h
  simp [admits, within, h.1]

end Progress

namespace State

theorem run_append (s : State) (xs ys : List Char) :
    s.run (xs ++ ys) = (s.run xs).bind fun t => t.run ys := by
  unfold run
  rw [List.foldlM_append]
  rfl

theorem run_cons (s : State) (c : Char) (cs : List Char) :
    s.run (c :: cs) = (s.step c).bind fun t => t.run cs := by
  unfold run
  rw [List.foldlM_cons]
  rfl

theorem run_singleton (s : State) (c : Char) : s.run [c] = s.step c := by
  rw [run_cons]
  cases s.step c <;> rfl

theorem run_collect (mode : List Char → Mode) {p : Progress} {cs : List Char}
    (h : ∀ c ∈ cs, ∀ raw, step ⟨mode raw, p⟩ c = some ⟨mode (raw ++ [c]), p⟩)
    (raw : List Char) : run ⟨mode raw, p⟩ cs = some ⟨mode (raw ++ cs), p⟩ := by
  induction cs generalizing raw with
  | nil => rw [List.append_nil]; rfl
  | cons c cs ih =>
    obtain ⟨hc, hcs⟩ := List.forall_mem_cons.mp h
    rw [run_cons, hc, Option.bind_some, ih hcs, List.append_assoc, List.singleton_append]

variable {p q : Progress} {tag : Tag} {raw cs : List Char}

theorem run_content (h : '<' ∉ cs) :
    run ⟨.content raw, p⟩ cs = some ⟨.content (raw ++ cs), p⟩ := by
  refine run_collect .content (fun c hc raw => ?_) raw
  have hne : c ≠ '<' := fun heq => h (heq ▸ hc)
  simp only [step, if_neg hne]

theorem run_value {declares : Bool} {name : List Char} {quote : Char} (h : quote ∉ cs) :
    run ⟨.value declares tag name quote raw, p⟩ cs =
      some ⟨.value declares tag name quote (raw ++ cs), p⟩ := by
  refine run_collect (.value declares tag name quote) (fun c hc raw => ?_) raw
  have hne : c ≠ quote := fun heq => h (heq ▸ hc)
  simp only [step, if_pos hne]

theorem isNameChar_of_isNameStart {c : Char} (h : isNameStart c = true) :
    isNameChar c = true := by
  rw [isNameChar, h, Bool.true_or]

theorem exists_cons_of_isName (h : isName cs = true) :
    ∃ c rest, cs = c :: rest ∧ isNameStart c = true ∧ ∀ d ∈ rest, isNameChar d = true := by
  cases cs with
  | nil => exact absurd h (by decide)
  | cons c rest =>
    obtain ⟨hc, hrest⟩ := (Bool.and_eq_true _ _).mp h
    exact ⟨c, rest, rfl, hc, List.all_eq_true.mp hrest⟩

theorem run_name (h : isName cs = true) :
    run ⟨.opening, p⟩ cs = some ⟨.name false cs, p⟩ := by
  obtain ⟨c, rest, rfl, hc, hrest⟩ := exists_cons_of_isName h
  have hslash : c ≠ '/' := by rintro rfl; exact absurd hc (by decide)
  have hquestion : c ≠ '?' := by rintro rfl; exact absurd hc (by decide)
  have hstep : step ⟨.opening, p⟩ c = some ⟨.name false [c], p⟩ := by
    simp only [step, if_neg hslash, if_neg hquestion, if_pos hc]
  rw [run_cons, hstep, Option.bind_some]
  refine run_collect (.name false) (fun d hd raw => ?_) [c]
  simp only [step, if_pos (hrest d hd)]

theorem run_closing (h : isName cs = true) :
    run ⟨.closing [], p⟩ cs = some ⟨.closing cs, p⟩ := by
  obtain ⟨c, rest, rfl, hc, hrest⟩ := exists_cons_of_isName h
  refine run_collect .closing (fun d hd raw => ?_) []
  have hname : isNameChar d = true := by
    rcases List.mem_cons.mp hd with rfl | hd
    · exact isNameChar_of_isNameStart hc
    · exact hrest d hd
  simp only [step, if_pos hname]

theorem run_attributeName (h : isName cs = true) :
    run ⟨.gap false tag true, p⟩ cs = some ⟨.attribute false tag cs, p⟩ := by
  obtain ⟨c, rest, rfl, hc, hrest⟩ := exists_cons_of_isName h
  have hspace : ¬ isSpace c = true := by
    intro hspace
    simp only [isSpace, Bool.or_eq_true, beq_iff_eq] at hspace
    rcases hspace with ((rfl | rfl) | rfl) | rfl <;> exact absurd hc (by decide)
  have hstep : step ⟨.gap false tag true, p⟩ c = some ⟨.attribute false tag [c], p⟩ := by
    simp only [step, if_neg hspace, if_pos hc, if_true]
  rw [run_cons, hstep, Option.bind_some]
  refine run_collect (.attribute false tag) (fun d hd raw => ?_) [c]
  simp only [step, if_pos (hrest d hd)]

/-- The modes behind the name of a tag, or behind one of its attributes. -/
inductive Within : Tag → Mode → Prop
  | name (name : List Char) : Within ⟨String.ofList name, []⟩ (.name false name)
  | gap (tag : Tag) : Within tag (.gap false tag false)

namespace Within

variable {mode : Mode} {name value : String}

theorem step_space (h : Within tag mode) :
    step ⟨mode, p⟩ ' ' = some ⟨.gap false tag true, p⟩ := by
  cases h <;> rfl

theorem step_greater (h : Within tag mode) :
    step ⟨mode, p⟩ '>' = (p.open? tag).map (⟨.content [], ·⟩) := by
  cases h <;> rfl

theorem step_slash (h : Within tag mode) : step ⟨mode, p⟩ '/' = some ⟨.ending false tag, p⟩ := by
  cases h <;> rfl

theorem run_attributeText (h : Within tag mode) (hname : isName name.toList = true)
    (hfresh : name ∉ tag.attributes.map (·.1)) :
    run ⟨mode, p⟩ (attributeText name value) =
      some ⟨.gap false ⟨tag.name, tag.attributes ++ [(name, legal value)]⟩ false, p⟩ := by
  -- The value ends at the first quote, and escaped text holds none.
  have hquote : '"' ∉ escapeChars value.toList := notMem_escapeChars (by decide) _
  have hnew : ¬ (tag.attributes.map (·.1)).contains (String.ofList name.toList) = true := by
    rw [String.ofList_toList]
    simpa using hfresh
  have hequals : ∀ name, step ⟨.attribute false tag name, p⟩ '=' =
      some ⟨.quote false tag name, p⟩ := fun _ => rfl
  have hopen : ∀ name, step ⟨.quote false tag name, p⟩ '"' =
      some ⟨.value false tag name '"' [], p⟩ := fun _ => rfl
  simp only [attributeText, run_append, run_cons, List.cons_append, h.step_space,
    Option.bind_some, run_attributeName hname, hequals, hopen, run_value hquote,
    List.nil_append]
  simp only [step, ne_eq, not_true_eq_false, if_false, if_neg hnew, attValue?_escapeChars]
  rw [String.ofList_toList]
  rfl

theorem run_attributes (h : Within tag mode) (attributes : List (String × String))
    (hnames : ∀ name ∈ attributes.map (·.1), isName name.toList = true)
    (hdistinct : ((tag.attributes ++ attributes).map (·.1)).Nodup) :
    ∃ mode', Within ⟨tag.name, tag.attributes ++ legalAttributes attributes⟩ mode' ∧
      run ⟨mode, p⟩ (attributes.flatMap fun (name, value) => attributeText name value) =
        some ⟨mode', p⟩ := by
  induction attributes generalizing tag mode with
  | nil =>
    refine ⟨mode, ?_, rfl⟩
    rw [legalAttributes, List.map_nil, List.append_nil]
    exact h
  | cons pair attributes ih =>
    obtain ⟨name, value⟩ := pair
    obtain ⟨hname, hnames⟩ := List.forall_mem_cons.mp hnames
    have hfresh : name ∉ tag.attributes.map (·.1) := by
      intro hmem
      rw [List.map_append] at hdistinct
      exact (List.nodup_append.mp hdistinct).2.2 name hmem name List.mem_cons_self rfl
    obtain ⟨mode', hmode', hrun⟩ := ih (.gap ⟨tag.name, tag.attributes ++ [(name, legal value)]⟩)
      hnames (by simpa using hdistinct)
    refine ⟨mode', ?_, ?_⟩
    · rw [List.append_assoc] at hmode'
      exact hmode'
    · rw [List.flatMap_cons, run_append, h.run_attributeText hname hfresh, Option.bind_some, hrun]

end Within

theorem run_tagText (h : tag.WellFormed) :
    ∃ mode, Within ⟨tag.name, legalAttributes tag.attributes⟩ mode ∧
      run ⟨.opening, p⟩ tag.text = some ⟨mode, p⟩ := by
  have hname := Within.name tag.name.toList
  rw [String.ofList_toList] at hname
  obtain ⟨mode, hmode, hrun⟩ := hname.run_attributes (p := p) tag.attributes h.attributes h.distinct
  refine ⟨mode, hmode, ?_⟩
  rw [Tag.text, run_append, run_name h.name, Option.bind_some, hrun]

theorem step_bracket (h : p.text? raw = some q) :
    step ⟨.content raw, p⟩ '<' = some ⟨.opening, q⟩ := by
  simp only [step, if_true, h, Option.map_some]

theorem run_openText (h : tag.WellFormed) (htext : p.text? raw = some q)
    (hadmits : q.admits = true) :
    run ⟨.content raw, p⟩ tag.openText =
      some ⟨.content [], q.within ⟨tag.name, legalAttributes tag.attributes⟩ []⟩ := by
  obtain ⟨mode, hmode, hrun⟩ := run_tagText (p := q) h
  rw [Tag.openText, List.cons_append, run_cons, step_bracket htext, Option.bind_some, run_append,
    hrun, Option.bind_some, run_singleton, hmode.step_greater, Progress.open?_of_admits hadmits,
    Option.map_some]

theorem run_emptyText (h : tag.WellFormed) (htext : p.text? raw = some q)
    (hadmits : q.admits = true) :
    run ⟨.content raw, p⟩ ('<' :: tag.text ++ ['/', '>']) =
      some ⟨.content [], q.add (.element tag.name (legalAttributes tag.attributes) [])⟩ := by
  obtain ⟨mode, hmode, hrun⟩ := run_tagText (p := q) h
  rw [List.cons_append, run_cons, step_bracket htext, Option.bind_some, run_append, hrun,
    Option.bind_some, run_cons, hmode.step_slash, Option.bind_some, run_singleton]
  have hempty := Progress.close?_within q ⟨tag.name, legalAttributes tag.attributes⟩ []
  simp only [step, ne_eq, not_true_eq_false, if_false, Bool.false_eq_true, Progress.empty?,
    Progress.open?_of_admits hadmits, Option.bind_some, hempty, Option.map_some]

theorem run_closeText {attributes : List (String × String)} {children : List Node}
    (hname : isName tag.name.toList = true)
    (htext : p.text? raw = some (q.within ⟨tag.name, attributes⟩ children)) :
    run ⟨.content raw, p⟩ tag.closeText =
      some ⟨.content [], q.add (.element tag.name attributes children)⟩ := by
  have hslash : step ⟨.opening, q.within ⟨tag.name, attributes⟩ children⟩ '/' =
      some ⟨.closing [], q.within ⟨tag.name, attributes⟩ children⟩ := rfl
  have hclose := Progress.close?_within q ⟨tag.name, attributes⟩ children
  rw [Tag.closeText, List.cons_append, List.cons_append, run_cons, step_bracket htext,
    Option.bind_some, run_cons, hslash, Option.bind_some, run_append, run_closing hname,
    Option.bind_some, run_singleton]
  change (Progress.close? _ _).map _ = _
  rw [hclose, Option.map_some]

/-- Text that is escaped, up to the next bracket, becomes a child of the element it is in. -/
theorem run_escapeChars (p : Progress) (tag : Tag) (content : List Char) (children : List Node) :
    ∃ raw, run ⟨.content [], p.within tag children⟩ (escapeChars content) =
        some ⟨.content raw, p.within tag children⟩ ∧
      (p.within tag children).text? raw =
        some (p.within tag (children ++ textNodes (content.filter isXmlChar))) := by
  refine ⟨escapeChars content, ?_, ?_⟩
  · rw [run_content (notMem_escapeChars (by decide) content), List.nil_append]
  · exact Progress.text?_within p tag children (charData?_escapeChars content)

theorem run_lineStart (p : Progress) (tag : Tag) (pretty : Bool) (depth : Nat)
    (children : List Node) :
    run ⟨.content [], p.within tag children⟩ (lineStart pretty depth) =
        some ⟨.content (lineStart pretty depth), p.within tag children⟩ ∧
      (p.within tag children).text? (lineStart pretty depth) =
        some (p.within tag (children ++ textNodes (lineStart pretty depth))) := by
  constructor
  · rw [run_content (notMem_lineStart (by decide) _ _), List.nil_append]
  · exact Progress.text?_within p tag children (charData?_lineStart pretty depth)

mutual

/-- Reading an element adds its node to the element around it. -/
theorem run_write (pretty : Bool) (depth : Nat) {p q : Progress} {raw : List Char} :
    ∀ {element : Element}, element.WellFormed → p.text? raw = some q → q.admits = true →
      run ⟨.content raw, p⟩ (element.write pretty depth) =
        some ⟨.content [], q.add (element.node pretty depth)⟩
  | .empty tag, hwell, htext, hadmits => by
    rw [Element.write, Element.node]
    exact run_emptyText hwell htext hadmits
  | .text tag content, hwell, htext, hadmits => by
    obtain ⟨raw', hrun, htext'⟩ := run_escapeChars q
      ⟨tag.name, legalAttributes tag.attributes⟩ content.toList []
    rw [Element.write, Element.node, run_append, run_append, run_openText hwell htext hadmits,
      Option.bind_some, hrun, Option.bind_some, run_closeText hwell.name htext', List.nil_append]
  | .nested tag children, hwell, htext, hadmits => by
    obtain ⟨htag, hchildren⟩ := hwell
    obtain ⟨hline, htext'⟩ := run_lineStart q
      ⟨tag.name, legalAttributes tag.attributes⟩ pretty depth
      (childNodes pretty (depth + 1) children)
    rw [Element.write, Element.node, run_append, run_append, run_append,
      run_openText htag htext hadmits, Option.bind_some,
      run_writeChildren pretty (depth + 1) hchildren hadmits, Option.bind_some, List.nil_append,
      hline, Option.bind_some, run_closeText htag.name htext']

theorem run_writeChildren (pretty : Bool) (depth : Nat) {p : Progress} {tag : Tag}
    {nodes : List Node} :
    ∀ {children : List Element}, AllWellFormed children → p.admits = true →
      run ⟨.content [], p.within tag nodes⟩ (writeChildren pretty depth children) =
        some ⟨.content [], p.within tag (nodes ++ childNodes pretty depth children)⟩
  | [], _, _ => by
    rw [childNodes, List.append_nil]
    rfl
  | element :: rest, hwell, hadmits => by
    obtain ⟨helement, hrest⟩ := hwell
    obtain ⟨hline, htext⟩ := run_lineStart p tag pretty depth nodes
    rw [writeChildren, childNodes, run_append, run_append, hline, Option.bind_some,
      run_write pretty depth helement htext (Progress.admits_within hadmits tag _),
      Option.bind_some, Progress.add_within,
      run_writeChildren pretty depth hrest hadmits]
    simp only [List.append_assoc, List.singleton_append]

end

end State

def standardDeclaration : List (String × String) := [("version", "1.0"), ("encoding", "UTF-8")]

theorem run_declaration : State.start.run declaration =
    some ⟨.content [], ⟨some standardDeclaration, [], none⟩⟩ := rfl

/-- Reading a document gives the node of its root. -/
theorem readDocument_writeDocument (pretty : Bool) {root : Element} (h : root.WellFormed) :
    readDocument (writeDocument pretty root) =
      some ⟨standardDeclaration, root.node pretty 0⟩ := by
  have htext : Progress.text? ⟨some standardDeclaration, [], none⟩ (lineStart pretty 0) =
      some ⟨some standardDeclaration, [], none⟩ := by
    simp [Progress.text?, all_isSpace_lineStart]
  rw [readDocument, writeDocument, State.run_append, State.run_append, run_declaration,
    Option.bind_some, State.run_content (notMem_lineStart (by decide) _ _), Option.bind_some,
    List.nil_append, State.run_write pretty 0 h htext rfl]
  rfl

/-! What is written holds no character that documents may not hold. -/

theorem inRanges_of_within {ranges wider : List (Nat × Nat)} {c : Char}
    (hwithin : ∀ r ∈ ranges, ∃ w ∈ wider, w.1 ≤ r.1 ∧ r.2 ≤ w.2)
    (h : inRanges ranges c = true) : inRanges wider c = true := by
  obtain ⟨r, hr, hc⟩ := List.any_eq_true.mp h
  obtain ⟨w, hw, hlow, hhigh⟩ := hwithin r hr
  simp only [Bool.and_eq_true, decide_eq_true_eq] at hc
  refine List.any_eq_true.mpr ⟨w, hw, ?_⟩
  simp only [Bool.and_eq_true, decide_eq_true_eq]
  omega

theorem isXmlChar_of_isNameChar {c : Char} (h : isNameChar c = true) : isXmlChar c = true := by
  rcases (Bool.or_eq_true _ _).mp h with h | h
  · exact inRanges_of_within (by decide) h
  · exact inRanges_of_within (by decide) h

theorem all_isXmlChar_of_isName {cs : List Char} (h : isName cs = true) :
    cs.all isXmlChar = true := by
  obtain ⟨c, rest, rfl, hc, hrest⟩ := State.exists_cons_of_isName h
  refine List.all_eq_true.mpr (List.forall_mem_cons.mpr ⟨?_, fun d hd => ?_⟩)
  · exact isXmlChar_of_isNameChar (State.isNameChar_of_isNameStart hc)
  · exact isXmlChar_of_isNameChar (hrest d hd)

theorem isXmlChar_tagChars : isXmlChar '<' = true ∧ isXmlChar '>' = true ∧ isXmlChar '/' = true ∧
    isXmlChar ' ' = true ∧ isXmlChar '=' = true ∧ isXmlChar '"' = true := by decide

theorem Tag.WellFormed.all_isXmlChar_text {tag : Tag} (h : tag.WellFormed) :
    tag.text.all isXmlChar = true := by
  have hattributes : ∀ pair ∈ tag.attributes,
      (attributeText pair.1 pair.2).all isXmlChar = true := by
    intro pair hpair
    have hname := all_isXmlChar_of_isName (h.attributes pair.1 (List.mem_map_of_mem hpair))
    simp only [attributeText, List.all_append, List.all_cons, List.all_nil, isXmlChar_tagChars,
      hname, all_isXmlChar_escapeChars, Bool.and_self]
  rw [Tag.text, List.all_append, all_isXmlChar_of_isName h.name, List.all_flatMap]
  exact List.all_eq_true.mpr hattributes

theorem Tag.WellFormed.all_isXmlChar_openText {tag : Tag} (h : tag.WellFormed) :
    tag.openText.all isXmlChar = true := by
  simp only [Tag.openText, List.all_append, List.all_cons, List.all_nil, isXmlChar_tagChars,
    h.all_isXmlChar_text, Bool.and_self]

theorem Tag.WellFormed.all_isXmlChar_closeText {tag : Tag} (h : tag.WellFormed) :
    tag.closeText.all isXmlChar = true := by
  simp only [Tag.closeText, List.all_append, List.all_cons, List.all_nil, isXmlChar_tagChars,
    all_isXmlChar_of_isName h.name, Bool.and_self]

mutual

theorem all_isXmlChar_write (pretty : Bool) (depth : Nat) : ∀ {element : Element},
    element.WellFormed → (element.write pretty depth).all isXmlChar = true
  | .empty tag, hwell => by
    simp only [Element.write, List.all_append, List.all_cons, List.all_nil, isXmlChar_tagChars,
      Tag.WellFormed.all_isXmlChar_text hwell, Bool.and_self]
  | .text tag content, hwell => by
    simp only [Element.write, List.all_append, all_isXmlChar_escapeChars,
      Tag.WellFormed.all_isXmlChar_openText hwell, Tag.WellFormed.all_isXmlChar_closeText hwell,
      Bool.and_self]
  | .nested tag children, hwell => by
    obtain ⟨htag, hchildren⟩ := hwell
    simp only [Element.write, List.all_append, all_isXmlChar_lineStart,
      htag.all_isXmlChar_openText, htag.all_isXmlChar_closeText,
      all_isXmlChar_writeChildren pretty (depth + 1) hchildren, Bool.and_self]

theorem all_isXmlChar_writeChildren (pretty : Bool) (depth : Nat) :
    ∀ {children : List Element}, AllWellFormed children →
      (writeChildren pretty depth children).all isXmlChar = true
  | [], _ => rfl
  | element :: rest, hwell => by
    obtain ⟨helement, hrest⟩ := hwell
    simp only [writeChildren, List.all_append, all_isXmlChar_lineStart,
      all_isXmlChar_write pretty depth helement,
      all_isXmlChar_writeChildren pretty depth hrest, Bool.and_self]

end

theorem all_isXmlChar_writeDocument (pretty : Bool) {root : Element} (h : root.WellFormed) :
    (writeDocument pretty root).all isXmlChar = true := by
  have hdeclaration : declaration.all isXmlChar = true := by decide
  simp only [writeDocument, List.all_append, hdeclaration, all_isXmlChar_lineStart,
    all_isXmlChar_write pretty 0 h, Bool.and_self]

end CallFlow.Markup
