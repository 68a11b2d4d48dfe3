import CallFlow.Proofs.Markup.RoundTrip
import Mathlib.Data.List.SplitBy

/-!
# Lines of a document

A document on several lines is the one on a single line with line feeds and spaces before some of
its tags, and which these are can be told from the single line. `layOut` goes through the pieces of
a document, its tags and what stands between them, and counts the open elements: a tag begins a line
unless it stands behind text, or closes the element that the tag before it has opened. So nothing
gets in between the tags of an element that holds text. Read back, the lines are texts around the
elements inside of an element, and nothing else is different.
-/

namespace CallFlow.Markup
set_option autoImplicit false

/-! Pieces of a document. -/

/-- A document cut before every bracket that opens a tag and behind every one that closes it. -/
def pieces (cs : List Char) : List (List Char) := cs.splitBy fun c d => c != '>' && d != '<'

inductive Role
  | declaration
  | opening
  | closing
  /-- The tag of an element without content. -/
  | alone
  | text
deriving DecidableEq

def role : List Char → Role
  | '<' :: '?' :: _ => .declaration
  | '<' :: '/' :: _ => .closing
  | '<' :: inner => if inner.dropLast.getLast? = some '/' then .alone else .opening
  | _ => .text

/-- Whether a piece begins a line behind another one. -/
def Role.breaks : Role → Role → Bool
  | .text, _ => false
  | .opening, .closing => false
  | _, .text => false
  | _, .declaration => false
  | _, _ => true

def indentation (depth : Nat) : List Char := '\n' :: List.replicate (2 * depth) ' '

/-- Pieces on lines of their own, behind a piece where so many elements are open. -/
def layOut : Nat → Role → List (List Char) → List Char
  | _, _, [] => []
  | depth, before, piece :: rest =>
    let around := if role piece = .closing then depth - 1 else depth
    let inside := if role piece = .opening then depth + 1 else around
    (if before.breaks (role piece) then indentation around else []) ++ piece ++
      layOut inside (role piece) rest

theorem flatten_pieces (cs : List Char) : (pieces cs).flatten = cs := List.flatten_splitBy _ cs

theorem pieces_append {front back : List Char}
    (h : front.getLast? = some '>' ∨ back.head? = some '<') :
    pieces (front ++ back) = pieces front ++ pieces back := by
  apply List.splitBy_append
  intro c hc d hd
  rcases h with h | h
  · obtain rfl : '>' = c := Option.some.inj (h.symm.trans hc)
    rfl
  · obtain rfl : '<' = d := Option.some.inj (h.symm.trans hd)
    simp

theorem pieces_text {cs : List Char} (hne : cs ≠ []) (hopen : '<' ∉ cs) (hclose : '>' ∉ cs) :
    pieces cs = [cs] := by
  apply List.splitBy_of_isChain hne
  apply List.Pairwise.isChain
  refine List.pairwise_of_forall_mem_list fun c hc d hd => ?_
  have hc' : c ≠ '>' := fun heq => hclose (heq ▸ hc)
  have hd' : d ≠ '<' := fun heq => hopen (heq ▸ hd)
  simp [hc', hd']

theorem pieces_tag {cs : List Char} (hopen : '<' ∉ cs) (hclose : '>' ∉ cs) :
    pieces ('<' :: (cs ++ ['>'])) = ['<' :: (cs ++ ['>'])] := by
  have hfront : ∀ c ∈ cs, c ≠ '>' := fun c hc heq => hclose (heq ▸ hc)
  have hback : ∀ c ∈ cs, c ≠ '<' := fun c hc heq => hopen (heq ▸ hc)
  apply List.splitBy_of_isChain (List.cons_ne_nil _ _)
  apply List.Pairwise.isChain
  refine List.pairwise_cons.mpr ⟨?_, List.pairwise_append.mpr ⟨?_, List.pairwise_singleton _ _, ?_⟩⟩
  · intro d hd
    rcases List.mem_append.mp hd with hd | hd
    · simp [hback d hd]
    · simp [List.mem_singleton.mp hd]
  · refine List.pairwise_of_forall_mem_list fun c hc d hd => ?_
    simp [hfront c hc, hback d hd]
  · intro c hc d hd
    simp [hfront c hc, List.mem_singleton.mp hd]

/-! Tags. -/

theorem notMem_of_isName {c : Char} {cs : List Char} (hc : isNameChar c = false)
    (h : isName cs = true) : c ∉ cs := by
  obtain ⟨d, rest, rfl, hd, hrest⟩ := State.exists_cons_of_isName h
  intro hmem
  rcases List.mem_cons.mp hmem with rfl | hmem
  · rw [State.isNameChar_of_isNameStart hd] at hc
    cases hc
  · rw [hrest c hmem] at hc
    cases hc

def brackets : List Char := ['<', '>']

theorem mem_brackets {c : Char} (h : c ∈ brackets) : c = '<' ∨ c = '>' := by
  simpa [brackets] using h

theorem notMem_escapeChars_of_bracket {c : Char} (h : c ∈ brackets) (cs : List Char) :
    c ∉ escapeChars cs := by
  refine notMem_escapeChars ?_ cs
  rcases mem_brackets h with rfl | rfl <;> decide

theorem notMem_name_of_bracket {c : Char} (h : c ∈ brackets) {cs : List Char}
    (hname : isName cs = true) : c ∉ cs := by
  refine notMem_of_isName ?_ hname
  rcases mem_brackets h with rfl | rfl <;> decide

theorem notMem_attributeText {c : Char} (h : c ∈ brackets) {name : String}
    (hname : isName name.toList = true) (value : String) : c ∉ attributeText name value := by
  have hname := notMem_name_of_bracket h hname
  have hvalue := notMem_escapeChars_of_bracket h value.toList
  rcases mem_brackets h with rfl | rfl <;> simp [attributeText, hname, hvalue]

namespace Tag.WellFormed

variable {tag : Tag} (h : tag.WellFormed)
include h

theorem notMem_text {c : Char} (hc : c ∈ brackets) : c ∉ tag.text := by
  intro hmem
  rcases List.mem_append.mp hmem with hmem | hmem
  · exact notMem_name_of_bracket hc h.name hmem
  · obtain ⟨⟨name, value⟩, hpair, hmem⟩ := List.mem_flatMap.mp hmem
    have hattribute := h.attributes name (List.mem_map_of_mem hpair)
    exact notMem_attributeText hc hattribute value hmem

theorem exists_text_eq_cons : ∃ c rest, tag.text = c :: rest ∧ isNameStart c = true := by
  obtain ⟨c, rest, hname, hc, -⟩ := State.exists_cons_of_isName h.name
  exact ⟨c, _, by rw [Tag.text, hname, List.cons_append], hc⟩

theorem getLast?_text : tag.text.getLast? ≠ some '/' := by
  rw [Tag.text, List.getLast?_append]
  rcases List.eq_nil_or_concat tag.attributes with hnil | ⟨front, ⟨name, value⟩, hlast⟩
  · rw [hnil]
    intro hslash
    exact notMem_of_isName (by decide) h.name (List.mem_of_getLast? hslash)
  · have hquote : (attributeText name value).getLast? = some '"' := List.getLast?_concat
    rw [hlast, List.concat_eq_append, List.flatMap_append, List.flatMap_singleton,
      List.getLast?_append, hquote]
    simp

theorem pieces_openText : pieces tag.openText = [tag.openText] :=
  pieces_tag (h.notMem_text (by decide)) (h.notMem_text (by decide))

theorem pieces_emptyText :
    pieces ('<' :: tag.text ++ ['/', '>']) = ['<' :: tag.text ++ ['/', '>']] := by
  have hopen : '<' ∉ tag.text ++ ['/'] := by simpa using h.notMem_text (c := '<') (by decide)
  have hclose : '>' ∉ tag.text ++ ['/'] := by simpa using h.notMem_text (c := '>') (by decide)
  simpa using pieces_tag hopen hclose

theorem pieces_closeText : pieces tag.closeText = [tag.closeText] := by
  have hopen : '<' ∉ '/' :: tag.name.toList := by
    simpa using notMem_name_of_bracket (c := '<') (by decide) h.name
  have hclose : '>' ∉ '/' :: tag.name.toList := by
    simpa using notMem_name_of_bracket (c := '>') (by decide) h.name
  exact pieces_tag hopen hclose

theorem role_tag (cs : List Char) :
    role ('<' :: tag.text ++ cs) =
      if (tag.text ++ cs).dropLast.getLast? = some '/' then .alone else .opening := by
  obtain ⟨c, rest, htext, hc⟩ := h.exists_text_eq_cons
  have hslash : c ≠ '/' := by rintro rfl; exact absurd hc (by decide)
  have hquestion : c ≠ '?' := by rintro rfl; exact absurd hc (by decide)
  rw [htext, List.cons_append, List.cons_append, role]
  · intro inner heq
    exact hquestion (List.head_eq_of_cons_eq heq)
  · intro inner heq
    exact hslash (List.head_eq_of_cons_eq heq)

theorem role_openText : role tag.openText = .opening := by
  rw [openText, h.role_tag, List.dropLast_concat, if_neg h.getLast?_text]

theorem role_emptyText : role ('<' :: tag.text ++ ['/', '>']) = .alone := by
  rw [h.role_tag, ← List.singleton_append, ← List.append_assoc, List.dropLast_concat,
    List.getLast?_concat, if_pos rfl]

end Tag.WellFormed

theorem role_closeText (tag : Tag) : role tag.closeText = .closing := rfl

theorem role_text {cs : List Char} (h : '<' ∉ cs) : role cs = .text := by
  cases cs with
  | nil => rfl
  | cons c cs =>
    have hc : c ≠ '<' := fun heq => h (heq ▸ List.mem_cons_self)
    rw [role]
    all_goals
      intro inner heq
      exact absurd (List.head_eq_of_cons_eq heq) hc

/-! Elements and their pieces. -/

mutual

/-- No element is written with two tags and nothing in between but a line. -/
def Element.Filled : Element → Prop
  | .empty _ => True
  | .text _ _ => True
  | .nested _ children => children ≠ [] ∧ AllFilled children

def AllFilled : List Element → Prop
  | [] => True
  | element :: rest => element.Filled ∧ AllFilled rest

end

def contentPieces (content : String) : List (List Char) :=
  if escapeChars content.toList = [] then [] else [escapeChars content.toList]

mutual

def Element.pieces : Element → List (List Char)
  | .empty tag => ['<' :: tag.text ++ ['/', '>']]
  | .text tag content => tag.openText :: (contentPieces content ++ [tag.closeText])
  | .nested tag children => tag.openText :: (childPieces children ++ [tag.closeText])

def childPieces : List Element → List (List Char)
  | [] => []
  | element :: rest => element.pieces ++ childPieces rest

end

theorem pieces_escapeChars (content : String) :
    pieces (escapeChars content.toList) = contentPieces content := by
  unfold contentPieces
  split
  next hnil => rw [hnil, pieces, List.splitBy_nil]
  next hne =>
    exact pieces_text hne (notMem_escapeChars (by decide) _) (notMem_escapeChars (by decide) _)

theorem getLast?_write (pretty : Bool) (depth : Nat) (element : Element) :
    (element.write pretty depth).getLast? = some '>' := by
  have hclose : ∀ tag : Tag, tag.closeText.getLast? = some '>' := fun tag => List.getLast?_concat
  cases element with
  | empty tag =>
    rw [Element.write, List.getLast?_append]
    rfl
  | text tag content =>
    rw [Element.write, List.getLast?_append, hclose]
    rfl
  | nested tag children =>
    rw [Element.write, List.getLast?_append, hclose]
    rfl

theorem pieces_enclose {tag : Tag} (h : tag.WellFormed) (inner : List Char) :
    pieces (tag.openText ++ inner ++ tag.closeText) =
      tag.openText :: (pieces inner ++ [tag.closeText]) := by
  have hopen : tag.openText.getLast? = some '>' := List.getLast?_concat
  have hclose : tag.closeText.head? = some '<' := rfl
  rw [pieces_append (.inr hclose), pieces_append (.inl hopen), h.pieces_openText,
    h.pieces_closeText]
  rfl

mutual

theorem pieces_write (depth : Nat) : ∀ {element : Element}, element.WellFormed →
    pieces (element.write false depth) = element.pieces
  | .empty tag, hwell => by
    rw [Element.write, Element.pieces]
    exact Tag.WellFormed.pieces_emptyText hwell
  | .text tag content, hwell => by
    rw [Element.write, Element.pieces, pieces_enclose hwell, pieces_escapeChars]
  | .nested tag children, hwell => by
    obtain ⟨htag, hchildren⟩ := hwell
    rw [Element.write, Element.pieces, lineStart, if_neg (by decide), List.append_nil,
      pieces_enclose htag, pieces_writeChildren (depth + 1) hchildren]

theorem pieces_writeChildren (depth : Nat) : ∀ {children : List Element}, AllWellFormed children →
    pieces (writeChildren false depth children) = childPieces children
  | [], _ => by rw [writeChildren, childPieces, pieces, List.splitBy_nil]
  | element :: rest, hwell => by
    obtain ⟨helement, hrest⟩ := hwell
    rw [writeChildren, childPieces, lineStart, if_neg (by decide), List.nil_append,
      pieces_append (.inl (getLast?_write false depth element)), pieces_write depth helement,
      pieces_writeChildren depth hrest]

end

theorem write_false_depth {element : Element} (h : element.WellFormed) (depth depth' : Nat) :
    element.write false depth = element.write false depth' := by
  rw [← flatten_pieces (element.write false depth), pieces_write depth h, ← pieces_write depth' h,
    flatten_pieces]

theorem writeChildren_false (depth : Nat) (children : List Element) :
    writeChildren false depth children = children.flatMap (·.write false depth) := by
  induction children with
  | nil => rfl
  | cons element rest ih =>
    rw [writeChildren, List.flatMap_cons, ih, lineStart, if_neg (by decide), List.nil_append]

theorem writeFragment_append (pretty : Bool) {front back : List Element} (hfront : front ≠ [])
    (hback : back ≠ []) :
    writeFragment pretty (front ++ back) =
      writeFragment pretty front ++ lineStart pretty 0 ++ writeFragment pretty back := by
  have hback' : back.map (·.write pretty 0) ≠ [] := by simpa using hback
  unfold writeFragment
  induction front with
  | nil => exact absurd rfl hfront
  | cons element front ih =>
    rw [List.cons_append, List.map_cons, List.map_cons]
    cases front with
    | nil => rw [List.nil_append, List.intercalate_cons_of_ne_nil hback', List.map_nil,
        List.intercalate_singleton]
    | cons next front =>
      rw [List.intercalate_cons_of_ne_nil (by simp), List.intercalate_cons_of_ne_nil (by simp),
        ih (List.cons_ne_nil next front)]
      simp only [List.append_assoc]

/-! Pieces on lines of their own. -/

def Role.Ends (r : Role) : Prop := r = .closing ∨ r = .alone

theorem Role.Ends.ne_text {r : Role} (h : r.Ends) : r ≠ .text := by
  rcases h with rfl | rfl <;> decide

theorem lineStart_true (depth : Nat) : lineStart true depth = indentation depth := rfl

section LayOut
variable {depth : Nat} {before : Role} {tag : Tag} (rest : List (List Char))

theorem layOut_openText (h : tag.WellFormed) (hbefore : before ≠ .text) :
    layOut depth before (tag.openText :: rest) =
      indentation depth ++ tag.openText ++ layOut (depth + 1) .opening rest := by
  have hbreaks : before.breaks .opening = true := by
    cases before <;> first | rfl | contradiction
  simp [layOut, h.role_openText, hbreaks]

theorem layOut_emptyText (h : tag.WellFormed) (hbefore : before ≠ .text) :
    layOut depth before (('<' :: tag.text ++ ['/', '>']) :: rest) =
      indentation depth ++ ('<' :: tag.text ++ ['/', '>']) ++ layOut depth .alone rest := by
  have hbreaks : before.breaks .alone = true := by
    cases before <;> first | rfl | contradiction
  simp only [layOut, h.role_emptyText, hbreaks]
  rfl

theorem layOut_closeText (hbefore : before.Ends) (tag : Tag) :
    layOut (depth + 1) before (tag.closeText :: rest) =
      indentation depth ++ tag.closeText ++ layOut depth .closing rest := by
  have hbreaks : before.breaks .closing = true := by
    rcases hbefore with rfl | rfl <;> rfl
  simp [layOut, role_closeText, hbreaks]

theorem layOut_content (content : String) (tag : Tag) :
    layOut (depth + 1) .opening (contentPieces content ++ tag.closeText :: rest) =
      escapeChars content.toList ++ tag.closeText ++ layOut depth .closing rest := by
  have hopening : Role.breaks .opening .closing = false := rfl
  have htext : ∀ r, Role.breaks .text r = false := fun r => by cases r <;> rfl
  have hrole := role_text (notMem_escapeChars (c := '<') (by decide) content.toList)
  unfold contentPieces
  split
  next hnil => simp [layOut, role_closeText, hnil, hopening]
  next => simp [layOut, role_closeText, hrole, Role.breaks]

end LayOut

mutual

/-- Laying out the pieces of an element gives the element on several lines. -/
theorem layOut_pieces (depth : Nat) : ∀ {element : Element}, element.WellFormed → element.Filled →
    ∃ after : Role, after.Ends ∧ ∀ (before : Role) (rest : List (List Char)), before ≠ .text →
      layOut depth before (element.pieces ++ rest) =
        indentation depth ++ element.write true depth ++ layOut depth after rest
  | .empty tag, hwell, _ => by
    refine ⟨.alone, .inr rfl, fun before rest hbefore => ?_⟩
    exact layOut_emptyText rest hwell hbefore
  | .text tag content, hwell, _ => by
    refine ⟨.closing, .inl rfl, fun before rest hbefore => ?_⟩
    rw [Element.pieces, Element.write, List.cons_append, List.append_assoc, List.singleton_append,
      layOut_openText _ hwell hbefore, layOut_content]
    simp only [List.append_assoc]
  | .nested tag children, hwell, hfilled => by
    obtain ⟨htag, hchildren⟩ := hwell
    obtain ⟨hne, hfilled⟩ := hfilled
    -- The closing tag stands behind the last child, and so it begins a line.
    obtain ⟨after, hafter, hlayOut⟩ := layOut_childPieces (depth + 1) hne hchildren hfilled
    refine ⟨.closing, .inl rfl, fun before rest hbefore => ?_⟩
    rw [Element.pieces, Element.write, List.cons_append, List.append_assoc, List.singleton_append,
      layOut_openText _ htag hbefore, hlayOut _ _ (by decide), layOut_closeText rest hafter,
      lineStart_true]
    simp only [List.append_assoc]

theorem layOut_childPieces (depth : Nat) : ∀ {children : List Element}, children ≠ [] →
    AllWellFormed children → AllFilled children →
    ∃ after : Role, after.Ends ∧ ∀ (before : Role) (rest : List (List Char)), before ≠ .text →
      layOut depth before (childPieces children ++ rest) =
        writeChildren true depth children ++ layOut depth after rest
  | [], hne, _, _ => absurd rfl hne
  | [element], _, hwell, hfilled => by
    obtain ⟨after, hafter, hlayOut⟩ := layOut_pieces depth hwell.1 hfilled.1
    refine ⟨after, hafter, fun before rest hbefore => ?_⟩
    rw [childPieces, childPieces, List.append_nil, hlayOut before rest hbefore, writeChildren,
      writeChildren, List.append_nil, lineStart_true]
  | element :: next :: others, _, hwell, hfilled => by
    obtain ⟨after, hafter, hlayOut⟩ := layOut_pieces depth hwell.1 hfilled.1
    obtain ⟨last, hlast, hothers⟩ :=
      layOut_childPieces depth (List.cons_ne_nil next others) hwell.2 hfilled.2
    have hwrite : writeChildren true depth (element :: next :: others) =
        indentation depth ++ element.write true depth ++
          writeChildren true depth (next :: others) := by rw [writeChildren, lineStart_true]
    refine ⟨last, hlast, fun before rest hbefore => ?_⟩
    rw [childPieces, List.append_assoc, hlayOut before _ hbefore, hothers _ _ hafter.ne_text,
      hwrite]
    simp only [List.append_assoc]

end

/-- A document on several lines is its single line, laid out. -/
theorem writeDocument_true {root : Element} (hwell : root.WellFormed) (hfilled : root.Filled) :
    writeDocument true root = layOut 0 .text (pieces (writeDocument false root)) := by
  have hdeclaration : pieces declaration = [declaration] := by decide
  have hrole : role declaration = .declaration := by decide
  obtain ⟨after, -, hlayOut⟩ := layOut_pieces 0 hwell hfilled
  have hroot := hlayOut .declaration [] (by decide)
  rw [List.append_nil, layOut, List.append_nil] at hroot
  rw [writeDocument, writeDocument, lineStart_true, lineStart, if_neg (by decide), List.append_nil,
    pieces_append (.inl (by decide)), hdeclaration, pieces_write 0 hwell, List.singleton_append,
    layOut, hrole]
  simp [Role.breaks, hroot]

/-! The lines as a reader sees them. -/

def Node.isElement : Node → Bool
  | .text _ => false
  | .element _ _ _ => true

mutual

/-- A node, so many levels below the root, with the elements inside of an element on lines of their
own. -/
def Node.spread (depth : Nat) : Node → Node
  | .text content => .text content
  | .element name attributes children =>
    .element name attributes
      (if children.any Node.isElement then
        spreadNodes (depth + 1) children ++ [.text (String.ofList (indentation depth))]
      else children)

def spreadNodes (depth : Nat) : List Node → List Node
  | [] => []
  | node :: rest =>
    .text (String.ofList (indentation depth)) :: node.spread depth :: spreadNodes depth rest

end

mutual

def Node.elements : Node → List Node
  | .text _ => []
  | .element name attributes children =>
    .element name attributes children :: elementsIn children

def elementsIn : List Node → List Node
  | [] => []
  | node :: rest => node.elements ++ elementsIn rest

end

mutual

/-- The elements of a node that no element is inside of. -/
def Node.leaves : Node → List Node
  | .text _ => []
  | .element name attributes children =>
    if children.any Node.isElement then leavesIn children else [.element name attributes children]

def leavesIn : List Node → List Node
  | [] => []
  | node :: rest => node.leaves ++ leavesIn rest

end

theorem isElement_spread (depth : Nat) (node : Node) :
    (node.spread depth).isElement = node.isElement := by
  cases node with
  | text content => rfl
  | element name attributes children =>
    rw [Node.spread]
    rfl

theorem any_isElement_spreadNodes (depth : Nat) (nodes : List Node) :
    (spreadNodes depth nodes).any Node.isElement = nodes.any Node.isElement := by
  induction nodes with
  | nil => rfl
  | cons node rest ih =>
    rw [spreadNodes, List.any_cons, List.any_cons, List.any_cons, isElement_spread, ih]
    rfl

theorem leavesIn_append (front back : List Node) :
    leavesIn (front ++ back) = leavesIn front ++ leavesIn back := by
  induction front with
  | nil => rfl
  | cons node rest ih => rw [List.cons_append, leavesIn, leavesIn, ih, List.append_assoc]

mutual

/-- Setting a node on lines changes no element that holds text. -/
theorem leaves_spread (depth : Nat) : ∀ node : Node, (node.spread depth).leaves = node.leaves
  | .text _ => rfl
  | .element name attributes children => by
    cases hany : children.any Node.isElement with
    | false => rw [Node.spread, hany, if_neg (by decide)]
    | true =>
      have hspread : (spreadNodes (depth + 1) children ++
          [Node.text (String.ofList (indentation depth))]).any Node.isElement = true := by
        rw [List.any_append, any_isElement_spreadNodes, hany, Bool.true_or]
      rw [Node.spread, hany, if_pos rfl, Node.leaves, Node.leaves, hspread, hany, if_pos rfl,
        if_pos rfl, leavesIn_append, leavesIn_spreadNodes]
      exact List.append_nil _

theorem leavesIn_spreadNodes (depth : Nat) :
    ∀ nodes : List Node, leavesIn (spreadNodes depth nodes) = leavesIn nodes
  | [] => rfl
  | node :: rest => by
    rw [spreadNodes, leavesIn, leavesIn, leavesIn, leaves_spread, leavesIn_spreadNodes]
    rfl

end

theorem textNodes_indentation (depth : Nat) :
    textNodes (indentation depth) = [.text (String.ofList (indentation depth))] := rfl

theorem any_isElement_textNodes (cs : List Char) : (textNodes cs).any Node.isElement = false := by
  unfold textNodes
  split <;> rfl

theorem isElement_node (pretty : Bool) (depth : Nat) (element : Element) :
    (element.node pretty depth).isElement = true := by
  cases element <;> rw [Element.node] <;> rfl

theorem any_isElement_childNodes (pretty : Bool) (depth : Nat) {children : List Element}
    (h : children ≠ []) : (childNodes pretty depth children).any Node.isElement = true := by
  obtain ⟨element, rest, rfl⟩ := List.exists_cons_of_ne_nil h
  rw [childNodes, List.any_append, List.any_cons, isElement_node]
  simp

mutual

/-- The node of an element on several lines, from that on a single line. -/
theorem node_true (depth : Nat) : ∀ {element : Element}, element.Filled →
    element.node true depth = (element.node false depth).spread depth
  | .empty tag, _ => by
    rw [Element.node, Element.node, Node.spread]
    rfl
  | .text tag content, _ => by
    rw [Element.node, Element.node, Node.spread, any_isElement_textNodes]
    rfl
  | .nested tag children, hfilled => by
    obtain ⟨hne, hfilled⟩ := hfilled
    have hline : textNodes (lineStart false depth) = [] := rfl
    rw [Element.node, Element.node, Node.spread, hline, List.append_nil,
      any_isElement_childNodes false (depth + 1) hne, if_pos rfl, lineStart_true,
      textNodes_indentation, childNodes_true (depth + 1) hfilled]

theorem childNodes_true (depth : Nat) : ∀ {children : List Element}, AllFilled children →
    childNodes true depth children = spreadNodes depth (childNodes false depth children)
  | [], _ => rfl
  | element :: rest, hfilled => by
    obtain ⟨helement, hrest⟩ := hfilled
    have hline : textNodes (lineStart false depth) = [] := rfl
    rw [childNodes, childNodes, hline, List.nil_append, spreadNodes, lineStart_true,
      textNodes_indentation, node_true depth helement, childNodes_true depth hrest]
    rfl

end

end CallFlow.Markup
