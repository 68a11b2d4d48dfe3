import CallFlow.Proofs.Markup.Layout
import CallFlow.Proofs.Markup.VerbTree

/-!
# Pretty documents

Indenting is the one option that only the writer of a document looks at. The verbs of a response
make the same element tree either way: elements inside of a response, a gather or a dialled call
stand on lines of their own, as prosody inside of speech does, and whatever is spoken, dialled,
played or sent stays as it is.
-/

namespace CallFlow
set_option autoImplicit false

open Markup

variable {context : CallContext} {options : Options}

/-! Elements do not depend on indenting. -/

theorem CallContext.callbackUrl_pretty (context : CallContext) (options : Options) (pretty : Bool)
    (callback : Callback) :
    context.callbackUrl { options with pretty := pretty } callback =
      context.callbackUrl options callback := by
  cases callback <;> rfl

theorem Verb.element_pretty (context : CallContext) (options : Options) (pretty : Bool) :
    Verb.element context { options with pretty := pretty } = Verb.element context options := by
  funext verb
  cases verb with
  | gather g => simp only [Verb.element, context.callbackUrl_pretty]
  | dial d => simp only [Verb.element, context.callbackUrl_pretty]
  | record r => simp only [Verb.element, context.callbackUrl_pretty]
  | _ => rfl

theorem responseElement_pretty (context : CallContext) (options : Options) (pretty : Bool)
    (verbs : List Verb) :
    responseElement context { options with pretty := pretty } verbs =
      responseElement context options verbs := by
  rw [responseElement, responseElement, Verb.element_pretty]

/-! No element of a response is nested without need. -/

theorem Speech.filled_element (speech : Speech) : speech.element.Filled := by
  obtain ⟨text, voice, language, rate⟩ := speech
  cases rate with
  | none => trivial
  | some rate => exact ⟨List.cons_ne_nil _ _, trivial, trivial⟩

theorem Verb.filled_element (verb : Verb) : (verb.element context options).Filled := by
  cases verb with
  | say speech => exact speech.filled_element
  | gather g =>
    obtain ⟨numDigits, timeout, action, prompt⟩ := g
    cases prompt with
    | none => trivial
    | some prompt => exact ⟨List.cons_ne_nil _ _, prompt.filled_element, trivial⟩
  | dial d =>
    obtain ⟨number, timeout, holdMusic, statusCallback⟩ := d
    cases holdMusic with
    | none => exact ⟨List.cons_ne_nil _ _, trivial, trivial⟩
    | some music => exact ⟨List.cons_ne_nil _ _, trivial, trivial, trivial⟩
  | _ => trivial

theorem allFilled_map_element (verbs : List Verb) :
    AllFilled (verbs.map (Verb.element context options)) := by
  induction verbs with
  | nil => trivial
  | cons verb verbs ih => exact ⟨verb.filled_element, ih⟩

theorem filled_responseElement (verbs : List Verb) :
    (responseElement context options verbs).Filled := by
  unfold responseElement
  cases verbs with
  | nil => trivial
  | cons verb verbs => exact ⟨List.cons_ne_nil _ _, allFilled_map_element (verb :: verbs)⟩

/-! What is inside of which elements. -/

/-- The content that an element of a response has by its name. -/
inductive Markup.Node.Holds : Node → Prop
  | elements {name : String} {attributes : List (String × String)} {children : List Node} :
      name ∈ ["Response", "Gather", "Dial"] → (∀ child ∈ children, child.isElement = true) →
      Holds (.element name attributes children)
  | prosody {attributes attributes' : List (String × String)} {children : List Node} :
      Holds (.element "Say" attributes [.element "prosody" attributes' children])
  | text {name : String} {attributes : List (String × String)} {children : List Node} :
      name ∈ ["Say", "prosody", "Number", "Play", "Sms"] →
      (∀ child ∈ children, child.isElement = false) → Holds (.element name attributes children)
  | nothing {name : String} {attributes : List (String × String)} :
      name ∈ ["Pause", "Record", "Hangup"] → Holds (.element name attributes [])

/-- All elements in a node have the content of their names. -/
def Markup.Node.Regular (node : Node) : Prop := ∀ element ∈ node.elements, element.Holds

theorem elementsIn_textContent (s : String) : elementsIn (textContent s) = [] := by
  unfold textContent textNodes
  split <;> rfl

theorem isElement_of_mem_textContent {s : String} :
    ∀ child ∈ textContent s, child.isElement = false := by
  have hany := any_isElement_textNodes (s.toList.filter isXmlChar)
  simpa [textContent] using hany

theorem regular_of_text (name : String) {attributes : List (String × String)} {s : String}
    (h : name ∈ ["Say", "prosody", "Number", "Play", "Sms"]) :
    (elementNode name attributes (textContent s)).Regular := by
  intro element helement
  rw [elementNode, Node.elements, elementsIn_textContent] at helement
  rw [List.mem_singleton.mp helement]
  exact .text h isElement_of_mem_textContent

theorem mem_elementsIn {element : Node} {nodes : List Node} :
    element ∈ elementsIn nodes ↔ ∃ node ∈ nodes, element ∈ node.elements := by
  induction nodes with
  | nil => simp [elementsIn]
  | cons node rest ih => simp [elementsIn, ih]

theorem regular_of_holds (name : String) {attributes : List (String × String)}
    {children : List Node} (hself : Node.Holds (.element name attributes children))
    (hchildren : ∀ child ∈ children, child.Regular) :
    Node.Regular (.element name attributes children) := by
  intro element helement
  rw [Node.elements] at helement
  rcases List.mem_cons.mp helement with rfl | helement
  · exact hself
  · obtain ⟨child, hchild, helement⟩ := mem_elementsIn.mp helement
    exact hchildren child hchild element helement

theorem Speech.regular_node (speech : Speech) :
    (elementNode "Say" speech.attributes speech.content).Regular := by
  obtain ⟨text, voice, language, rate⟩ := speech
  cases rate with
  | none => exact regular_of_text "Say" (by decide)
  | some rate =>
    refine regular_of_holds "Say" .prosody (List.forall_mem_singleton.mpr ?_)
    exact regular_of_text "prosody" (by decide)

theorem Verb.regular_node (verb : Verb) : (verb.node context options).Regular := by
  cases verb with
  | say speech => exact speech.regular_node
  | gather g =>
    obtain ⟨numDigits, timeout, action, prompt⟩ := g
    cases prompt with
    | none => exact regular_of_holds "Gather" (.elements (by decide) nofun) nofun
    | some prompt =>
      refine regular_of_holds "Gather" (.elements (by decide) ?_) ?_
      · exact List.forall_mem_singleton.mpr rfl
      · exact List.forall_mem_singleton.mpr prompt.regular_node
  | dial d =>
    obtain ⟨number, timeout, holdMusic, statusCallback⟩ := d
    have hnumber : (elementNode "Number"
        [("statusCallback", context.callbackUrl options statusCallback),
          ("statusCallbackEvent", "initiated ringing answered completed")]
        (textContent number)).Regular := regular_of_text "Number" (by decide)
    cases holdMusic with
    | none =>
      refine regular_of_holds "Dial" (.elements (by decide) ?_) ?_
      · exact List.forall_mem_singleton.mpr rfl
      · exact List.forall_mem_singleton.mpr hnumber
    | some music =>
      have hmusic : (elementNode "Play" music.attributes (textContent music.url)).Regular :=
        regular_of_text "Play" (by decide)
      refine regular_of_holds "Dial" (.elements (by decide) ?_) ?_
      · exact List.forall_mem_cons.mpr ⟨rfl, List.forall_mem_singleton.mpr rfl⟩
      · exact List.forall_mem_cons.mpr ⟨hmusic, List.forall_mem_singleton.mpr hnumber⟩
  | play playback => exact regular_of_text "Play" (by decide)
  | sms reply => exact regular_of_text "Sms" (by decide)
  | pause length => exact regular_of_holds "Pause" (.nothing (by decide)) nofun
  | record r => exact regular_of_holds "Record" (.nothing (by decide)) nofun
  | hangup => exact regular_of_holds "Hangup" (.nothing (by decide)) nofun

theorem regular_response (verbs : List Verb) :
    Node.Regular (.element "Response" [] (verbs.map (Verb.node context options))) := by
  refine regular_of_holds "Response" (.elements (by decide) ?_) ?_
  · intro child hchild
    obtain ⟨verb, -, rfl⟩ := List.mem_map.mp hchild
    rfl
  · intro child hchild
    obtain ⟨verb, -, rfl⟩ := List.mem_map.mp hchild
    exact verb.regular_node

/-! Fragments. -/

theorem toList_renderFragment_singleton (context : CallContext) (options : Options) (verb : Verb) :
    (renderFragment context options [verb]).toList =
      (verb.element context options).write options.pretty 0 := by
  rw [renderFragment, String.toList_ofList, writeFragment, List.map_singleton, List.map_singleton,
    List.intercalate_singleton]

theorem renderFragment_append (context : CallContext) (options : Options) {front back : List Verb}
    (hfront : front ≠ []) (hback : back ≠ []) :
    renderFragment context options (front ++ back) =
      renderFragment context options front ++ String.ofList (lineStart options.pretty 0) ++
        renderFragment context options back := by
  rw [renderFragment, renderFragment, renderFragment, ← String.ofList_append,
    ← String.ofList_append, List.map_append, writeFragment_append]
  · simpa using hfront
  · simpa using hback

theorem toList_declaration :
    ("<?xml version=\"1.0\" encoding=\"UTF-8\"?>" : String).toList = declaration := rfl

theorem toList_openResponse : ("<Response>" : String).toList = Tag.openText ⟨"Response", []⟩ := rfl

theorem toList_closeResponse :
    ("</Response>" : String).toList = Tag.closeText ⟨"Response", []⟩ := rfl

theorem renderDocument_compact (context : CallContext) (options : Options)
    (hpretty : options.pretty = false) {verbs : List Verb} (h : verbs ≠ []) :
    renderDocument context options verbs =
      "<?xml version=\"1.0\" encoding=\"UTF-8\"?>" ++ "<Response>" ++
        String.join (verbs.map fun verb => renderFragment context options [verb]) ++
        "</Response>" := by
  have hfragment : ∀ verb : Verb, (verb.element context options).write false 1 =
      (renderFragment context options [verb]).toList := by
    intro verb
    rw [toList_renderFragment_singleton, hpretty]
    exact write_false_depth verb.wellFormed_element 1 0
  have hempty : ¬ verbs.isEmpty = true := by simpa using h
  have hline : ∀ depth, lineStart false depth = [] := fun _ => rfl
  apply String.toList_inj.mp
  rw [renderDocument, String.toList_ofList, hpretty, responseElement, if_neg hempty, writeDocument,
    Element.write, writeChildren_false, List.flatMap_map, hline, List.append_nil, List.append_nil]
  simp only [hfragment]
  rw [String.toList_append, String.toList_append, String.toList_append, String.toList_join,
    toList_declaration, toList_openResponse, toList_closeResponse, List.flatMap_map]
  simp only [List.append_assoc]

/-- With and without lines, the document of any verbs is read as one element tree, but for the
lines, and these are not inside of any element that holds text: only a response, a gather, a dialled
call and speech with prosody have elements inside of them. The lines are those of `layOut`, a line
feed and two spaces for every open element before some of the tags. On a single line, documents and
fragments are made of the fragments of the verbs, and otherwise fragments are set on lines. -/
theorem renderDocument_pretty (context : CallContext) (options : Options) (verbs : List Verb) :
    let compact := { options with pretty := false }
    let pretty := { options with pretty := true }
    let root := Node.element "Response" [] (verbs.map (Verb.node context options))
    (readDocument (renderDocument context compact verbs).toList =
        some ⟨standardDeclaration, root⟩ ∧
      readDocument (renderDocument context pretty verbs).toList =
        some ⟨standardDeclaration, root.spread 0⟩ ∧
      root.Regular ∧ (root.spread 0).leaves = root.leaves) ∧
    (renderDocument context pretty verbs).toList =
      layOut 0 .text (pieces (renderDocument context compact verbs).toList) ∧
    (verbs ≠ [] → renderDocument context compact verbs =
      "<?xml version=\"1.0\" encoding=\"UTF-8\"?>" ++ "<Response>" ++
        String.join (verbs.map fun verb => renderFragment context compact [verb]) ++
        "</Response>") ∧
    ∀ front back, front ≠ [] → back ≠ [] →
      renderFragment context compact (front ++ back) =
        renderFragment context compact front ++ renderFragment context compact back ∧
      renderFragment context pretty (front ++ back) =
        renderFragment context pretty front ++ "\n" ++ renderFragment context pretty back := by
  intro compact pretty root
  have helement : ∀ flag, responseElement context { options with pretty := flag } verbs =
      responseElement context options verbs :=
    fun flag => responseElement_pretty context options flag verbs
  have hfilled : (responseElement context options verbs).Filled := filled_responseElement verbs
  refine ⟨⟨?_, ?_, regular_response verbs, leaves_spread 0 root⟩, ?_, ?_, ?_⟩
  · rw [readDocument_response, helement, node_responseElement]
  · rw [readDocument_response, helement, node_true 0 hfilled, node_responseElement]
  · rw [renderDocument, renderDocument, String.toList_ofList, String.toList_ofList, helement,
      helement]
    exact writeDocument_true (wellFormed_responseElement verbs) hfilled
  · exact renderDocument_compact context compact rfl
  · intro front back hfront hback
    constructor
    · have happend := renderFragment_append context compact hfront hback
      rw [happend]
      exact congrArg (· ++ _) (String.append_empty)
    · exact renderFragment_append context pretty hfront hback

def welcome : List Verb := [.say ⟨"Hi", "alice", "en-US", some 80⟩, .hangup]

theorem renderDocument_pretty_welcome :
    renderDocument sampleCall { pretty := true } welcome =
      "<?xml version=\"1.0\" encoding=\"UTF-8\"?>\n" ++
      "<Response>\n" ++
      "  <Say voice=\"alice\" language=\"en-US\">\n" ++
      "    <prosody rate=\"80%\">Hi</prosody>\n" ++
      "  </Say>\n" ++
      "  <Hangup/>\n" ++
      "</Response>" ∧
    (welcome ≠ [] ∧ renderDocument sampleCall {} welcome =
      "<?xml version=\"1.0\" encoding=\"UTF-8\"?>" ++ "<Response>" ++
        String.join (welcome.map fun verb => renderFragment sampleCall {} [verb]) ++
        "</Response>") ∧
    welcome.reverse ≠ [] ∧
      renderFragment sampleCall {} (welcome ++ welcome.reverse) =
        renderFragment sampleCall {} welcome ++ renderFragment sampleCall {} welcome.reverse := by
  obtain ⟨-, hlines, hcompact, hfragments⟩ := renderDocument_pretty sampleCall {} welcome
  have hwelcome : welcome ≠ [] := by decide
  have hreverse : welcome.reverse ≠ [] := by decide
  refine ⟨?_, ⟨hwelcome, hcompact hwelcome⟩, hreverse,
    (hfragments welcome welcome.reverse hwelcome hreverse).1⟩
  apply String.toList_inj.mp
  rw [hlines, renderDocument, String.toList_ofList]
  simp only [String.toList_append]
  decide +kernel

end CallFlow
