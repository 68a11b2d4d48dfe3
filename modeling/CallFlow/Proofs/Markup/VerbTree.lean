import CallFlow.Markup.Document
import CallFlow.Proofs.Markup.RoundTrip
import CallFlow.Proofs.Url.Reading

/-!
# Documents of verbs

Which tree the document of some verbs stands for: one element for every verb, with its attributes
and its content, where each string is the one that the verb holds, less the characters that no
document may hold. Reading the document gives this tree, whatever the strings are. So they cannot
change which elements and attributes there are; `Node.outlines` is what is left of a tree without
them.
-/

namespace CallFlow
set_option autoImplicit false

open Markup

def textContent (s : String) : List Node := textNodes (s.toList.filter isXmlChar)

/-- An element with what a document can hold of its attributes. -/
def elementNode (name : String) (attributes : List (String × String)) (children : List Node) :
    Node :=
  .element name (legalAttributes attributes) children

def Speech.attributes (speech : Speech) : List (String × String) :=
  [("voice", speech.voice), ("language", speech.language)]

def Speech.content (speech : Speech) : List Node :=
  match speech.rate with
  | some rate => [elementNode "prosody" [("rate", toString rate ++ "%")] (textContent speech.text)]
  | none => textContent speech.text

def Playback.attributes (playback : Playback) : List (String × String) :=
  match playback.loopCount with
  | some count => [("loop", toString count)]
  | none => []

namespace Verb

def attributes (context : CallContext) (options : Options) : Verb → List (String × String)
  | say speech => speech.attributes
  | pause length => [("length", toString length)]
  | gather g => [("numDigits", toString g.numDigits), ("timeout", toString g.timeout),
      ("action", context.callbackUrl options g.action), ("method", "POST")]
  | dial d => [("timeout", toString d.timeout)]
  | play playback => playback.attributes
  | record r => [("maxLength", toString r.maxLength), ("finishOnKey", r.finishOnKey),
      ("transcribe", if r.transcribe then "true" else "false"),
      ("recordingStatusCallback", context.callbackUrl options r.callback)]
  | sms reply => [("to", context.recipient reply.recipient)]
  | hangup => []

def content (context : CallContext) (options : Options) : Verb → List Node
  | say speech => speech.content
  | gather g => match g.prompt with
    | some prompt => [elementNode "Say" prompt.attributes prompt.content]
    | none => []
  | dial d =>
    let number := elementNode "Number"
      [("statusCallback", context.callbackUrl options d.statusCallback),
        ("statusCallbackEvent", "initiated ringing answered completed")] (textContent d.number)
    match d.holdMusic with
    | some music => [elementNode "Play" music.attributes (textContent music.url), number]
    | none => [number]
  | play playback => textContent playback.url
  | sms reply => textContent reply.body
  | pause _ => []
  | record _ => []
  | hangup => []

def node (context : CallContext) (options : Options) (verb : Verb) : Node :=
  elementNode verb.tag (verb.attributes context options) (verb.content context options)

end Verb

/-! The elements that verbs are written as. -/

theorem Markup.Tag.wellFormed_of_names {name : String} {attributes : List (String × String)}
    (names : List String) (hnames : attributes.map (·.1) = names)
    (h : isName name.toList = true ∧ (∀ name ∈ names, isName name.toList = true) ∧ names.Nodup) :
    Tag.WellFormed ⟨name, attributes⟩ := by
  subst hnames
  exact ⟨h.1, h.2.1, h.2.2⟩

theorem Speech.wellFormed_element (speech : Speech) : speech.element.WellFormed := by
  have hsay : Tag.WellFormed ⟨"Say", speech.attributes⟩ :=
    Tag.wellFormed_of_names ["voice", "language"] rfl (by decide)
  obtain ⟨text, voice, language, rate⟩ := speech
  cases rate with
  | none => exact hsay
  | some rate => exact ⟨hsay, Tag.wellFormed_of_names ["rate"] rfl (by decide), trivial⟩

theorem Playback.wellFormed_element (playback : Playback) : playback.element.WellFormed := by
  obtain ⟨url, loopCount⟩ := playback
  cases loopCount with
  | none => exact Tag.wellFormed_of_names [] rfl (by decide)
  | some count => exact Tag.wellFormed_of_names ["loop"] rfl (by decide)

variable {context : CallContext} {options : Options}

theorem Gather.wellFormed_element (g : Gather) :
    ((Verb.gather g).element context options).WellFormed := by
  have hgather : Tag.WellFormed ⟨"Gather", (Verb.gather g).attributes context options⟩ :=
    Tag.wellFormed_of_names ["numDigits", "timeout", "action", "method"] rfl (by decide)
  obtain ⟨numDigits, timeout, action, prompt⟩ := g
  cases prompt with
  | none => exact hgather
  | some prompt => exact ⟨hgather, prompt.wellFormed_element, trivial⟩

theorem Dial.wellFormed_element (d : Dial) :
    ((Verb.dial d).element context options).WellFormed := by
  have hdial : Tag.WellFormed ⟨"Dial", (Verb.dial d).attributes context options⟩ :=
    Tag.wellFormed_of_names ["timeout"] rfl (by decide)
  have hnumber : Tag.WellFormed ⟨"Number",
      [("statusCallback", context.callbackUrl options d.statusCallback),
        ("statusCallbackEvent", dialStatusEvents)]⟩ :=
    Tag.wellFormed_of_names ["statusCallback", "statusCallbackEvent"] rfl (by decide)
  obtain ⟨number, timeout, holdMusic, statusCallback⟩ := d
  cases holdMusic with
  | none => exact ⟨hdial, hnumber, trivial⟩
  | some music => exact ⟨hdial, music.wellFormed_element, hnumber, trivial⟩

theorem Verb.wellFormed_element (verb : Verb) : (verb.element context options).WellFormed := by
  cases verb with
  | say speech => exact speech.wellFormed_element
  | pause length => exact Tag.wellFormed_of_names ["length"] rfl (by decide)
  | gather g => exact g.wellFormed_element
  | dial d => exact d.wellFormed_element
  | play playback => exact playback.wellFormed_element
  | record r =>
    exact Tag.wellFormed_of_names
      ["maxLength", "finishOnKey", "transcribe", "recordingStatusCallback"] rfl (by decide)
  | sms reply => exact Tag.wellFormed_of_names ["to"] rfl (by decide)
  | hangup => exact Tag.wellFormed_of_names [] rfl (by decide)

theorem allWellFormed_map_element (verbs : List Verb) :
    AllWellFormed (verbs.map (Verb.element context options)) := by
  induction verbs with
  | nil => trivial
  | cons verb verbs ih => exact ⟨verb.wellFormed_element, ih⟩

theorem wellFormed_responseElement (verbs : List Verb) :
    (responseElement context options verbs).WellFormed := by
  have hresponse : Tag.WellFormed ⟨"Response", []⟩ :=
    Tag.wellFormed_of_names [] rfl (by decide)
  unfold responseElement
  cases verbs with
  | nil => exact hresponse
  | cons verb verbs => exact ⟨hresponse, allWellFormed_map_element (verb :: verbs)⟩

theorem readDocument_response (context : CallContext) (options : Options) (verbs : List Verb) :
    readDocument (renderDocument context options verbs).toList =
      some ⟨standardDeclaration,
        (responseElement context options verbs).node options.pretty 0⟩ := by
  rw [renderDocument, String.toList_ofList]
  exact readDocument_writeDocument options.pretty (wellFormed_responseElement verbs)

/-! The elements of the root, on one line or on several. -/

def Markup.Element.tag : Element → Tag
  | .empty tag => tag
  | .text tag _ => tag
  | .nested tag _ => tag

def Markup.Node.name? : Node → Option String
  | .text _ => none
  | .element name _ _ => some name

def Markup.Node.childNames : Node → List String
  | .text _ => []
  | .element _ _ children => children.filterMap Node.name?

theorem name?_node (pretty : Bool) (depth : Nat) (element : Element) :
    (element.node pretty depth).name? = some element.tag.name := by
  cases element <;> rw [Element.node] <;> rfl

theorem filterMap_name?_textNodes (content : List Char) :
    (textNodes content).filterMap Node.name? = [] := by
  unfold textNodes
  split <;> rfl

theorem filterMap_name?_childNodes (pretty : Bool) (depth : Nat) (elements : List Element) :
    (childNodes pretty depth elements).filterMap Node.name? =
      elements.map fun element => element.tag.name := by
  induction elements with
  | nil => rfl
  | cons element rest ih =>
    rw [childNodes, List.filterMap_append, filterMap_name?_textNodes, List.nil_append,
      List.filterMap_cons_some (name?_node pretty depth element), ih, List.map_cons]

theorem Verb.tag_element (verb : Verb) : (verb.element context options).tag.name = verb.tag := by
  cases verb with
  | say speech =>
    obtain ⟨text, voice, language, rate⟩ := speech
    cases rate <;> rfl
  | gather g =>
    obtain ⟨numDigits, timeout, action, prompt⟩ := g
    cases prompt <;> rfl
  | _ => rfl

theorem name?_responseElement (pretty : Bool) (verbs : List Verb) :
    ((responseElement context options verbs).node pretty 0).name? = some "Response" := by
  rw [name?_node]
  unfold responseElement
  split <;> rfl

theorem childNames_responseElement (pretty : Bool) (verbs : List Verb) :
    ((responseElement context options verbs).node pretty 0).childNames = verbs.map Verb.tag := by
  have htags : (verbs.map (Verb.element context options)).map (fun element => element.tag.name) =
      verbs.map Verb.tag := by
    rw [List.map_map]
    exact List.map_congr_left fun verb _ => verb.tag_element
  unfold responseElement
  split
  next hempty =>
    rw [List.isEmpty_iff.mp hempty]
    rfl
  next =>
    rw [Element.node, Node.childNames, List.filterMap_append, filterMap_name?_childNodes,
      filterMap_name?_textNodes, List.append_nil, htags]

/-! The same elements as nodes, on one line. -/

theorem Speech.node_element (speech : Speech) (depth : Nat) :
    speech.element.node false depth = elementNode "Say" speech.attributes speech.content := by
  obtain ⟨text, voice, language, rate⟩ := speech
  cases rate with
  | none => rfl
  | some rate => rfl

theorem Playback.node_element (playback : Playback) (depth : Nat) :
    playback.element.node false depth =
      elementNode "Play" playback.attributes (textContent playback.url) := by
  obtain ⟨url, loopCount⟩ := playback
  cases loopCount with
  | none => rfl
  | some count => rfl

theorem Gather.node_element (g : Gather) (depth : Nat) :
    ((Verb.gather g).element context options).node false depth =
      (Verb.gather g).node context options := by
  obtain ⟨numDigits, timeout, action, prompt⟩ := g
  cases prompt with
  | none => rfl
  | some prompt =>
    have hprompt := prompt.node_element (depth + 1)
    simp only [Verb.element, Element.node, childNodes, hprompt]
    rfl

theorem Dial.node_element (d : Dial) (depth : Nat) :
    ((Verb.dial d).element context options).node false depth =
      (Verb.dial d).node context options := by
  obtain ⟨number, timeout, holdMusic, statusCallback⟩ := d
  cases holdMusic with
  | none => rfl
  | some music =>
    have hmusic := music.node_element (depth + 1)
    simp only [Verb.element, List.singleton_append, Element.node, childNodes, hmusic]
    rfl

theorem Verb.node_element (verb : Verb) (depth : Nat) :
    (verb.element context options).node false depth = verb.node context options := by
  cases verb with
  | say speech => exact speech.node_element depth
  | pause length => rfl
  | gather g => exact g.node_element depth
  | dial d => exact d.node_element depth
  | play playback => exact playback.node_element depth
  | record r => rfl
  | sms reply => rfl
  | hangup => rfl

theorem childNodes_map_element (depth : Nat) (verbs : List Verb) :
    childNodes false depth (verbs.map (Verb.element context options)) =
      verbs.map (Verb.node context options) := by
  induction verbs with
  | nil => rfl
  | cons verb verbs ih =>
    rw [List.map_cons, List.map_cons, childNodes, ih, verb.node_element]
    rfl

theorem node_responseElement (verbs : List Verb) :
    (responseElement context options verbs).node false 0 =
      .element "Response" [] (verbs.map (Verb.node context options)) := by
  unfold responseElement
  cases verbs with
  | nil => rfl
  | cons verb verbs =>
    change Element.node false 0 (.nested ⟨"Response", []⟩
      ((verb :: verbs).map (Verb.element context options))) = _
    rw [Element.node, childNodes_map_element]
    simp [textNodes, lineStart, legalAttributes]

/-! Strings stay out of the structure. -/

inductive Markup.Outline
  | element (name : String) (attributes : List String) (children : List Outline)

mutual

def Markup.Node.outlines : Node → List Outline
  | .text _ => []
  | .element name attributes children =>
    [.element name (attributes.map (·.1)) (childOutlines children)]

def childOutlines : List Node → List Outline
  | [] => []
  | node :: rest => node.outlines ++ childOutlines rest

end

def Callback.blank : Callback → Callback
  | .gather _ => .gather ""
  | .custom _ => .custom ""
  | callback => callback

def Recipient.blank : Recipient → Recipient
  | .caller => .caller
  | .number _ => .number ""

def Speech.blank (speech : Speech) : Speech := ⟨"", "", "", speech.rate⟩

def Playback.blank (playback : Playback) : Playback := ⟨"", playback.loopCount⟩

/-- The verb with every string left out. -/
def Verb.blank : Verb → Verb
  | say speech => say speech.blank
  | pause length => pause length
  | gather g => gather ⟨g.numDigits, g.timeout, g.action.blank, g.prompt.map Speech.blank⟩
  | dial d => dial ⟨"", d.timeout, d.holdMusic.map Playback.blank, d.statusCallback.blank⟩
  | play playback => play playback.blank
  | record r => record ⟨r.maxLength, "", r.transcribe, r.callback.blank⟩
  | sms reply => sms ⟨reply.recipient.blank, ""⟩
  | hangup => hangup

theorem childOutlines_textContent (s : String) : childOutlines (textContent s) = [] := by
  unfold textContent textNodes
  split <;> rfl

theorem outlines_elementNode (name : String) (attributes : List (String × String))
    (children : List Node) :
    (elementNode name attributes children).outlines =
      [.element name (attributes.map (·.1)) (childOutlines children)] := by
  rw [elementNode, Node.outlines, legalAttributes, List.map_map]
  rfl

theorem Speech.childOutlines_content (speech : Speech) :
    childOutlines speech.content = childOutlines speech.blank.content := by
  obtain ⟨text, voice, language, rate⟩ := speech
  cases rate with
  | none => exact (childOutlines_textContent text).trans (childOutlines_textContent "").symm
  | some rate =>
    simp only [content, blank, childOutlines, outlines_elementNode, childOutlines_textContent]

namespace Verb

variable (context' : CallContext) (options' : Options)

theorem map_attributes_blank (verb : Verb) :
    (verb.attributes context options).map (·.1) =
      (verb.blank.attributes context' options').map (·.1) := by
  cases verb with
  | play playback =>
    obtain ⟨url, loopCount⟩ := playback
    cases loopCount <;> rfl
  | _ => rfl

theorem childOutlines_content_blank (verb : Verb) :
    childOutlines (verb.content context options) =
      childOutlines (verb.blank.content context' options') := by
  cases verb with
  | say speech => exact speech.childOutlines_content
  | gather g =>
    obtain ⟨numDigits, timeout, action, prompt⟩ := g
    cases prompt with
    | none => rfl
    | some prompt =>
      simp only [content, blank, Option.map_some, childOutlines, outlines_elementNode,
        prompt.childOutlines_content]
      rfl
  | dial d =>
    obtain ⟨number, timeout, holdMusic, statusCallback⟩ := d
    cases holdMusic with
    | none =>
      simp only [content, blank, Option.map_none, childOutlines, outlines_elementNode,
        childOutlines_textContent]
      rfl
    | some music =>
      obtain ⟨url, loopCount⟩ := music
      cases loopCount <;>
        simp only [content, blank, Playback.blank, Playback.attributes, Option.map_some,
          childOutlines, outlines_elementNode, childOutlines_textContent] <;> rfl
  | play playback =>
    exact (childOutlines_textContent playback.url).trans (childOutlines_textContent "").symm
  | sms reply =>
    exact (childOutlines_textContent reply.body).trans (childOutlines_textContent "").symm
  | _ => rfl

theorem outlines_blank (verb : Verb) :
    (verb.node context options).outlines = (verb.blank.node context' options').outlines := by
  have htag : verb.tag = verb.blank.tag := by cases verb <;> rfl
  rw [node, node, outlines_elementNode, outlines_elementNode, htag,
    verb.map_attributes_blank context' options', verb.childOutlines_content_blank context' options']

end Verb

theorem childOutlines_map_node {verbs verbs' : List Verb} {context' : CallContext}
    {options' : Options} (h : verbs'.map Verb.blank = verbs.map Verb.blank) :
    childOutlines (verbs'.map (Verb.node context' options')) =
      childOutlines (verbs.map (Verb.node context options)) := by
  induction verbs generalizing verbs' with
  | nil =>
    rw [List.map_eq_nil_iff.mp h]
    rfl
  | cons verb verbs ih =>
    obtain ⟨verb', rest, rfl, hverb, hrest⟩ := List.map_eq_cons_iff.mp h
    rw [List.map_cons, List.map_cons, childOutlines, childOutlines, ih hrest,
      verb.outlines_blank context' options', verb'.outlines_blank context' options', hverb]

/-! Addresses hold nothing that a document drops. -/

theorem isXmlChar_of_controls {c : Char} (h : Url.controls c = false) : isXmlChar c = true := by
  simp only [Url.controls, Bool.or_eq_false_iff, decide_eq_false_iff_not] at h
  refine List.any_eq_true.mpr ⟨(0x20, 0xD7FF), by decide, ?_⟩
  simp only [Bool.and_eq_true, decide_eq_true_eq]
  omega

theorem legal_of_avoids {s : String} (h : Url.Avoids Url.controls s.toList) : legal s = s := by
  have hfilter : s.toList.filter isXmlChar = s.toList :=
    List.filter_eq_self.mpr fun c hc => isXmlChar_of_controls (h c hc)
  rw [legal, hfilter, String.ofList_toList]

theorem legal_callbackUrl {caller called callSid base : String}
    (h : CallContext.ofText caller called callSid base = .ok context) (callback : Callback) :
    legal (context.callbackUrl options callback) = context.callbackUrl options callback :=
  legal_of_avoids
    (CallContext.avoids_callbackUrl (CallContext.wellFormed_base_of_ofText h) options callback)

/-- The document of any verbs is well formed and is read as their tree: one element for every verb,
with its own attributes and content. All strings come out as they were, less the characters that no
document may hold, and addresses of a call lose none. Other strings in the verbs, another call and
other options change neither elements nor attribute names. -/
theorem readDocument_renderDocument (context : CallContext) (options : Options)
    (hpretty : options.pretty = false) (verbs : List Verb) :
    readDocument (renderDocument context options verbs).toList =
        some ⟨standardDeclaration,
          .element "Response" [] (verbs.map (Verb.node context options))⟩ ∧
      (∀ c ∈ (renderDocument context options verbs).toList, isXmlChar c = true) ∧
      (∀ caller called callSid base,
        CallContext.ofText caller called callSid base = .ok context →
          ∀ callback, legal (context.callbackUrl options callback) =
            context.callbackUrl options callback) ∧
      ∀ (context' : CallContext) (options' : Options) (verbs' : List Verb),
        options'.pretty = false → verbs'.map Verb.blank = verbs.map Verb.blank →
          (readDocument (renderDocument context' options' verbs').toList).map (·.root.outlines) =
            (readDocument (renderDocument context options verbs).toList).map (·.root.outlines) := by
  have hread : ∀ (context : CallContext) (options : Options) (verbs : List Verb),
      options.pretty = false → readDocument (renderDocument context options verbs).toList =
        some ⟨standardDeclaration,
          .element "Response" [] (verbs.map (Verb.node context options))⟩ := by
    intro context options verbs hpretty
    rw [readDocument_response, hpretty, node_responseElement]
  refine ⟨hread context options verbs hpretty, ?_, ?_, ?_⟩
  · rw [renderDocument, String.toList_ofList]
    exact List.all_eq_true.mp (all_isXmlChar_writeDocument _ (wellFormed_responseElement verbs))
  · intro caller called callSid base hcontext callback
    exact legal_callbackUrl hcontext callback
  · intro context' options' verbs' hpretty' hblank
    have houtlines : childOutlines (verbs'.map (Verb.node context' options')) =
        childOutlines (verbs.map (Verb.node context options)) := childOutlines_map_node hblank
    rw [hread context options verbs hpretty, hread context' options' verbs' hpretty']
    simp only [Option.map_some, Node.outlines, houtlines]

/-- Strings that look like markup are read as text. -/
theorem readDocument_hostileStrings :
    ∃ context, CallContext.ofText "<+1>" "" "" "https://a.example" = .ok context ∧
      readDocument (renderDocument context {}
        [.gather ⟨1, 5, .gather "\"/><Hangup/>",
            some ⟨"</Say><Hangup/>\x01", "a' b=\"c", "en", none⟩⟩,
          .sms ⟨.caller, "&lt;"⟩]).toList =
        some ⟨standardDeclaration, .element "Response" [] [
          .element "Gather" [("numDigits", "1"), ("timeout", "5"),
            ("action", "https://a.example/gather?blockId=%22%2F%3E%3CHangup%2F%3E"),
            ("method", "POST")]
            [.element "Say" [("voice", "a' b=\"c"), ("language", "en")] [.text "</Say><Hangup/>"]],
          .element "Sms" [("to", "<+1>")] [.text "&lt;"]]⟩ := by
  refine ⟨_, rfl, ?_⟩
  rw [(readDocument_renderDocument _ {} rfl _).1]
  rfl

end CallFlow
