import CallFlow.Compiler.Basic
import CallFlow.Markup.Document

/-! Answers to calls. Whatever goes wrong, the platform gets a document that ends the call in order.
-/

namespace CallFlow
set_option autoImplicit false

inductive Outcome
  | compiled
  /-- There is no active flow, or it has nothing to say. -/
  | defaultGreeting
  /-- Nothing is left to do after the digits. -/
  | ended
  | configurationError
  | internalFailure
deriving DecidableEq, Repr

def Outcome.name : Outcome → String
  | compiled => "Compiled"
  | defaultGreeting => "DefaultGreeting"
  | ended => "Ended"
  | configurationError => "ConfigurationError"
  | internalFailure => "InternalFailure"

inductive RenderError
  | io (message : String)
  | utf8 (message : String)

def RenderError.message : RenderError → String
  | .io message => "Failed to write markup: " ++ message
  | .utf8 message => "Rendered markup is not valid UTF-8: " ++ message

structure Response where
  /-- Always 200: the platform would try a failed answer again. -/
  status : Nat
  contentType : String
  body : String
  outcome : Outcome
  /-- Where the status of the call is reported to. -/
  statusCallback : String
  script : Option Script
deriving DecidableEq

namespace Response

def contentTypeXml : String := "text/xml"

/-- A document that needs neither options nor a call. -/
def staticFallback : String :=
  "<?xml version=\"1.0\" encoding=\"UTF-8\"?>" ++
    "<Response><Say>We&apos;re sorry, an application error has occurred. Goodbye.</Say>" ++
    "<Hangup/></Response>"

def bodyOrStatic : Except RenderError String → String
  | .ok body => body
  | .error _ => staticFallback

end Response

inductive Phase
  | inbound
  | input
deriving DecidableEq, Repr

namespace Compiler

def render (compiler : Compiler) (script : Script) (context : CallContext) : String :=
  renderDocument context compiler.options script.verbs

/-- What the writer makes of some verbs. It writes whole characters into memory that grows as it
needs, so neither error comes up; the answers are prepared for both. -/
def rendered (compiler : Compiler) (context : CallContext) (verbs : List Verb) :
    Except RenderError String :=
  .ok (renderDocument context compiler.options verbs)

def response (compiler : Compiler) (context : CallContext) (body : String) (outcome : Outcome)
    (script : Option Script) : Response where
  status := 200
  contentType := Response.contentTypeXml
  body := body
  outcome := outcome
  statusCallback := context.callbackUrl compiler.options .dialStatus
  script := script

def fixed (compiler : Compiler) (context : CallContext) (verbs : List Verb) (outcome : Outcome) :
    Response :=
  compiler.response context (Response.bodyOrStatic (compiler.rendered context verbs)) outcome none

def announce (compiler : Compiler) (context : CallContext) (message : String)
    (outcome : Outcome) : Response :=
  compiler.fixed context [.say (compiler.options.plainSpeech message), .hangup] outcome

def greet (compiler : Compiler) (context : CallContext) : Response :=
  compiler.announce context compiler.options.defaultGreeting .defaultGreeting

def answer (compiler : Compiler) (context : CallContext) (phase : Phase) :
    Except (Failure CompileError) Script → Response
  | .error (.refused _) =>
    compiler.announce context compiler.options.configurationErrorMessage .configurationError
  | .error .crashed =>
    compiler.announce context compiler.options.apologyMessage .internalFailure
  | .ok script =>
    if script.isEmpty then
      match phase with
      | .inbound => compiler.greet context
      | .input => compiler.fixed context [.hangup] .ended
    else
      match compiler.rendered context script.verbs with
      | .ok body => compiler.response context body .compiled (some script)
      | .error _ => compiler.announce context compiler.options.apologyMessage .internalFailure

/-- Answers a call; without a source the number has no active flow. -/
def respond (compiler : Compiler) (source : Option FlowSource) (context : CallContext) :
    Response :=
  match source with
  | none => compiler.greet context
  | some s => compiler.answer context .inbound (compiler.compileSource s)

/-- Answers a call to a number with a stored flow, if it is active. -/
def respondForRecord (compiler : Compiler) (record : Option FlowRecord) (context : CallContext) :
    Response :=
  compiler.respond ((record.filter (·.isActive)).map .record) context

def respondToInput (compiler : Compiler) (source : FlowSource) (blockId digits : String)
    (context : CallContext) : Response :=
  compiler.answer context .input (compiler.resumeSource source blockId digits)

end Compiler
end CallFlow
