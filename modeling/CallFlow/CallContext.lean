import CallFlow.Options
import CallFlow.Url.Endpoint
import CallFlow.Verb

/-! What is known of one call, and the addresses that its document gives out. -/

namespace CallFlow
set_option autoImplicit false

structure CallContext where
  caller : String
  called : String
  callSid : String
  base : RootedUrl
deriving DecidableEq

namespace CallContext

structure Error where
  text : String
  cause : Url.Error
deriving DecidableEq

def Error.message (e : Error) : String :=
  "Invalid callback base URL '" ++ e.text ++ "': " ++ e.cause.message

def ofText (caller called callSid base : String) : Except Error CallContext :=
  match Url.parse base.toList with
  | .ok (.rooted url) => .ok ⟨caller, called, callSid, url⟩
  | .ok (.rootless ..) => .error ⟨base, .rootless⟩
  | .error cause => .error ⟨base, cause⟩

/-- A target that is no URL by itself is resolved below the base; one that cannot be resolved
becomes a path there. -/
def customUrl (context : CallContext) (target : String) : Url :=
  match Url.parse target.toList with
  | .ok url => url
  | .error _ =>
    match context.base.below target.toList with
    | .ok url => url
    | .error _ => .rooted (context.base.endpoint target.toList)

/-- The address of a callback. The one for digits names the block that waits for them. -/
def callback (context : CallContext) (options : Options) : Callback → Url
  | .gather blockId =>
    .rooted ((context.base.endpoint options.gatherPath.toList).addPair "blockId".toList
      blockId.toList)
  | .dialStatus => .rooted (context.base.endpoint options.statusPath.toList)
  | .recordingStatus => .rooted (context.base.endpoint options.recordingPath.toList)
  | .menu => .rooted (context.base.endpoint options.menuPath.toList)
  | .custom target => context.customUrl target

def callbackUrl (context : CallContext) (options : Options) (callback : Callback) : String :=
  (context.callback options callback).toText

def recipient (context : CallContext) : Recipient → String
  | .caller => context.caller
  | .number n => n

end CallContext

/-- A call whose addresses lie at the root of a host. -/
def sampleCall : CallContext where
  caller := "+15550100"
  called := "+15550199"
  callSid := "CA1"
  base := ⟨"https".toList, some ⟨[], [], .name "example.com".toList, none⟩, false, [[]],
    ⟨none, none⟩⟩

end CallFlow
