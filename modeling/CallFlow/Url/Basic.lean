import CallFlow.Url.Host

/-! URLs in their parts. Every part holds the characters that are written, already encoded. -/

namespace CallFlow
set_option autoImplicit false

namespace Url

structure Authority where
  user : List Char
  /-- Empty where no password is written. -/
  password : List Char
  host : Host
  port : Option Nat
deriving DecidableEq

/-- The authority of file URLs without a host, and of `scheme:///`. -/
def Authority.blank : Authority := ⟨[], [], .empty, none⟩

def Authority.text (a : Authority) : List Char :=
  let password := if a.password.isEmpty then [] else ':' :: a.password
  let userinfo := a.user ++ password
  let port := match a.port with
    | some n => ':' :: Nat.toDigits 10 n
    | none => []
  (if userinfo.isEmpty then [] else userinfo ++ ['@']) ++ a.host.text ++ port

structure Tail where
  query : Option (List Char)
  fragment : Option (List Char)
deriving DecidableEq

def Tail.text (t : Tail) : List Char :=
  let query := match t.query with
    | some q => '?' :: q
    | none => []
  let fragment := match t.fragment with
    | some f => '#' :: f
    | none => []
  query ++ fragment

end Url

/-- A URL whose path is made of segments. -/
structure RootedUrl where
  scheme : List Char
  authority : Option Url.Authority
  /-- Whether `/.` is written before the path, which without an authority would look like one. -/
  marked : Bool
  segments : List (List Char)
  tail : Url.Tail
deriving DecidableEq

/-- URLs such as `mailto:` have a text in place of a path. -/
inductive Url
  | rooted (url : RootedUrl)
  | rootless (scheme text : List Char) (tail : Url.Tail)
deriving DecidableEq

namespace Url

def pathText (segments : List (List Char)) : List Char := segments.flatMap ('/' :: ·)

def isFile (scheme : List Char) : Bool := scheme == "file".toList

/-- The port that a special scheme implies; file URLs have none. -/
def specialSchemes : List (List Char × Option Nat) :=
  [("http".toList, some 80), ("https".toList, some 443), ("ws".toList, some 80),
    ("wss".toList, some 443), ("ftp".toList, some 21), ("file".toList, none)]

def isSpecial (scheme : List Char) : Bool := specialSchemes.any (·.1 == scheme)

def defaultPort (scheme : List Char) : Option Nat := (specialSchemes.lookup scheme).join

end Url

namespace RootedUrl

def text (u : RootedUrl) : List Char :=
  let authority := match u.authority with
    | some a => '/' :: '/' :: a.text
    | none => if u.marked then ['/', '.'] else []
  u.scheme ++ ':' :: authority ++ Url.pathText u.segments ++ u.tail.text

def toText (u : RootedUrl) : String := String.ofList u.text

def special (u : RootedUrl) : Bool := Url.isSpecial u.scheme

end RootedUrl

namespace Url

def text : Url → List Char
  | .rooted u => u.text
  | .rootless scheme t tail => scheme ++ ':' :: t ++ tail.text

def toText (u : Url) : String := String.ofList u.text

end Url
end CallFlow
