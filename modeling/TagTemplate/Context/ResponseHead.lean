/-!
The head of a response: status, content type and cookies.
-/

namespace TagTemplate

structure Cookie where
  name : String
  value : String
  domain : Option String
  path : Option String
  maxAge : Option UInt32
  deriving Repr, DecidableEq

def Cookie.attribute (label : String) : Option String → String
  | some value => "; " ++ label ++ "=" ++ value
  | none => ""

def Cookie.line (cookie : Cookie) : String :=
  "Set-Cookie: " ++ cookie.name ++ "=\"" ++ cookie.value ++ "\"" ++
    Cookie.attribute "Domain" cookie.domain ++ Cookie.attribute "Path" cookie.path ++
    Cookie.attribute "Max-Age" (cookie.maxAge.map fun seconds => toString seconds.toNat) ++ "\r\n"

structure ResponseHead where
  mimeType : String
  encoding : String
  statusCode : UInt16
  statusText : String
  cookies : List Cookie
  deriving Repr, DecidableEq

namespace ResponseHead

def standard : ResponseHead :=
  ⟨"text/html", "UTF-8", 200, "OK", []⟩

def statusLine (head : ResponseHead) : String :=
  "HTTP/1.1 " ++ toString head.statusCode.toNat ++ " " ++ head.statusText ++ "\r\n"

/-- Only texts name their encoding. -/
def contentTypeLine (head : ResponseHead) : String :=
  let charset := if head.mimeType.startsWith "text/" then "; charset=" ++ head.encoding else ""
  "Content-Type: " ++ head.mimeType ++ charset ++ "\r\n"

def text (head : ResponseHead) : String :=
  head.statusLine ++ head.contentTypeLine ++ String.join (head.cookies.map Cookie.line) ++ "\r\n"

end ResponseHead

end TagTemplate
