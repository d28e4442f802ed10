import TagTemplate.Context.ResponseHead
import TagTemplate.Context.Sink
import TagTemplate.Parameters

/-!
The context of a run: parameters to read and change, and a response to write. The head of the
response goes out right before the first write, and is fixed from then on.
-/

namespace TagTemplate

inductive ResponseProperty where
  | mimeType
  | encoding
  | statusCode
  | statusText
  | cookies
  deriving Repr, DecidableEq

def ResponseProperty.text : ResponseProperty → String
  | .mimeType => "mime type"
  | .encoding => "encoding"
  | .statusCode => "status code"
  | .statusText => "status text"
  | .cookies => "cookies"

inductive ContextError where
  | sinkFull
  | headSent (property : ResponseProperty)
  | unsupportedEncoding (label : String)
  deriving Repr, DecidableEq

def ContextError.message : ContextError → String
  | .sinkFull => "output error: failed to write whole buffer"
  | .headSent property =>
      s!"cannot change `{property.text}`: the response header was already sent"
  | .unsupportedEncoding label =>
      s!"unsupported output encoding `{label}`; only UTF-8 is supported"

structure Context where
  sink : Sink
  request : Parameters
  persistent : Parameters
  temporary : Parameters
  head : ResponseHead
  emitsHead : Bool
  headSent : Bool

namespace Context

def new (sink : Sink) (request persistent temporary : Parameters) (emitsHead : Bool) : Context :=
  ⟨sink, request, persistent, temporary, .standard, emitsHead, false⟩

def writeBody (context : Context) (data : ByteArray) : Except ContextError Unit × Context :=
  let (complete, sink) := context.sink.write data
  (if complete then .ok () else .error .sinkFull, { context with sink := sink })

/-- The head counts as sent only after all of it went out. -/
def writeBytes (context : Context) (data : ByteArray) : Except ContextError Unit × Context :=
  if context.emitsHead && !context.headSent then
    match context.sink.write context.head.text.toUTF8 with
    | (true, sink) => { context with sink := sink, headSent := true }.writeBody data
    | (false, sink) => (.error .sinkFull, { context with sink := sink })
  else context.writeBody data

def write (context : Context) (text : String) : Except ContextError Unit × Context :=
  context.writeBytes text.toUTF8

def changeHead (context : Context) (property : ResponseProperty)
    (change : ResponseHead → ResponseHead) : Except ContextError Context :=
  if context.headSent then .error (.headSent property)
  else .ok { context with head := change context.head }

def setMimeType (context : Context) (mimeType : String) : Except ContextError Context :=
  context.changeHead .mimeType fun head => { head with mimeType := mimeType }

def setStatusCode (context : Context) (code : UInt16) : Except ContextError Context :=
  context.changeHead .statusCode fun head => { head with statusCode := code }

def setStatusText (context : Context) (text : String) : Except ContextError Context :=
  context.changeHead .statusText fun head => { head with statusText := text }

def addCookie (context : Context) (cookie : Cookie) : Except ContextError Context :=
  context.changeHead .cookies fun head => { head with cookies := head.cookies ++ [cookie] }

def isSupportedEncoding (label : String) : Bool :=
  let lower := label.toList.map Char.toLower
  lower == "utf-8".toList || lower == "utf8".toList

def setEncoding (context : Context) (label : String) : Except ContextError Context :=
  if context.headSent || isSupportedEncoding label then
    context.changeHead .encoding fun head => { head with encoding := label }
  else .error (.unsupportedEncoding label)

end Context

end TagTemplate
