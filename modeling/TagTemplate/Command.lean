import TagTemplate.Command.Options
import TagTemplate.Document.Parsing
import TagTemplate.Document.Written
import TagTemplate.Execution
import TagTemplate.Report.Snippet

/-!
The commands: what each makes of a template, and how its failures are reported.
-/

namespace TagTemplate

inductive CommandError where
  | usage (error : UsageError)
  | unreadable (path reason : String)
  | lex (error : LexError)
  | parse (error : ParseError)
  | eval (error : EvalError)
  | unfinished
  | output (reason : String)

namespace CommandError

def ofHalt : Halt → CommandError
  | .failed error => .eval error
  | .unfinished => .unfinished

def message : CommandError → String
  | .usage error => error.message
  | .unreadable path reason => s!"cannot read `{path}`: {reason}"
  | .lex error => error.message
  | .parse error => error.message
  | .eval error => error.message
  | .unfinished => "a FOR loop takes too many passes"
  | .output reason => s!"cannot write output: {reason}"

def span? : CommandError → Option Span
  | .lex error => some error.span
  | .parse error => some error.span
  | _ => none

def headline : CommandError → String
  | .lex error => error.cause.message
  | .parse error => error.cause.message
  | error => error.message

def exitCode : CommandError → Nat
  | .usage _ => 2
  | _ => 1

def report (error : CommandError) (path source : String) : String :=
  match error.span? with
  | some span => Snippet.render path source error.headline span
  | none => s!"error: {error.message}\n"

end CommandError

namespace Command

def lexSource (path source : String) : Except CommandError String :=
  match tokenize source with
  | .error error => .error (.lex error)
  | .ok tokens =>
      let line := fun (token : Token) => s!"  {token.kind.display} @ {token.span.text}\n"
      .ok (s!"Tokens for '{path}' ({tokens.length} tokens):\n" ++ String.join (tokens.map line))

def treeSource (source : String) : Except CommandError String :=
  match Document.parse source with
  | .error error => .error (.parse error)
  | .ok document => .ok document.written

def renderContext (options : RenderOptions) (sink : Sink) : Except ContextError Context := do
  let context := Context.new sink options.request options.persistent options.temporary
    options.emitsHead
  let typed ← match options.mimeType with
    | some mimeType => context.setMimeType mimeType
    | none => pure context
  match options.encoding with
  | some label => typed.setEncoding label
  | none => pure typed

/-- The changes a template makes to the persistent parameters, and the sink it leaves. A failure to
flush the sink outweighs a failure of the execution. -/
def renderSource (source : String) (options : RenderOptions) (sink : Sink) :
    Except CommandError (List Parameters.Change) × Sink :=
  match Document.parse source with
  | .error error => (.error (.parse error), sink)
  | .ok document =>
      match renderContext options sink with
      | .error error => (.error (.eval (.context error)), sink)
      | .ok context =>
          let (result, after) := document.execute passLimit context
          match after.sink.flushFailure, result with
          | some reason, _ => (.error (.output reason), after.sink)
          | none, .error halt => (.error (.ofHalt halt), after.sink)
          | none, .ok () => (.ok (options.persistent.changes after.persistent), after.sink)

structure Outcome where
  exitCode : Nat
  output : ByteArray
  errorOutput : String

def usage : String :=
  String.join (List.map (· ++ "\n")
    ["smscr - SmartScript template engine",
      "",
      "Usage: smscr <command> [options]",
      "",
      "Commands:",
      "  render <file>    Execute a template and print its output",
      "  tree <file>      Print the parsed template in canonical form",
      "  lex <file>       Print the token stream",
      "  help             Show this message",
      "",
      "Render options:",
      "  -p name=value    Request parameter (repeatable)",
      "  -P name=value    Initial persistent parameter (repeatable)",
      "  -t name=value    Initial temporary parameter (repeatable)",
      "  --headers        Emit a response header before the output",
      "  --mime <type>    Initial MIME type (default: text/html)",
      "  --encoding <e>   Output encoding (only UTF-8 is supported)",
      "",
      "Set RUST_LOG to enable logging, SMSCR_LOG_TREE for tree output."])

def Outcome.printed (text : String) : Outcome :=
  ⟨0, text.toUTF8, ""⟩

/-- A failed command may have written output before it failed. -/
def Outcome.failed (error : CommandError) (path source : String) (output : ByteArray) : Outcome :=
  ⟨error.exitCode, output, error.report path source⟩

def runOn (command : Command) (source : String) : Outcome :=
  match command with
  | .help => .printed usage
  | .lex path =>
      match lexSource path source with
      | .ok text => .printed text
      | .error error => .failed error path source .empty
  | .tree path =>
      match treeSource source with
      | .ok text => .printed text
      | .error error => .failed error path source .empty
  | .render path options =>
      match renderSource source options (.empty none) with
      | (.error error, sink) => .failed error path source sink.bytes
      | (.ok changes, sink) =>
          ⟨0, sink.bytes, String.join (changes.map fun change => change.text ++ "\n")⟩

def decodeFile (content : Except String ByteArray) : Except String String :=
  match content with
  | .error reason => .error reason
  | .ok bytes =>
      match String.fromUTF8? bytes with
      | some text => .ok text
      | none => .error "stream did not contain valid UTF-8"

def run (arguments : List String) (readFile : String → Except String ByteArray) : Outcome :=
  match ofArguments arguments with
  | .error error =>
      let failure := CommandError.usage error
      ⟨failure.exitCode, .empty,
        s!"error: {failure.message}\nRun `smscr help` for usage.\n"⟩
  | .ok command =>
      match command.path? with
      | none => command.runOn ""
      | some path =>
          match decodeFile (readFile path) with
          | .ok source => command.runOn source
          | .error reason => .failed (.unreadable path reason) path "" .empty

end Command

end TagTemplate
