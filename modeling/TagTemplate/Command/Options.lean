import TagTemplate.Builtin
import TagTemplate.Parameters

/-!
Command lines: the commands and what their arguments mean.
-/

namespace TagTemplate

structure RenderOptions where
  request : Parameters
  persistent : Parameters
  temporary : Parameters
  emitsHead : Bool
  mimeType : Option String
  encoding : Option String

inductive Command where
  | render (path : String) (options : RenderOptions)
  | tree (path : String)
  | lex (path : String)
  | help

inductive UsageError where
  | unknownCommand (word : String)
  | missingFile (command : String)
  | manyFiles (command : String)
  | missingAssignment (flag : String)
  | missingValue (flag : String)
  | unknownOption (flag : String)
  | manyTemplates
  | missingTemplate
  | notAnAssignment (text : String)
  deriving Repr, DecidableEq

def UsageError.message : UsageError → String
  | .unknownCommand word => s!"unknown command `{word}`"
  | .missingFile command => s!"usage: smscr {command} <file.smscr>"
  | .manyFiles command => s!"`{command}` takes exactly one file argument"
  | .missingAssignment flag => s!"`{flag}` expects name=value"
  | .missingValue flag => s!"`{flag}` expects a value"
  | .unknownOption flag => s!"unknown option `{flag}`"
  | .manyTemplates => "`render` takes exactly one template"
  | .missingTemplate => "usage: smscr render <file.smscr> [options]"
  | .notAnAssignment text => s!"expected name=value, found `{text}`"

def readAssignment (text : String) : Except UsageError (String × String) :=
  let name := text.toList.takeWhile (· ≠ '=')
  match name, text.toList.dropWhile (· ≠ '=') with
  | _ :: _, _ :: value => .ok (String.ofList name, String.ofList value)
  | _, _ => .error (.notAnAssignment text)

namespace RenderOptions

def standard : RenderOptions :=
  ⟨∅, ∅, ∅, false, none, none⟩

def setParameter (options : RenderOptions) (scope : ParameterScope) (name value : String) :
    RenderOptions :=
  match scope with
  | .request => { options with request := options.request.insert name value }
  | .persistent => { options with persistent := options.persistent.insert name value }
  | .temporary => { options with temporary := options.temporary.insert name value }

inductive Argument where
  | parameter (scope : ParameterScope)
  | headers
  | mimeType
  | encoding
  | unknownFlag
  | file

def Argument.ofText (text : String) : Argument :=
  if text = "-p" then .parameter .request
  else if text = "-P" then .parameter .persistent
  else if text = "-t" then .parameter .temporary
  else if text = "--headers" then .headers
  else if text = "--mime" then .mimeType
  else if text = "--encoding" then .encoding
  else if text.startsWith "-" then .unknownFlag
  else .file

/-- Reads arguments in order, on top of the template path and the options read before. -/
def read (path : Option String) (options : RenderOptions) :
    List String → Except UsageError (String × RenderOptions)
  | [] =>
      match path with
      | some path => .ok (path, options)
      | none => .error .missingTemplate
  | text :: others =>
      match Argument.ofText text with
      | .headers => read path { options with emitsHead := true } others
      | .unknownFlag => .error (.unknownOption text)
      | .file =>
          match path with
          | some _ => .error .manyTemplates
          | none => read (some text) options others
      | .parameter scope =>
          match others with
          | [] => .error (.missingAssignment text)
          | assignment :: rest =>
              match readAssignment assignment with
              | .ok (name, value) => read path (options.setParameter scope name value) rest
              | .error error => .error error
      | .mimeType =>
          match others with
          | [] => .error (.missingValue text)
          | value :: rest => read path { options with mimeType := some value } rest
      | .encoding =>
          match others with
          | [] => .error (.missingValue text)
          | value :: rest => read path { options with encoding := some value } rest

end RenderOptions

namespace Command

def singleFile (command : String) : List String → Except UsageError String
  | [path] => .ok path
  | [] => .error (.missingFile command)
  | _ => .error (.manyFiles command)

def ofArguments : List String → Except UsageError Command
  | [] => .ok .help
  | word :: others =>
      if word = "render" then do
        let (path, options) ← RenderOptions.read none .standard others
        return .render path options
      else if word = "tree" then (singleFile word others).map .tree
      else if word = "lex" then (singleFile word others).map .lex
      else if word = "help" || word = "--help" || word = "-h" then .ok .help
      else .error (.unknownCommand word)

def path? : Command → Option String
  | .render path _ | .tree path | .lex path => some path
  | .help => none

end Command

end TagTemplate
