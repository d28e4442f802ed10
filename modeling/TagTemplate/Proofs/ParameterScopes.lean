import TagTemplate.Proofs.Composition
import TagTemplate.Proofs.EchoSteps

/-!
Three scopes of parameters that do not leak into each other. The names of parameters are computed
while a template runs, so that nothing but the functions it calls tells which scopes it can read and
which ones it can change. What it does not read shows nowhere in a run, and what it does not change
stays as it was.
-/

namespace TagTemplate

def Element.functionName? : Element → Option String
  | .function name => some name
  | _ => none

/-- The functions that a node calls. In the header of a loop they are only texts. -/
def Node.calledNames : Node → List String
  | .echo elements => elements.filterMap Element.functionName?
  | _ => []

def Document.calledNames (document : Document) : List String :=
  document.nodes.flatMap Node.calledNames

def Document.Uses (document : Document) (builtin : Builtin) : Prop :=
  builtin.name ∈ document.calledNames

instance (document : Document) : DecidablePred document.Uses :=
  fun builtin => inferInstanceAs (Decidable (builtin.name ∈ document.calledNames))

def KeptScope.scope : KeptScope → ParameterScope
  | .persistent => .persistent
  | .temporary => .temporary

namespace Context

def parameters (context : Context) : ParameterScope → Parameters
  | .request => context.request
  | .persistent => context.persistent
  | .temporary => context.temporary

def withParameters (context : Context) (scope : ParameterScope) (parameters : Parameters) :
    Context :=
  match scope with
  | .request => { context with request := parameters }
  | .persistent => { context with persistent := parameters }
  | .temporary => { context with temporary := parameters }

/-- Contexts that agree in everything but the parameters of one scope. -/
def DiffersIn (scope : ParameterScope) (left right : Context) : Prop :=
  ∃ parameters, right = left.withParameters scope parameters

def Keeps (scope : ParameterScope) (parameters : Parameters) (left right : Context) : Prop :=
  right = left ∧ left.parameters scope = parameters

variable {scope : ParameterScope} {parameters : Parameters}

theorem write_withParameters (context : Context) (text : String) :
    (context.withParameters scope parameters).write text =
      ((context.write text).1, (context.write text).2.withParameters scope parameters) := by
  cases due : context.emitsHead && !context.headSent with
  | false =>
      cases scope <;>
        simp only [write, writeBytes, withParameters, due, Bool.false_eq_true, ↓reduceIte] <;> rfl
  | true =>
      rcases head : context.sink.write context.head.text.toUTF8 with ⟨_ | _, sink⟩ <;>
        cases scope <;> simp only [write, writeBytes, withParameters, due, ↓reduceIte, head] <;> rfl

theorem parameters_write (context : Context) (text : String) :
    (context.write text).2.parameters scope = context.parameters scope := by
  rw [write, writeBytes]
  split
  · rcases context.sink.write context.head.text.toUTF8 with ⟨_ | _, sink⟩ <;> cases scope <;> rfl
  · cases scope <;> rfl

theorem setMimeType_withParameters (context : Context) (mimeType : String) :
    (context.withParameters scope parameters).setMimeType mimeType =
      (context.setMimeType mimeType).map (withParameters · scope parameters) := by
  by_cases sent : context.headSent <;> cases scope <;>
    simp [setMimeType, changeHead, withParameters, sent, Except.map]

theorem parameters_settle_setMimeType (context : Context) (mimeType : String) :
    (context.settle (context.setMimeType mimeType)).2.parameters scope =
      context.parameters scope := by
  by_cases sent : context.headSent <;> cases scope <;>
    simp [setMimeType, changeHead, settle, parameters, sent]

theorem parameter?_withParameters {other : ParameterScope} (different : other ≠ scope)
    (context : Context) (name : String) :
    (context.withParameters scope parameters).parameter? other name =
      context.parameter? other name := by
  cases other <;> cases scope <;> first | rfl | exact absurd rfl different

end Context

namespace Builtin

theorem respects_differsIn {scope : ParameterScope} {builtin : Builtin}
    (blind : builtin ≠ .get scope) : builtin.Respects (Context.DiffersIn scope) := by
  cases builtin with
  | setMimeType =>
      rintro context _ mimeType ⟨parameters, rfl⟩
      rw [context.setMimeType_withParameters mimeType]
      cases context.setMimeType mimeType <;> exact ⟨rfl, parameters, rfl⟩
  | get other =>
      rintro context _ name ⟨parameters, rfl⟩
      have different : other ≠ scope := fun same => blind (congrArg get same)
      exact (context.parameter?_withParameters different name).symm
  | set kept =>
      rintro context _ name value ⟨parameters, rfl⟩
      cases kept <;> cases scope <;> exact ⟨_, rfl⟩
  | delete kept =>
      rintro context _ name ⟨parameters, rfl⟩
      cases kept <;> cases scope <;> exact ⟨_, rfl⟩
  | _ => trivial

theorem respects_keeps {scope : ParameterScope} {parameters : Parameters} {builtin : Builtin}
    (idle : ∀ kept : KeptScope, kept.scope = scope →
      builtin ≠ .set kept ∧ builtin ≠ .delete kept) :
    builtin.Respects (Context.Keeps scope parameters) := by
  cases builtin with
  | setMimeType =>
      rintro _ context mimeType ⟨rfl, rfl⟩
      exact ⟨rfl, rfl, context.parameters_settle_setMimeType mimeType⟩
  | get other =>
      rintro _ context name ⟨rfl, rfl⟩
      rfl
  | set kept =>
      rintro _ context name value ⟨rfl, rfl⟩
      refine ⟨rfl, ?_⟩
      cases kept <;> cases scope <;> first | rfl | exact absurd rfl (idle _ rfl).1
  | delete kept =>
      rintro _ context name ⟨rfl, rfl⟩
      refine ⟨rfl, ?_⟩
      cases kept <;> cases scope <;> first | rfl | exact absurd rfl (idle _ rfl).2
  | _ => trivial

end Builtin

namespace Document

variable {document : Document}

theorem uses_of_mem {elements : List Element} {name : String} {builtin : Builtin}
    (inside : .echo elements ∈ document.nodes) (member : .function name ∈ elements)
    (found : Builtin.ofName? name = some builtin) : document.Uses builtin := by
  rw [Uses, Builtin.name_of_ofName? found]
  exact List.mem_flatMap.mpr ⟨_, inside, List.mem_filterMap.mpr ⟨_, member, rfl⟩⟩

theorem execute_alike {related : Context → Context → Prop}
    (write : ∀ text, Respects related (Evaluation.write text))
    (respects : ∀ builtin, document.Uses builtin → builtin.Respects related) (passes : Nat)
    {left right : Context} (contexts : related left right) :
    Alike related (document.execute passes left) (document.execute passes right) := by
  rw [execute_eq_run, execute_eq_run]
  refine (Evaluation.compositional_respects write).evaluateAll passes document.children ?_ .empty
    left right contexts
  intro elements inside environment
  refine Evaluation.respects_results fun element member => ?_
  refine Echo.respects_evaluate environment fun name builtin same found => ?_
  exact respects builtin (uses_of_mem inside (same ▸ member) found)

theorem execute_differsIn {scope : ParameterScope} (blind : ¬document.Uses (.get scope))
    (passes : Nat) {left right : Context} (contexts : left.DiffersIn scope right) :
    Alike (Context.DiffersIn scope) (document.execute passes left)
      (document.execute passes right) := by
  refine execute_alike ?_ ?_ passes contexts
  · rintro text context _ ⟨parameters, rfl⟩
    have written : (context.withParameters scope parameters).write text = _ :=
      context.write_withParameters text
    constructor
    · exact congrArg (Except.mapError _) (congrArg Prod.fst written).symm
    · exact ⟨parameters, congrArg Prod.snd written⟩
  · rintro builtin used
    exact Builtin.respects_differsIn fun same => blind (same ▸ used)

theorem parameters_execute {scope : ParameterScope}
    (idle : ∀ kept : KeptScope, kept.scope = scope →
      ¬document.Uses (.set kept) ∧ ¬document.Uses (.delete kept))
    (passes : Nat) (context : Context) :
    (document.execute passes context).2.parameters scope = context.parameters scope := by
  have alike : Alike (Context.Keeps scope (context.parameters scope))
      (document.execute passes context) (document.execute passes context) := by
    refine execute_alike ?_ ?_ passes ⟨rfl, rfl⟩
    · rintro text _ before ⟨rfl, kept⟩
      exact ⟨rfl, rfl, (before.parameters_write text).trans kept⟩
    · intro builtin used
      refine Builtin.respects_keeps fun kept same => ⟨?_, ?_⟩
      · rintro rfl
        exact (idle kept same).1 used
      · rintro rfl
        exact (idle kept same).2 used
  exact alike.states.2

/-- A document that does not read a scope of parameters runs alike whatever these are. No document
changes the parameters of the request, and one that neither sets nor deletes parameters of another
scope leaves that scope as it was, whatever the outcome. -/
theorem execute_confined (passes : Nat) (document : Document) (context : Context) :
    (∀ scope, ¬document.Uses (.get scope) → ∀ other, context.DiffersIn scope other →
      Alike (Context.DiffersIn scope) (document.execute passes context)
        (document.execute passes other)) ∧
    (document.execute passes context).2.request = context.request ∧
    ∀ kept : KeptScope, ¬document.Uses (.set kept) → ¬document.Uses (.delete kept) →
      (document.execute passes context).2.parameters kept.scope =
        context.parameters kept.scope := by
  refine ⟨fun scope blind other => execute_differsIn blind passes, ?_, ?_⟩
  · have kept : (document.execute passes context).2.parameters .request =
        context.parameters .request :=
      parameters_execute (fun kept same => by cases kept <;> cases same) passes context
    exact kept
  · intro kept setless deleteless
    refine parameters_execute (fun other same => ?_) passes context
    obtain rfl : other = kept := by cases other <;> cases kept <;> first | rfl | cases same
    exact ⟨setless, deleteless⟩

def storing : Document :=
  ⟨[.echo [.string "v", .string "k", .function "pparamSet",
    .string "k", .string "-", .function "tparamGet"]]⟩

theorem execute_storing :
    let context := Context.new (.empty none) ∅ ∅ ∅ false
    let other := context.withParameters .persistent ((∅ : Parameters).insert "k" "old")
    ¬storing.Uses (.get .persistent) ∧
      Alike (Context.DiffersIn .persistent) (storing.execute 0 context) (storing.execute 0 other) ∧
      ¬storing.Uses (.set .temporary) ∧ ¬storing.Uses (.delete .temporary) ∧
      (storing.execute 0 context).2.temporary = context.temporary := by
  intro context other
  have blind : ¬storing.Uses (.get .persistent) := by decide
  have setless : ¬storing.Uses (.set .temporary) := by decide
  have deleteless : ¬storing.Uses (.delete .temporary) := by decide
  obtain ⟨alike, -, kept⟩ := execute_confined 0 storing context
  exact ⟨blind, alike .persistent blind other ⟨_, rfl⟩, setless, deleteless,
    kept .temporary setless deleteless⟩

end Document

end TagTemplate
