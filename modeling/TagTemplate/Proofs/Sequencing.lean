import TagTemplate.Proofs.LexicalScope

/-!
Documents one after the other and inside one another. Executing the nodes of two documents in a row
is executing the first document and then, unless it fails, the second one. A document that stands
inside another one as a node may be replaced by its children.
-/

namespace TagTemplate

/-- One document node, among some nodes or inside of them, gives way to its children. -/
inductive Node.Splices : List Node → List Node → Prop
  | here (children others) : Splices (.document children :: others) (children ++ others)
  | later {before after} (node) : Splices before after → Splices (node :: before) (node :: after)
  | document {before after} (others) : Splices before after →
      Splices (.document before :: others) (.document after :: others)
  | loop {before after} (header others) : Splices before after →
      Splices (.loop header before :: others) (.loop header after :: others)

def Document.executeThen (passes : Nat) (first second : Document) (context : Context) :
    Except Halt Unit × Context :=
  match first.execute passes context with
  | (.ok (), after) => second.execute passes after
  | (.error halt, after) => (.error halt, after)

theorem Document.execute_append (passes : Nat) (xs ys : List Node) (context : Context) :
    execute passes ⟨xs ++ ys⟩ context = executeThen passes ⟨xs⟩ ⟨ys⟩ context := by
  simp only [executeThen, execute_eq_run]
  rw [Node.evaluateAll_append, run_bind]
  rcases (Node.evaluateAll passes .empty xs).run context with ⟨_ | _, after⟩ <;> rfl

theorem Node.writtenAll_append (before after : List Node) :
    writtenAll (before ++ after) = writtenAll before ++ writtenAll after := by
  induction before with
  | nil => simp [writtenAll]
  | cons node others ih => simp only [List.cons_append, writtenAll, ih, String.append_assoc]

namespace Node.Splices

variable {before after : List Node}

theorem evaluateAll_eq (splices : Splices before after) (passes : Nat)
    (environment : Environment) :
    evaluateAll passes environment before = evaluateAll passes environment after := by
  induction splices generalizing environment with
  | here children others => rw [evaluateAll, evaluate, evaluateAll_append]
  | later node _ ih => rw [evaluateAll, evaluateAll, ih]
  | document others _ ih => rw [evaluateAll, evaluateAll, evaluate, evaluate, ih]
  | loop header others _ ih =>
      -- The body is evaluated in a new environment at every pass.
      rw [evaluateAll, evaluateAll, evaluate, evaluate]
      simp only [ih]

theorem writtenAll_eq (splices : Splices before after) : writtenAll before = writtenAll after := by
  induction splices with
  | here children others => rw [writtenAll, written, writtenAll_append]
  | later node _ ih => rw [writtenAll, writtenAll, ih]
  | document others _ ih => rw [writtenAll, writtenAll, written, written, ih]
  | loop header others _ ih => rw [writtenAll, writtenAll, written, written, ih]

end Node.Splices

/-- Documents are executed in sequence, up to the first failure and with all that was written until
then. Where a document stands inside another one, neither execution nor writing shows it. -/
theorem Document.execute_sequential (passes : Nat) :
    (∀ xs ys context,
      execute passes ⟨xs ++ ys⟩ context = executeThen passes ⟨xs⟩ ⟨ys⟩ context) ∧
    ∀ before after, Node.Splices before after →
      (∀ context, execute passes ⟨before⟩ context = execute passes ⟨after⟩ context) ∧
        written ⟨before⟩ = written ⟨after⟩ := by
  constructor
  · exact execute_append passes
  · intro before after splices
    refine ⟨fun context => ?_, splices.writtenAll_eq⟩
    simp only [execute_eq_run, splices.evaluateAll_eq]

def nestedNodes : List Node :=
  [.text "a",
    .loop ⟨"i", .integer 0, .integer 2, some (.integer 1)⟩
      [.echo [.variable "i"], .document [.text "b", .document []], .text "c"],
    .echo [.integer 0, .integer 1, .operator .divide]]

def splicedNodes : List Node :=
  [.text "a",
    .loop ⟨"i", .integer 0, .integer 2, some (.integer 1)⟩
      [.echo [.variable "i"], .text "b", .document [], .text "c"],
    .echo [.integer 0, .integer 1, .operator .divide]]

theorem execute_nestedNodes :
    Node.Splices nestedNodes splicedNodes ∧
      (∀ context, Document.execute 2 ⟨nestedNodes⟩ context =
        Document.execute 2 ⟨splicedNodes⟩ context) ∧
      Document.written ⟨nestedNodes⟩ = Document.written ⟨splicedNodes⟩ := by
  have splices : Node.Splices nestedNodes splicedNodes :=
    .later _ (.loop _ _ (.later _ (.here [.text "b", .document []] [.text "c"])))
  exact ⟨splices, (Document.execute_sequential 2).2 _ _ splices⟩

end TagTemplate
