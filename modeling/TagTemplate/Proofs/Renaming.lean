import TagTemplate.Proofs.Unrolling

/-!
Loop variables renamed. The name of a loop variable shows nowhere but in the loop itself: a loop and
its body may go by another name, as long as the body does not use that name, and only the error of a
loop that has no step tells the two apart. That error is known by the name alone, whatever the body
of the loop is.
-/

namespace TagTemplate

def Element.variableName? : Element → Option String
  | .variable name => some name
  | _ => none

def Node.ownNames : Node → List String
  | .loop header _ => header.loopVariable :: header.bounds.filterMap Element.variableName?
  | .echo elements => elements.filterMap Element.variableName?
  | .document _ | .text _ => []

def Node.names (nodes : List Node) : List String :=
  (forest nodes).flatMap ownNames

def Element.rename (name fresh : String) : Element → Element
  | .variable other => .variable (if other = name then fresh else other)
  | element => element

def LoopHeader.renameBounds (header : LoopHeader) (name fresh : String) : LoopHeader where
  loopVariable := header.loopVariable
  start := header.start.rename name fresh
  stop := header.stop.rename name fresh
  step := header.step.map (Element.rename name fresh)

mutual

/-- Another name for a variable, except where a loop inside binds the variable again. -/
def Node.rename (name fresh : String) : Node → Node
  | .document children => .document (Node.renameAll name fresh children)
  | .text content => .text content
  | .loop header children =>
      .loop (header.renameBounds name fresh)
        (if header.loopVariable = name then children else Node.renameAll name fresh children)
  | .echo elements => .echo (elements.map (Element.rename name fresh))

def Node.renameAll (name fresh : String) : List Node → List Node
  | [] => []
  | node :: others => node.rename name fresh :: Node.renameAll name fresh others

end

def LoopHeader.over (header : LoopHeader) (name : String) : LoopHeader :=
  { header with loopVariable := name }

/-- A place for a node, among some nodes or inside of them. Whatever node is found among them, and
however deep, stands at such a place: `Node.exists_place`. -/
inductive Node.Place where
  | here (others : List Node)
  | later (first : Node) (place : Place)
  | document (place : Place) (others : List Node)
  | loop (header : LoopHeader) (place : Place) (others : List Node)

namespace Node.Place

def fill : Place → Node → List Node
  | here others, node => node :: others
  | later first place, node => first :: place.fill node
  | document place others, node => .document (place.fill node) :: others
  | loop header place others, node => .loop header (place.fill node) :: others

/-- An execution fails at the loop in this place for want of a step: under whatever name and with
whatever body the loop stands there, this name is in the error. -/
def MissesStep (passes : Nat) (place : Place) (header : LoopHeader) (context : Context) : Prop :=
  ∀ name children,
    (Document.execute passes ⟨place.fill (.loop (header.over name) children)⟩ context).1 =
      .error (.failed (.missingStep name))

end Node.Place

theorem Node.exists_place {node : Node} {nodes : List Node} (member : node ∈ forest nodes) :
    ∃ place : Place, place.fill node = nodes := by
  induction nodes using Node.forestInduction with
  | nil => simp at member
  | document children others ihChildren ihOthers =>
      simp only [forest_cons, Node.children, List.mem_cons, List.mem_append] at member
      rcases member with rfl | inside | behind
      · exact ⟨.here others, rfl⟩
      · obtain ⟨place, rfl⟩ := ihChildren inside
        exact ⟨.document place others, rfl⟩
      · obtain ⟨place, rfl⟩ := ihOthers behind
        exact ⟨.later (.document children) place, rfl⟩
  | text content others ih =>
      simp only [forest_cons, Node.children, forest_nil, List.nil_append, List.mem_cons] at member
      rcases member with rfl | behind
      · exact ⟨.here others, rfl⟩
      · obtain ⟨place, rfl⟩ := ih behind
        exact ⟨.later (.text content) place, rfl⟩
  | loop header children others ihChildren ihOthers =>
      simp only [forest_cons, Node.children, List.mem_cons, List.mem_append] at member
      rcases member with rfl | inside | behind
      · exact ⟨.here others, rfl⟩
      · obtain ⟨place, rfl⟩ := ihChildren inside
        exact ⟨.loop header place others, rfl⟩
      · obtain ⟨place, rfl⟩ := ihOthers behind
        exact ⟨.later (.loop header children) place, rfl⟩
  | echo elements others ih =>
      simp only [forest_cons, Node.children, forest_nil, List.nil_append, List.mem_cons] at member
      rcases member with rfl | behind
      · exact ⟨.here others, rfl⟩
      · obtain ⟨place, rfl⟩ := ih behind
        exact ⟨.later (.echo elements) place, rfl⟩

theorem Node.not_mem_names_cons {name : String} {node : Node} {others : List Node}
    (unused : name ∉ names (node :: others)) :
    name ∉ node.ownNames ∧ name ∉ names node.children ∧ name ∉ names others := by
  simpa [names, forest_cons] using unused

theorem Evaluation.loop_congr (passes : Nat) {left right : Environment}
    {header other : LoopHeader} {body otherBody : Environment → Evaluation Unit}
    (start : bound left header.start = bound right other.start)
    (stop : bound left header.stop = bound right other.stop)
    (step : header.step.map (bound left) = other.step.map (bound right))
    (named : header.step = none → header.loopVariable = other.loopVariable)
    (bodies : ∀ value, body (left.extend header.loopVariable value) =
      otherBody (right.extend other.loopVariable value)) :
    loop passes left header body = loop passes right other otherBody := by
  simp only [loop, start, stop, bodies]
  cases stepped : header.step with
  | none =>
      rw [stepped, Option.map_none, eq_comm, Option.map_eq_none_iff] at step
      simp only [step, named stepped]
  | some element =>
      rw [stepped, Option.map_some, eq_comm, Option.map_eq_some_iff] at step
      obtain ⟨otherElement, otherStepped, same⟩ := step
      simp only [otherStepped, same]

namespace Environment

variable {environment : Environment} {name fresh other : String} {element : Element}

theorem lookup_extend_of_ne (apart : other ≠ fresh) (value : Value) :
    (environment.extend fresh value).lookup other = environment.lookup other := by
  simp only [lookup, extend, if_neg apart]

theorem lookup_rename (apart : other ≠ fresh) (value : Value) :
    (environment.extend name value).lookup other =
      (environment.extend fresh value).lookup (if other = name then fresh else other) := by
  by_cases same : other = name
  · simp [lookup, extend, same]
  · rw [if_neg same, lookup_extend_of_ne same, lookup_extend_of_ne apart]

theorem evaluate_extend_of_unused (unused : element.variableName? ≠ some fresh) (value : Value) :
    (environment.extend fresh value).evaluate element = environment.evaluate element := by
  cases element with
  | «variable» other =>
      have apart : other ≠ fresh := fun same => unused (congrArg some same)
      rw [evaluate, evaluate, lookup_extend_of_ne apart]
  | _ => rfl

theorem evaluate_rename (unused : element.variableName? ≠ some fresh) (value : Value) :
    (environment.extend name value).evaluate element =
      (environment.extend fresh value).evaluate (element.rename name fresh) := by
  cases element with
  | «variable» other =>
      have apart : other ≠ fresh := fun same => unused (congrArg some same)
      rw [Element.rename, evaluate, evaluate, lookup_rename apart]
  | _ => rfl

theorem echo_extend_of_unused {elements : List Element}
    (unused : ∀ element ∈ elements, element.variableName? ≠ some fresh) (value : Value) :
    Evaluation.echo (environment.extend fresh value) elements =
      Evaluation.echo environment elements := by
  have same : ∀ element ∈ elements,
      (environment.extend fresh value).evaluate element = environment.evaluate (id element) :=
    fun element member => evaluate_extend_of_unused (unused element member) value
  rw [Evaluation.echo_map same, List.map_id]

theorem echo_rename {elements : List Element}
    (unused : ∀ element ∈ elements, element.variableName? ≠ some fresh) (value : Value) :
    Evaluation.echo (environment.extend name value) elements =
      Evaluation.echo (environment.extend fresh value) (elements.map (Element.rename name fresh)) :=
  Evaluation.echo_map fun element member => evaluate_rename (unused element member) value

theorem bound_extend_of_unused (unused : element.variableName? ≠ some fresh) (value : Value) :
    Evaluation.bound (environment.extend fresh value) element =
      Evaluation.bound environment element := by
  cases element with
  | «variable» other =>
      have apart : other ≠ fresh := fun same => unused (congrArg some same)
      rw [Evaluation.bound, Evaluation.bound, lookup_extend_of_ne apart]
  | _ => rfl

theorem bound_rename (unused : element.variableName? ≠ some fresh) (value : Value) :
    Evaluation.bound (environment.extend name value) element =
      Evaluation.bound (environment.extend fresh value) (element.rename name fresh) := by
  cases element with
  | «variable» other =>
      have apart : other ≠ fresh := fun same => unused (congrArg some same)
      rw [Element.rename, Evaluation.bound, Evaluation.bound, lookup_rename apart]
  | _ => rfl

end Environment

theorem Element.ne_of_not_mem_names {name : String} {elements : List Element}
    (unused : name ∉ elements.filterMap variableName?) :
    ∀ element ∈ elements, element.variableName? ≠ some name :=
  fun element member named => unused (List.mem_filterMap.mpr ⟨element, member, named⟩)

theorem LoopHeader.forall_mem_bounds {header : LoopHeader} {holds : Element → Prop} :
    (∀ element ∈ header.bounds, holds element) ↔
      holds header.start ∧ holds header.stop ∧ ∀ element ∈ header.step, holds element := by
  simp [bounds]

theorem Node.evaluateAll_extend_of_unused (passes : Nat) {fresh : String} (value : Value)
    (nodes : List Node) (unused : fresh ∉ names nodes) (environment : Environment) :
    evaluateAll passes (environment.extend fresh value) nodes =
      evaluateAll passes environment nodes := by
  induction nodes using Node.forestInduction generalizing environment with
  | nil => rfl
  | document children others ihChildren ihOthers =>
      obtain ⟨_, inside, behind⟩ := not_mem_names_cons unused
      simp only [evaluateAll, evaluate, ihChildren inside, ihOthers behind]
  | text content others ih =>
      obtain ⟨_, _, behind⟩ := not_mem_names_cons unused
      simp only [evaluateAll, evaluate, ih behind]
  | loop header children others ihChildren ihOthers =>
      obtain ⟨own, inside, behind⟩ := not_mem_names_cons unused
      obtain ⟨apart, unread⟩ := List.ne_and_not_mem_of_not_mem_cons own
      obtain ⟨start, stop, step⟩ :=
        LoopHeader.forall_mem_bounds.mp (Element.ne_of_not_mem_names unread)
      rw [evaluateAll, evaluateAll, evaluate, evaluate, ihOthers behind]
      congr 1
      apply Evaluation.loop_congr
      case start => exact Environment.bound_extend_of_unused start value
      case stop => exact Environment.bound_extend_of_unused stop value
      case step =>
        exact Option.map_congr fun element member =>
          Environment.bound_extend_of_unused (step element member) value
      case named => exact fun _ => rfl
      case bodies =>
        intro innerValue
        rw [Environment.extend_comm environment fresh (Ne.symm apart), ihChildren inside]
  | echo elements others ih =>
      obtain ⟨own, _, behind⟩ := not_mem_names_cons unused
      rw [evaluateAll, evaluateAll, evaluate, evaluate, ih behind,
        Environment.echo_extend_of_unused (Element.ne_of_not_mem_names own)]

theorem Node.evaluateAll_renameAll (passes : Nat) (name : String) {fresh : String} (value : Value)
    (nodes : List Node) (unused : fresh ∉ names nodes) (environment : Environment) :
    evaluateAll passes (environment.extend name value) nodes =
      evaluateAll passes (environment.extend fresh value) (renameAll name fresh nodes) := by
  induction nodes using Node.forestInduction generalizing environment with
  | nil => rfl
  | document children others ihChildren ihOthers =>
      obtain ⟨_, inside, behind⟩ := not_mem_names_cons unused
      simp only [renameAll, rename, evaluateAll, evaluate, ihChildren inside, ihOthers behind]
  | text content others ih =>
      obtain ⟨_, _, behind⟩ := not_mem_names_cons unused
      simp only [renameAll, rename, evaluateAll, evaluate, ih behind]
  | loop header children others ihChildren ihOthers =>
      obtain ⟨own, inside, behind⟩ := not_mem_names_cons unused
      obtain ⟨apart, unread⟩ := List.ne_and_not_mem_of_not_mem_cons own
      obtain ⟨start, stop, step⟩ :=
        LoopHeader.forall_mem_bounds.mp (Element.ne_of_not_mem_names unread)
      rw [renameAll, rename, evaluateAll, evaluateAll, evaluate, evaluate, ihOthers behind]
      congr 1
      apply Evaluation.loop_congr
      case start => exact Environment.bound_rename start value
      case stop => exact Environment.bound_rename stop value
      case step =>
        rw [LoopHeader.renameBounds, Option.map_map]
        exact Option.map_congr fun element member =>
          Environment.bound_rename (step element member) value
      case named => exact fun _ => rfl
      case bodies =>
        intro innerValue
        change _ = evaluateAll passes
          ((environment.extend fresh value).extend header.loopVariable innerValue) _
        rw [Environment.extend_comm environment fresh (Ne.symm apart)]
        by_cases same : header.loopVariable = name
        -- The body has a variable of its own by the old name and is not renamed.
        · rw [if_pos same, same, Environment.extend_extend]
          exact (evaluateAll_extend_of_unused passes value children inside _).symm
        · rw [if_neg same, Environment.extend_comm environment name same, ihChildren inside]
  | echo elements others ih =>
      obtain ⟨own, _, behind⟩ := not_mem_names_cons unused
      rw [renameAll, rename, evaluateAll, evaluateAll, evaluate, evaluate, ih behind,
        Environment.echo_rename (Element.ne_of_not_mem_names own)]

namespace Evaluation

variable {ι α β : Type} {name : ι → String}

/-- Evaluations that end alike, or fail for want of a step with a name each. -/
def DifferInName (name : ι → String) (family : ι → Evaluation α) : Prop :=
  ∀ context, (∃ outcome, ∀ index, (family index).run context = outcome) ∨
    ∃ after, ∀ index,
      (family index).run context = (.error (.failed (.missingStep (name index))), after)

namespace DifferInName

theorem of_eq (evaluation : Evaluation α) : DifferInName name fun _ => evaluation :=
  fun context => .inl ⟨evaluation.run context, fun _ => rfl⟩

theorem bind {first : ι → Evaluation α} {next : ι → α → Evaluation β}
    (one : DifferInName name first) (two : ∀ value, DifferInName name fun index => next index value) :
    DifferInName name fun index => first index >>= next index := by
  intro context
  simp only [run_bind]
  rcases one context with ⟨⟨result, after⟩, alike⟩ | ⟨after, fails⟩
  · simp only [alike]
    cases result with
    | ok value => exact two value after
    | error halt => exact .inl ⟨(.error halt, after), fun _ => rfl⟩
  · simp only [fails]
    exact .inr ⟨after, fun _ => rfl⟩

theorem iterate {stop step : Value} {body : ι → Value → Evaluation Unit}
    (each : ∀ value, DifferInName name fun index => body index value) (passes : Nat)
    (current : Value) :
    DifferInName name fun index => Evaluation.iterate stop step (body index) passes current := by
  induction passes generalizing current with
  | zero => exact of_eq _
  | succ passes ih =>
      simp only [Evaluation.iterate]
      refine bind (of_eq _) fun below => ?_
      cases below with
      | false => exact of_eq _
      | true => exact bind (each current) fun _ => bind (of_eq _) ih

theorem loop (passes : Nat) (environment : Environment) (header : LoopHeader)
    {body : ι → Environment → Evaluation Unit}
    (each : ∀ inner, DifferInName name fun index => body index inner) :
    DifferInName name fun index => Evaluation.loop passes environment header (body index) := by
  refine bind (of_eq _) fun start => bind (of_eq _) fun stop => ?_
  cases header.step with
  | none => exact of_eq _
  | some element =>
      exact bind (of_eq _) fun step => iterate (fun value => each _) passes start

theorem fill (passes : Nat) {node : ι → Node} (place : Node.Place)
    (placed : ∀ environment, DifferInName name fun index => (node index).evaluate passes environment)
    (environment : Environment) :
    DifferInName name fun index =>
      Node.evaluateAll passes environment (place.fill (node index)) := by
  induction place generalizing environment with
  | here others => exact bind (placed environment) fun _ => of_eq _
  | later first place ih => exact bind (of_eq _) fun _ => ih environment
  | document place others ih => exact bind (ih environment) fun _ => of_eq _
  | loop header place others ih =>
      have looped := loop passes environment header ih
      exact bind looped fun _ => of_eq _

end DifferInName

end Evaluation

theorem Evaluation.DifferInName.stepless (passes : Nat) {header : LoopHeader}
    (stepless : header.step = none) (environment : Environment) :
    DifferInName Prod.fst fun (loop : String × List Node) =>
      (Node.loop (header.over loop.1) loop.2).evaluate passes environment := by
  simp only [Node.evaluate, Evaluation.loop, LoopHeader.over, stepless]
  exact bind (of_eq _) fun _ => bind (of_eq _) fun _ => fun context =>
    .inr ⟨context, fun _ => rfl⟩

theorem Node.evaluate_over (passes : Nat) {header : LoopHeader} {children : List Node}
    {fresh : String} (stepped : header.step ≠ none) (unused : fresh ∉ names children)
    (environment : Environment) :
    (Node.loop header children).evaluate passes environment =
      (Node.loop (header.over fresh) (renameAll header.loopVariable fresh children)).evaluate passes
        environment := by
  rw [evaluate, evaluate]
  apply Evaluation.loop_congr
  case start | stop | step => rfl
  case named => exact fun stepless => absurd stepless stepped
  case bodies =>
    intro value
    exact evaluateAll_renameAll passes header.loopVariable value children unused environment

theorem Node.Place.evaluateAll_fill_congr (passes : Nat) {node other : Node} (place : Place)
    (same : ∀ environment, node.evaluate passes environment = other.evaluate passes environment)
    (environment : Environment) :
    evaluateAll passes environment (place.fill node) =
      evaluateAll passes environment (place.fill other) := by
  induction place generalizing environment with
  | here others => rw [fill, fill, evaluateAll, evaluateAll, same]
  | later first place ih => rw [fill, fill, evaluateAll, evaluateAll, ih]
  | document place others ih =>
      rw [fill, fill, evaluateAll, evaluateAll, evaluate, evaluate, ih]
  | loop header place others ih =>
      rw [fill, fill, evaluateAll, evaluateAll, evaluate, evaluate]
      simp only [ih]

namespace Document

variable {passes : Nat} {place : Node.Place} {header : LoopHeader} {context : Context}

theorem execute_over {children : List Node} {fresh : String} (stepped : header.step ≠ none)
    (unused : fresh ∉ Node.names children) :
    execute passes ⟨place.fill (.loop header children)⟩ context =
      execute passes ⟨place.fill (.loop (header.over fresh)
        (Node.renameAll header.loopVariable fresh children))⟩ context := by
  have same := place.evaluateAll_fill_congr passes (Node.evaluate_over passes stepped unused) .empty
  rw [execute_eq_run, execute_eq_run, same]

theorem execute_stepless (stepless : header.step = none) :
    (∃ outcome, ∀ name children,
      execute passes ⟨place.fill (.loop (header.over name) children)⟩ context = outcome) ∨
    ∃ after, ∀ name children,
      execute passes ⟨place.fill (.loop (header.over name) children)⟩ context =
        (.error (.failed (.missingStep name)), after) := by
  have differ := Evaluation.DifferInName.fill passes place
    (Evaluation.DifferInName.stepless passes stepless) .empty context
  simp only [execute_eq_run]
  rcases differ with ⟨outcome, alike⟩ | ⟨after, fails⟩
  · exact .inl ⟨outcome, fun name children => alike (name, children)⟩
  · exact .inr ⟨after, fun name children => fails (name, children)⟩

theorem step_of_missesStep (misses : place.MissesStep passes header context) :
    header.step = none := by
  by_contra stepped
  have one := misses "a" []
  have other := misses "b" []
  have same : execute passes ⟨place.fill (.loop (header.over "a") [])⟩ context =
      execute passes ⟨place.fill (.loop ((header.over "a").over "b")
        (Node.renameAll (header.over "a").loopVariable "b" []))⟩ context :=
    execute_over stepped List.not_mem_nil
  change _ = execute passes ⟨place.fill (.loop (header.over "b") [])⟩ context at same
  rw [same, other] at one
  simp at one

/-- Wherever a loop stands in a document, its variable may have any name that its body does not use.
The execution is the same, except that a failure for want of the loop's own step names the new
variable. -/
theorem execute_renamed (passes : Nat) (place : Node.Place) (header : LoopHeader)
    (children : List Node) {fresh : String} (unused : fresh ∉ Node.names children)
    (context : Context) :
    let original := execute passes ⟨place.fill (.loop header children)⟩ context
    let renamed := execute passes ⟨place.fill (.loop (header.over fresh)
      (Node.renameAll header.loopVariable fresh children))⟩ context
    (¬place.MissesStep passes header context → renamed = original) ∧
      (place.MissesStep passes header context → header.step = none ∧
        original.1 = .error (.failed (.missingStep header.loopVariable)) ∧
        renamed = (.error (.failed (.missingStep fresh)), original.2)) := by
  intro original renamed
  by_cases stepless : header.step = none
  · rcases execute_stepless stepless with ⟨outcome, alike⟩ | ⟨after, fails⟩
    · have unchanged : renamed = original :=
        (alike fresh _).trans (alike header.loopVariable children).symm
      refine ⟨fun _ => unchanged, fun misses => ?_⟩
      have one := misses "a" []
      rw [alike "a" [], ← alike "b" [], misses "b" []] at one
      simp at one
    · have failed : original = (.error (.failed (.missingStep header.loopVariable)), after) :=
        fails header.loopVariable children
      have misses : place.MissesStep passes header context :=
        fun name children => congrArg Prod.fst (fails name children)
      refine ⟨fun finds => absurd misses finds, fun _ => ⟨stepless, by rw [failed], ?_⟩⟩
      rw [failed]
      exact fails fresh _
  · refine ⟨fun _ => (execute_over stepless unused).symm, fun misses => ?_⟩
    exact absurd (step_of_missesStep misses) stepless

end Document

def rebindingBody : List Node :=
  [.echo [.variable "x"],
    .loop ⟨"x", .variable "x", .integer 3, some (.integer 1)⟩ [.echo [.variable "x"]]]

def renamedBody : List Node :=
  [.echo [.variable "y"],
    .loop ⟨"x", .variable "y", .integer 3, some (.integer 1)⟩ [.echo [.variable "x"]]]

def Node.Place.insideOuterLoop : Node.Place :=
  .loop ⟨"y", .integer 0, .integer 2, some (.integer 1)⟩ (.here [.echo [.variable "y"]]) []

theorem Document.execute_rebindingBody :
    "y" ∉ Node.names rebindingBody ∧
      Document.execute 3 ⟨Node.Place.insideOuterLoop.fill
          (.loop ⟨"y", .variable "y", .integer 3, some (.integer 1)⟩ renamedBody)⟩
          (.new (.empty none) ∅ ∅ ∅ true) =
        Document.execute 3 ⟨Node.Place.insideOuterLoop.fill
          (.loop ⟨"x", .variable "y", .integer 3, some (.integer 1)⟩ rebindingBody)⟩
          (.new (.empty none) ∅ ∅ ∅ true) ∧
      Node.Place.insideOuterLoop.MissesStep 3 ⟨"x", .variable "y", .integer 3, none⟩
        (.new (.empty none) ∅ ∅ ∅ true) ∧
      (Document.execute 3 ⟨Node.Place.insideOuterLoop.fill
          (.loop ⟨"y", .variable "y", .integer 3, none⟩ renamedBody)⟩
          (.new (.empty none) ∅ ∅ ∅ true)).1 = .error (.failed (.missingStep "y")) := by
  -- The new variable is that of the loop around, which the bounds name but the body does not.
  have unused : "y" ∉ Node.names rebindingBody := by
    simp [Node.names, rebindingBody, Node.forest_cons, Node.children, Node.ownNames,
      LoopHeader.bounds, Element.variableName?]
  have body : Node.renameAll "x" "y" rebindingBody = renamedBody := by rfl
  have misses : Node.Place.insideOuterLoop.MissesStep 3 ⟨"x", .variable "y", .integer 3, none⟩
      (.new (.empty none) ∅ ∅ ∅ true) := by
    intro name children
    rw [execute_eq_run]
    rfl
  have finds : ¬Node.Place.insideOuterLoop.MissesStep 3
      ⟨"x", .variable "y", .integer 3, some (.integer 1)⟩ (.new (.empty none) ∅ ∅ ∅ true) :=
    fun misses => Option.some_ne_none _ (step_of_missesStep misses)
  have stepped := (execute_renamed 3 _ _ rebindingBody unused _).1 finds
  have stepless := ((execute_renamed 3 _ _ rebindingBody unused _).2 misses).2.2
  rw [body] at stepped stepless
  exact ⟨unused, stepped, misses, congrArg Prod.fst stepless⟩

end TagTemplate
