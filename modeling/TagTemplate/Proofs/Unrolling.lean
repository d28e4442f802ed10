import Mathlib.Algebra.Order.Floor.Div
import TagTemplate.Proofs.Unwinding

/-!
Loops over integers unrolled. A loop that counts from one integer constant to another does what its
body does once for each number it counts, with the number written in place of the variable.
-/

namespace TagTemplate

def Element.echoing (name : String) (number : Int64) : Element → Element
  | .variable other =>
      if other = name then .string (Integer.text number) else .variable other
  | element => element

def Element.bounding (name : String) (number : Int64) : Element → Element
  | .variable other => if other = name then .integer number else .variable other
  | element => element

def LoopHeader.replace (header : LoopHeader) (name : String) (number : Int64) : LoopHeader where
  loopVariable := header.loopVariable
  start := header.start.bounding name number
  stop := header.stop.bounding name number
  step := header.step.map (Element.bounding name number)

mutual

/-- A number in place of a variable, except where a loop inside binds the variable again. -/
def Node.replace (name : String) (number : Int64) : Node → Node
  | .document children => .document (Node.replaceAll name number children)
  | .text content => .text content
  | .loop header children =>
      .loop (header.replace name number)
        (if header.loopVariable = name then children else Node.replaceAll name number children)
  | .echo elements => .echo (elements.map (Element.echoing name number))

def Node.replaceAll (name : String) (number : Int64) : List Node → List Node
  | [] => []
  | node :: others => node.replace name number :: Node.replaceAll name number others

end

/-- The number of the passes of a loop: none if the start is not below the end, and otherwise the
distance between them divided by the step, rounded up. -/
def passCount (start stop step : Int64) : Nat :=
  if stop ≤ start then 0 else (stop.toInt - start.toInt).toNat ⌈/⌉ step.toInt.toNat

def countedValue (start step : Int64) (pass : Nat) : Int64 :=
  .ofInt (start.toInt + pass * step.toInt)

def Node.unrolled (name : String) (start step : Int64) (children : List Node) (count : Nat) :
    List Node :=
  (List.range count).flatMap fun pass =>
    Node.replaceAll name (countedValue start step pass) children

theorem Evaluation.echo_map {left right : Environment} {elements : List Element}
    {change : Element → Element}
    (same : ∀ element ∈ elements, left.evaluate element = right.evaluate (change element)) :
    echo left elements = echo right (elements.map change) := by
  have evaluated : elements.forM left.evaluate = (elements.map change).forM right.evaluate := by
    induction elements with
    | nil => rfl
    | cons element others ih =>
        obtain ⟨first, later⟩ := List.forall_mem_cons.mp same
        rw [List.map_cons, List.forM, List.forM, first, ih later]
  simp only [echo, evaluated]

namespace Environment

variable (environment : Environment) (name : String)

theorem extend_extend (hidden value : Value) :
    (environment.extend name hidden).extend name value = environment.extend name value := by
  funext other
  by_cases same : other = name <;> simp [extend, same]

theorem extend_comm {inner : String} (apart : inner ≠ name) (value innerValue : Value) :
    (environment.extend name value).extend inner innerValue =
      (environment.extend inner innerValue).extend name value := by
  funext other
  by_cases same : other = name
  · simp [extend, same, apart.symm]
  · simp [extend, same]

theorem evaluate_echoing (number : Int64) (element : Element) :
    (environment.extend name (.integer number)).evaluate element =
      environment.evaluate (element.echoing name number) := by
  cases element with
  | «variable» other =>
      by_cases same : other = name
      · simp only [Element.echoing, if_pos same, evaluate, lookup, extend]
        rfl
      · simp only [Element.echoing, if_neg same, evaluate, lookup, extend]
  | _ => rfl

theorem bound_bounding (number : Int64) (element : Element) :
    Evaluation.bound (environment.extend name (.integer number)) element =
      Evaluation.bound environment (element.bounding name number) := by
  cases element with
  | «variable» other =>
      by_cases same : other = name
      · simp only [Element.bounding, if_pos same, Evaluation.bound, lookup, extend]
        rfl
      · simp only [Element.bounding, if_neg same, Evaluation.bound, lookup, extend]
  | _ => rfl

theorem echo_echoing (number : Int64) (elements : List Element) :
    Evaluation.echo (environment.extend name (.integer number)) elements =
      Evaluation.echo environment (elements.map (Element.echoing name number)) :=
  Evaluation.echo_map fun element _ => evaluate_echoing environment name number element

end Environment

theorem Node.evaluateAll_replaceAll (passes : Nat) (name : String) (number : Int64)
    (nodes : List Node) (environment : Environment) :
    evaluateAll passes (environment.extend name (.integer number)) nodes =
      evaluateAll passes environment (replaceAll name number nodes) := by
  induction nodes using Node.forestInduction generalizing environment with
  | nil => rfl
  | document children others ihChildren ihOthers =>
      simp only [replaceAll, replace, evaluateAll, evaluate, ihChildren, ihOthers]
  | text content others ih => simp only [replaceAll, replace, evaluateAll, evaluate, ih]
  | loop header children others ihChildren ihOthers =>
      have body : ∀ value, evaluateAll passes
          ((environment.extend name (.integer number)).extend header.loopVariable value) children =
          evaluateAll passes (environment.extend header.loopVariable value)
            (if header.loopVariable = name then children else replaceAll name number children) := by
        intro value
        by_cases same : header.loopVariable = name
        · rw [if_pos same, same, Environment.extend_extend]
        · rw [if_neg same, Environment.extend_comm _ _ same, ihChildren]
      simp only [replaceAll, replace, evaluateAll, evaluate, ihOthers, Evaluation.loop,
        LoopHeader.replace, Environment.bound_bounding, body]
      cases header.step <;> simp only [Option.map]
  | echo elements others ih =>
      simp only [replaceAll, replace, evaluateAll, evaluate, ih, Environment.echo_echoing]

theorem Node.evaluateAll_flatMap {α : Type} (passes : Nat) (environment : Environment)
    (nodes : α → List Node) (values : List α) :
    evaluateAll passes environment (values.flatMap nodes) =
      values.forM fun value => evaluateAll passes environment (nodes value) := by
  induction values with
  | nil => rfl
  | cons value others ih => rw [List.flatMap_cons, evaluateAll_append, ih, List.forM]

section Counting

variable {start stop step : Int64}

theorem lt_passCount_iff (positive : 0 < step) (pass : Nat) :
    pass < passCount start stop step ↔ start.toInt + pass * step.toInt < stop.toInt := by
  have above : 0 < step.toInt := Int64.lt_iff_toInt_lt.mp positive
  unfold passCount
  split
  · rename_i empty
    have order := Int64.le_iff_toInt_le.mp empty
    have forward : 0 ≤ pass * step.toInt := by positivity
    omega
  · rename_i below
    have order := mt Int64.le_iff_toInt_le.mpr below
    rw [← not_le, ceilDiv_le_iff_le_mul (by omega), not_le, ← Int.ofNat_lt, Int.natCast_mul,
      Int.toNat_of_nonneg above.le, Int.toNat_of_nonneg (by omega), mul_comm]
    constructor <;> intro less <;> omega

theorem toInt_countedValue (positive : 0 < step)
    (inRange : start.toInt + passCount start stop step * step.toInt ≤ 2 ^ 63 - 1) {pass : Nat}
    (reached : pass ≤ passCount start stop step) :
    (countedValue start step pass).toInt = start.toInt + pass * step.toInt := by
  have above : 0 < step.toInt := Int64.lt_iff_toInt_lt.mp positive
  have forward : 0 ≤ pass * step.toInt := by positivity
  have low := start.le_toInt
  have high : pass * step.toInt ≤ passCount start stop step * step.toInt := by gcongr
  exact Int64.toInt_ofInt_of_le (by omega) (by omega)

theorem countedValue_succ (pass : Nat) :
    countedValue start step (pass + 1) = countedValue start step pass + step := by
  have next : start.toInt + ((pass + 1 : Nat) : Int) * step.toInt =
      start.toInt + pass * step.toInt + step.toInt := by
    push_cast
    ring
  rw [countedValue, countedValue, next, Int64.ofInt_add _ step.toInt, Int64.ofInt_toInt]

namespace Evaluation

theorem isBelow_integer (current stop : Int64) :
    isBelow (.integer current) (.integer stop) = pure (decide (current < stop)) := by
  have order : (compare current stop == Ordering.lt) = decide (current < stop) := by
    rw [Bool.eq_iff_iff, beq_iff_eq, decide_eq_true_eq]
    exact compareOfLessAndEq_eq_lt
  rw [← order]
  rfl

theorem iterate_counting (positive : 0 < step)
    (inRange : start.toInt + passCount start stop step * step.toInt ≤ 2 ^ 63 - 1)
    (body : Value → Evaluation Unit) (limit : Nat) {first remaining : Nat}
    (total : first + remaining = passCount start stop step) :
    iterate (.integer stop) (.integer step) body limit (.integer (countedValue start step first)) =
      ((List.range' first (min limit remaining)).forM fun pass =>
          body (.integer (countedValue start step pass))) >>= fun _ =>
        if limit < remaining then throw .unfinished else pure () := by
  have below : ∀ {pass}, pass ≤ passCount start stop step →
      (countedValue start step pass < stop ↔ pass < passCount start stop step) := by
    intro pass reached
    rw [lt_passCount_iff positive, Int64.lt_iff_toInt_lt, toInt_countedValue positive inRange reached]
  -- With each pass that is made, one less may be made and one less is left to be made.
  induction limit generalizing first remaining with
  | zero =>
      have here := below (show first ≤ passCount start stop step by omega)
      have more : (countedValue start step first < stop) = (0 < remaining) :=
        propext (by rw [here]; omega)
      rw [iterate, isBelow_integer, pure_bind, Nat.zero_min]
      simp only [more, decide_eq_true_eq]
      rfl
  | succ limit ih =>
      have here := below (show first ≤ passCount start stop step by omega)
      rw [iterate, isBelow_integer, pure_bind]
      cases remaining with
      | zero =>
          rw [if_neg (by simp [here]; omega)]
          rfl
      | succ remaining =>
          have next : (Operator.add.apply (.integer (countedValue start step first))
              (.integer step)) = .ok (.integer (countedValue start step (first + 1))) := by
            rw [countedValue_succ]
            rfl
          rw [if_pos (by simp [here]; omega), next, Nat.add_min_add_right, List.range'_succ,
            List.forM, bind_assoc]
          refine congrArg _ (funext fun _ => ?_)
          simp only [Nat.add_lt_add_iff_right]
          exact ih (by omega)

end Evaluation

end Counting

theorem Simulates.run_eq {α : Type} {scope : Scope} {left right : Execution α}
    {evaluation : Evaluation α} (simulatesLeft : Simulates scope left evaluation)
    (simulatesRight : Simulates scope right evaluation) (context : Context) :
    left.run ⟨scope, context⟩ = right.run ⟨scope, context⟩ :=
  (simulatesLeft context).trans (simulatesRight context).symm

def LoopHeader.counting (name : String) (start stop step : Int64) : LoopHeader :=
  ⟨name, .integer start, .integer stop, some (.integer step)⟩

theorem Evaluation.loop_counting {start stop step : Int64} (positive : 0 < step)
    (inRange : start.toInt + passCount start stop step * step.toInt ≤ 2 ^ 63 - 1)
    (passes limit : Nat) (environment : Environment) (name : String) (children : List Node) :
    Evaluation.loop limit environment (.counting name start stop step)
        (fun inner => Node.evaluateAll passes inner children) =
      Node.evaluateAll passes environment
          (Node.unrolled name start step children (min limit (passCount start stop step))) >>=
        fun _ => if limit < passCount start stop step then throw .unfinished else pure () := by
  have counted := iterate_counting positive inRange
    (fun value => Node.evaluateAll passes (environment.extend name value) children) limit
    (Nat.zero_add _)
  simp only [Node.evaluateAll_replaceAll] at counted
  rw [Node.unrolled, Node.evaluateAll_flatMap, List.range_eq_range', ← counted]
  have first : countedValue start step 0 = start := by simp [countedValue]
  rw [first]
  rfl

/-- A loop over integers whose values stay in range does what its unrolled bodies do. If it may not
make as many passes, it makes all it may and is unfinished. -/
theorem Node.walk_loop_unrolled {start stop step : Int64} (positive : 0 < step)
    (inRange : start.toInt + passCount start stop step * step.toInt ≤ 2 ^ 63 - 1)
    (passes : Nat) (name : String) (children : List Node) (machine : Machine) :
    (passCount start stop step ≤ passes →
      ((Node.loop (.counting name start stop step) children).walk (Execution.executor passes)).run
          machine =
        (walkAll (Execution.executor passes)
          (unrolled name start step children (passCount start stop step))).run machine) ∧
    ∀ limit < passCount start stop step,
      (Execution.loop limit (.counting name start stop step)
          (walkAll (Execution.executor passes) children)).run machine =
        (walkAll (Execution.executor passes) (unrolled name start step children limit) >>=
          fun _ => throw .unfinished).run machine := by
  obtain ⟨scope, context⟩ := machine
  have agrees := scope.agrees_environment
  have looped : ∀ limit, Simulates scope
      (Execution.loop limit (.counting name start stop step)
        (walkAll (Execution.executor passes) children))
      (evaluateAll passes scope.environment
          (unrolled name start step children (min limit (passCount start stop step))) >>=
        fun _ => if limit < passCount start stop step then throw .unfinished else pure ()) := by
    intro limit
    rw [← Evaluation.loop_counting positive inRange]
    exact Execution.simulates_loop agrees limit _ fun value =>
      simulates_walkAll passes children (agrees.push name value)
  have bodies : ∀ count, Simulates scope
      (walkAll (Execution.executor passes) (unrolled name start step children count))
      (evaluateAll passes scope.environment (unrolled name start step children count)) :=
    fun count => simulates_walkAll passes _ agrees
  constructor
  · intro enough
    have whole := looped passes
    rw [Nat.min_eq_right enough, if_neg (by omega), bind_pure] at whole
    exact whole.run_eq (bodies _) context
  · intro limit short
    have cut := looped limit
    rw [Nat.min_eq_left short.le, if_pos short] at cut
    exact cut.run_eq ((bodies limit).bind fun _ => Simulates.throw _) context

def shadowingBody : List Node :=
  [.echo [.variable "i"],
    .loop ⟨"i", .variable "i", .integer 9223372036854775807, some (.integer 1)⟩
      [.echo [.variable "i"]]]

def shadowingBodies : List Node :=
  [.echo [.string "9223372036854775803"],
    .loop ⟨"i", .integer 9223372036854775803, .integer 9223372036854775807, some (.integer 1)⟩
      [.echo [.variable "i"]],
    .echo [.string "9223372036854775805"],
    .loop ⟨"i", .integer 9223372036854775805, .integer 9223372036854775807, some (.integer 1)⟩
      [.echo [.variable "i"]]]

theorem unrolled_shadowingBody :
    Node.unrolled "i" 9223372036854775803 2 shadowingBody 2 = shadowingBodies := by
  cbv

theorem walk_loop_shadowingBody :
    (0 : Int64) < 2 ∧
      (9223372036854775803 : Int64).toInt +
          passCount 9223372036854775803 9223372036854775806 2 * (2 : Int64).toInt ≤ 2 ^ 63 - 1 ∧
      ((Node.loop (.counting "i" 9223372036854775803 9223372036854775806 2) shadowingBody).walk
          (Execution.executor 2)).run ⟨.empty, .new (.empty none) ∅ ∅ ∅ true⟩ =
        (Node.walkAll (Execution.executor 2) shadowingBodies).run
          ⟨.empty, .new (.empty none) ∅ ∅ ∅ true⟩ := by
  have positive : (0 : Int64) < 2 := by decide
  have count : passCount 9223372036854775803 9223372036854775806 2 = 2 := by decide
  have inRange : (9223372036854775803 : Int64).toInt +
      passCount 9223372036854775803 9223372036854775806 2 * (2 : Int64).toInt ≤ 2 ^ 63 - 1 := by
    rw [count]
    decide
  have unrolled := (Node.walk_loop_unrolled positive inRange 2 "i" shadowingBody
    ⟨.empty, .new (.empty none) ∅ ∅ ∅ true⟩).1 count.le
  rw [count, unrolled_shadowingBody] at unrolled
  exact ⟨positive, inRange, unrolled⟩

end TagTemplate
