import TagTemplate.Proofs.Composition

/-!
Executions that fill their sink. As long as everything fits, a limit on the sink shows nowhere. The
first write that does not fit ends the execution, and the sink then holds the beginning of what an
unlimited one would hold in the end.
-/

namespace TagTemplate

def Sink.limit (sink : Sink) (capacity : Nat) : Sink :=
  { sink with room := some (capacity - sink.bytes.size) }

def Context.limit (context : Context) (capacity : Nat) : Context :=
  { context with sink := context.sink.limit capacity }

def Context.onEmptySink (context : Context) (room : Option Nat) : Context :=
  { context with sink.bytes := .empty, sink.room := room }

/-- An evaluation runs on a limited sink as it does on an unlimited one, up to the first write that
does not fit. -/
structure Evaluation.Truncates {α : Type} (evaluation : Evaluation α) (context : Context) :
    Prop where
  unlimited : (evaluation.run context).2.sink.room = none
  grows : ∃ written, (evaluation.run context).2.sink.bytes = context.sink.bytes ++ written
  fits : ∀ capacity, (evaluation.run context).2.sink.bytes.size ≤ capacity →
    evaluation.run (context.limit capacity) =
      ((evaluation.run context).1, (evaluation.run context).2.limit capacity)
  overflows : ∀ capacity, context.sink.bytes.size ≤ capacity →
    capacity < (evaluation.run context).2.sink.bytes.size →
    (evaluation.run (context.limit capacity)).1 = .error (.failed (.context .sinkFull)) ∧
      (evaluation.run (context.limit capacity)).2.sink.bytes =
        (evaluation.run context).2.sink.bytes.extract 0 capacity

theorem extract_append_of_le {front : ByteArray} {count : Nat} (back : ByteArray)
    (within : count ≤ front.size) : (front ++ back).extract 0 count = front.extract 0 count := by
  have nothing : back.extract (0 - front.size) (count - front.size) = .empty :=
    ByteArray.extract_eq_empty_iff.mpr (by omega)
  rw [ByteArray.extract_append, nothing, ByteArray.append_empty]

theorem extract_of_size_le {bytes : ByteArray} {count : Nat} (beyond : bytes.size ≤ count) :
    bytes.extract 0 count = bytes := by
  rw [ByteArray.extract_eq_extract_append_extract bytes.size (Nat.zero_le _) beyond,
    ByteArray.extract_zero_size, ByteArray.extract_eq_empty_iff.mpr (Nat.min_le_right _ _),
    ByteArray.append_empty]

namespace Sink

variable {sink : Sink} {data : ByteArray} {capacity : Nat}

theorem write_limit_of_le (fits : (sink.bytes ++ data).size ≤ capacity) :
    (sink.limit capacity).write data =
      (true, { sink with bytes := sink.bytes ++ data }.limit capacity) := by
  rw [ByteArray.size_append] at fits
  have accepted : min (capacity - sink.bytes.size) data.size = data.size := by omega
  simp only [write, limit, Sink.accepted, accepted, ByteArray.extract_zero_size,
    ByteArray.size_append, Option.map_some, Nat.sub_sub, beq_self_eq_true]

theorem write_limit_of_lt (held : sink.bytes.size ≤ capacity)
    (overflow : capacity < (sink.bytes ++ data).size) :
    ((sink.limit capacity).write data).1 = false ∧
      ((sink.limit capacity).write data).2.bytes = (sink.bytes ++ data).extract 0 capacity := by
  rw [ByteArray.size_append] at overflow
  have accepted : min (capacity - sink.bytes.size) data.size = capacity - sink.bytes.size := by
    omega
  simp only [write, limit, Sink.accepted, accepted]
  constructor
  · rw [beq_eq_false_iff_ne]
    omega
  · rw [ByteArray.extract_append, Nat.zero_sub, extract_of_size_le held]

end Sink

theorem Builtin.ignores_sink (builtin : Builtin) (sink : Sink) :
    builtin.Ignores fun context => { context with sink := sink } := by
  cases builtin with
  | setMimeType =>
      intro context mimeType
      simp only [Context.setMimeType, Context.changeHead]
      split <;> rfl
  | get scope => cases scope <;> exact fun _ _ => rfl
  | set scope => cases scope <;> exact fun _ _ _ => rfl
  | delete scope => cases scope <;> exact fun _ _ => rfl
  | _ => trivial

namespace Evaluation

variable {α β : Type} {context : Context}

theorem run_bind_of_ok {first : Evaluation α} {value : α} (next : α → Evaluation β)
    (succeeds : (first.run context).1 = .ok value) :
    (first >>= next).run context = (next value).run (first.run context).2 := by
  rw [run_bind]
  rcases ran : first.run context with ⟨result, after⟩
  rw [ran] at succeeds
  cases succeeds
  rfl

theorem run_bind_of_error {first : Evaluation α} {halt : Halt} (next : α → Evaluation β)
    (fails : (first.run context).1 = .error halt) :
    (first >>= next).run context = (.error halt, (first.run context).2) := by
  rw [run_bind]
  rcases ran : first.run context with ⟨result, after⟩
  rw [ran] at fails
  cases fails
  rfl

def put (data : ByteArray) : Evaluation Unit := fun context =>
  let (complete, sink) := context.sink.write data
  (if complete then .ok () else .error (.failed (.context .sinkFull)),
    { context with sink := sink })

def markHeadSent : Evaluation Unit :=
  modify fun context => { context with headSent := true }

theorem run_put_of_complete {data : ByteArray} {sink : Sink}
    (written : context.sink.write data = (true, sink)) :
    (put data).run context = (.ok (), { context with sink := sink }) := by
  change (match context.sink.write data with
    | (complete, sink) => (if complete then Except.ok () else _, { context with sink := sink })) = _
  rw [written]
  rfl

theorem run_write_of_settled (context : Context)
    (settled : ¬(context.emitsHead && !context.headSent)) (text : String) :
    (write text).run context = (put text.toUTF8).run context := by
  change ((context.writeBytes text.toUTF8).1.mapError _, (context.writeBytes text.toUTF8).2) = _
  rw [Context.writeBytes, if_neg settled]
  simp only [Context.writeBody, put, ExceptT.run]
  cases (context.sink.write text.toUTF8).1 <;> rfl

theorem run_write_of_due (context : Context) (due : context.emitsHead && !context.headSent)
    (text : String) :
    (write text).run context =
      (put context.head.text.toUTF8 >>= fun _ => markHeadSent >>= fun _ =>
        put text.toUTF8).run context := by
  change ((context.writeBytes text.toUTF8).1.mapError _, (context.writeBytes text.toUTF8).2) = _
  rw [Context.writeBytes, if_pos due]
  rcases written : context.sink.write context.head.text.toUTF8 with ⟨complete, sink⟩
  cases complete with
  | false =>
      have stopped : (put context.head.text.toUTF8).run context =
          (.error (.failed (.context .sinkFull)), { context with sink := sink }) := by
        simp only [put, ExceptT.run, written]
        rfl
      rw [run_bind, stopped]
      rfl
  | true =>
      have marked : markHeadSent.run { context with sink := sink } =
          (.ok (), { context with sink := sink, headSent := true }) := rfl
      rw [run_bind, run_put_of_complete written]
      simp only [run_bind, marked]
      simp only [Context.writeBody, put, ExceptT.run]
      cases (sink.write text.toUTF8).1 <;> rfl

namespace Truncates

theorem of_idle {evaluation : Evaluation α} (unlimited : context.sink.room = none)
    (idle : ∀ sink, evaluation.run { context with sink := sink } =
      ((evaluation.run context).1, { (evaluation.run context).2 with sink := sink })) :
    Truncates evaluation context := by
  have still : (evaluation.run context).2.sink = context.sink :=
    congrArg (fun ran => ran.2.sink) (idle context.sink)
  constructor
  case unlimited => rw [still, unlimited]
  case grows => exact ⟨.empty, by rw [still, ByteArray.append_empty]⟩
  case fits =>
    intro capacity _
    rw [Context.limit, Context.limit, still]
    exact idle (context.sink.limit capacity)
  case overflows =>
    intro capacity held overflow
    rw [still] at overflow
    exact absurd held (Nat.not_le_of_lt overflow)

theorem bind {first : Evaluation α} {next : α → Evaluation β} (one : Truncates first context)
    (two : ∀ value, Truncates (next value) (first.run context).2) :
    Truncates (first >>= next) context := by
  cases result : (first.run context).1 with
  | error halt =>
      have whole := run_bind_of_error next result
      constructor
      case unlimited => rw [whole]; exact one.unlimited
      case grows => rw [whole]; exact one.grows
      case fits =>
        intro capacity fits
        rw [whole] at fits ⊢
        have same := one.fits capacity fits
        rw [run_bind_of_error next (by rw [same, result]), same]
      case overflows =>
        intro capacity held overflow
        rw [whole] at overflow ⊢
        have full := one.overflows capacity held overflow
        rw [run_bind_of_error next full.1]
        exact ⟨rfl, full.2⟩
  | ok value =>
      have whole := run_bind_of_ok next result
      have second := two value
      obtain ⟨later, grown⟩ := second.grows
      constructor
      case unlimited => rw [whole]; exact second.unlimited
      case grows =>
        obtain ⟨earlier, begun⟩ := one.grows
        exact ⟨earlier ++ later, by rw [whole, grown, begun, ByteArray.append_assoc]⟩
      case fits =>
        intro capacity fits
        rw [whole] at fits ⊢
        have before := fits
        rw [grown, ByteArray.size_append] at before
        have same := one.fits capacity (by omega)
        rw [run_bind_of_ok next (by rw [same, result]), same]
        exact second.fits capacity fits
      case overflows =>
        intro capacity held overflow
        rw [whole] at overflow ⊢
        by_cases begun : (first.run context).2.sink.bytes.size ≤ capacity
        · have same := one.fits capacity begun
          rw [run_bind_of_ok next (by rw [same, result]), same]
          exact second.overflows capacity begun overflow
        -- The sink is full before the second step, which is then not made.
        · have full := one.overflows capacity held (Nat.lt_of_not_le begun)
          rw [run_bind_of_error next full.1]
          refine ⟨rfl, ?_⟩
          rw [full.2, grown, extract_append_of_le later (by omega)]

theorem put (data : ByteArray) (unlimited : context.sink.room = none) :
    Truncates (Evaluation.put data) context := by
  have whole := run_put_of_complete (Sink.write_of_no_room unlimited data)
  constructor
  case unlimited => rw [whole]; exact unlimited
  case grows => exact ⟨data, by rw [whole]⟩
  case fits =>
    intro capacity fits
    rw [whole] at fits ⊢
    exact run_put_of_complete (Sink.write_limit_of_le fits)
  case overflows =>
    intro capacity held overflow
    rw [whole] at overflow ⊢
    obtain ⟨incomplete, taken⟩ := Sink.write_limit_of_lt held overflow
    refine ⟨?_, taken⟩
    change (if ((context.sink.limit capacity).write data).1 then Except.ok () else _) = _
    rw [incomplete]
    rfl

theorem of_run_eq {evaluation other : Evaluation α} (truncates : Truncates other context)
    (whole : evaluation.run context = other.run context)
    (limited : ∀ capacity,
      evaluation.run (context.limit capacity) = other.run (context.limit capacity)) :
    Truncates evaluation context where
  unlimited := by rw [whole]; exact truncates.unlimited
  grows := by rw [whole]; exact truncates.grows
  fits := by simpa only [whole, limited] using truncates.fits
  overflows := by simpa only [whole, limited] using truncates.overflows

theorem markHeadSent (unlimited : context.sink.room = none) :
    Truncates Evaluation.markHeadSent context :=
  of_idle unlimited fun _ => rfl

theorem write (text : String) (unlimited : context.sink.room = none) :
    Truncates (Evaluation.write text) context := by
  by_cases due : context.emitsHead && !context.headSent
  · have head := put context.head.text.toUTF8 unlimited
    have truncates := head.bind fun _ =>
      (markHeadSent head.unlimited).bind fun _ =>
        put text.toUTF8 (markHeadSent head.unlimited).unlimited
    exact truncates.of_run_eq (run_write_of_due context due text)
      fun capacity => run_write_of_due (context.limit capacity) due text
  · exact (put text.toUTF8 unlimited).of_run_eq (run_write_of_settled context due text)
      fun capacity => run_write_of_settled (context.limit capacity) due text

theorem results (environment : Environment) (elements : List Element)
    (unlimited : context.sink.room = none) :
    Truncates (Evaluation.results environment elements) context := by
  refine of_idle unlimited fun sink => ?_
  refine run_results_of_commutes (fun context => { context with sink := sink }) ?_ context
  intro element _
  exact Echo.Commutes.evaluate environment fun _ builtin _ _ => builtin.ignores_sink sink

end Truncates

theorem compositional_truncates :
    Compositional fun evaluation => ∀ context, context.sink.room = none →
      Truncates evaluation context where
  pure := fun _ _ unlimited => .of_idle unlimited fun _ => rfl
  throw := fun _ _ unlimited => .of_idle unlimited fun _ => rfl
  bind := fun first later context unlimited =>
    (first context unlimited).bind fun value => later value _ (first context unlimited).unlimited
  write := fun text _ unlimited => .write text unlimited

end Evaluation

/-- Whatever the capacity of a sink, it takes the beginning of what an unlimited one takes. If this
is all of it, the two executions end alike, and otherwise the one on the limited sink fails. -/
theorem Document.execute_truncates (passes : Nat) (document : Document) (context : Context)
    (capacity : Nat) :
    let whole := document.execute passes (context.onEmptySink none)
    let limited := document.execute passes (context.onEmptySink (some capacity))
    limited.2.sink.bytes = whole.2.sink.bytes.extract 0 capacity ∧
      if whole.2.sink.bytes.size ≤ capacity then
        limited = (whole.1, whole.2.limit capacity)
      else limited.1 = .error (.failed (.context .sinkFull)) := by
  intro whole limited
  have truncates := Evaluation.compositional_truncates.evaluateAll passes document.children
    (fun elements _ environment _ => .results environment elements) .empty
    (context.onEmptySink none) rfl
  have wholeRun : whole = (Node.evaluateAll passes .empty document.children).run
      (context.onEmptySink none) := document.execute_eq_run passes _
  have limitedRun : limited = (Node.evaluateAll passes .empty document.children).run
      ((context.onEmptySink none).limit capacity) := document.execute_eq_run passes _
  rw [wholeRun, limitedRun]
  split
  · rename_i fits
    rw [truncates.fits capacity fits]
    exact ⟨(extract_of_size_le fits).symm, rfl⟩
  · rename_i overflow
    obtain ⟨failed, bytes⟩ := truncates.overflows capacity (Nat.zero_le _) (Nat.lt_of_not_le overflow)
    exact ⟨bytes, failed⟩

end TagTemplate
