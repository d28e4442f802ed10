import TagTemplate.Proofs.Calls
import TagTemplate.Proofs.EchoSteps

/-!
The response protocol. The head of a response is fixed by the first write and goes out in front of
what is written, with the properties that were set before; from then on all attempts to change it
are refused. Without a head there is only what is written. This holds at every call of a run, inside
of an execution as well as between the operations of the run.
-/

namespace TagTemplate

namespace Call

def data? : Call → Option ByteArray
  | .write text => some text.toUTF8
  | .writeBytes data => some data
  | _ => none

def property? : Call → Option ResponseProperty
  | .setMimeType _ => some .mimeType
  | .setEncoding _ => some .encoding
  | .setStatusCode _ => some .statusCode
  | .setStatusText _ => some .statusText
  | .addCookie _ => some .cookies
  | _ => none

/-- A call that writes nothing at all is a write as well. -/
def isWrite (call : Call) : Bool :=
  call.data?.isSome

def written (calls : List Call) : ByteArray :=
  (calls.filterMap data?).foldr (· ++ ·) .empty

def mimeType? : Call → Option String
  | .setMimeType mimeType => some mimeType
  | _ => none

def encoding? : Call → Option String
  | .setEncoding label => if label.toLower ∈ ["utf-8", "utf8"] then some label else none
  | _ => none

def statusCode? : Call → Option UInt16
  | .setStatusCode code => some code
  | _ => none

def statusText? : Call → Option String
  | .setStatusText text => some text
  | _ => none

def cookie? : Call → Option Cookie
  | .addCookie cookie => some cookie
  | _ => none

def latest {α : Type} (value? : Call → Option α) (initially : α) (calls : List Call) : α :=
  (calls.filterMap value?).getLast?.getD initially

/-- The properties of a response after calls that write nothing: the values set last, and all of the
cookies. -/
def headAfter (calls : List Call) : ResponseHead where
  mimeType := latest mimeType? "text/html" calls
  encoding := latest encoding? "UTF-8" calls
  statusCode := latest statusCode? 200 calls
  statusText := latest statusText? "OK" calls
  cookies := calls.filterMap cookie?

theorem written_cons (call : Call) (others : List Call) :
    written (call :: others) = call.data?.getD .empty ++ written others := by
  cases data : call.data? <;> simp [written, data]

theorem exists_first_write {calls : List Call} (writes : ∃ call ∈ calls, call.isWrite) :
    ∃ before first after, calls = before ++ first :: after ∧
      (∀ call ∈ before, ¬call.isWrite) ∧ first.isWrite := by
  obtain ⟨first, found⟩ := Option.isSome_iff_exists.mp (List.find?_isSome.mpr writes)
  obtain ⟨isWrite, before, after, split, silent⟩ := List.find?_eq_some_iff_append.mp found
  exact ⟨before, first, after, split, fun call member => by simpa using silent call member, isWrite⟩

end Call

def Cookie.field (cookie : Cookie) : String :=
  "Set-Cookie: " ++ cookie.name ++ "=\"" ++ cookie.value ++ "\"" ++ String.join
    [(cookie.domain.map ("; Domain=" ++ ·)).getD "", (cookie.path.map ("; Path=" ++ ·)).getD "",
      (cookie.maxAge.map fun seconds => "; Max-Age=" ++ toString seconds.toNat).getD ""]

namespace ResponseHead

def fields (head : ResponseHead) : List String :=
  ["HTTP/1.1 " ++ toString head.statusCode.toNat ++ " " ++ head.statusText,
    if head.mimeType.startsWith "text/" then
      "Content-Type: " ++ head.mimeType ++ "; charset=" ++ head.encoding
    else "Content-Type: " ++ head.mimeType] ++ head.cookies.map Cookie.field

def spelled (head : ResponseHead) : String :=
  String.join ((head.fields ++ [""]).map (· ++ "\r\n"))

end ResponseHead

inductive Operation where
  | perform (call : Call)
  | execute (passes : Nat) (document : Document)

def Operation.run (context : Context) : Operation → Context
  | .perform call => (context.perform call).2
  | .execute passes document => (document.execute passes context).2

def Operation.calls (context : Context) : Operation → List Call
  | .perform call => [call]
  | .execute passes document => document.calls passes context

namespace Context

def runAll (context : Context) (operations : List Operation) : Context :=
  operations.foldl Operation.run context

def calls (context : Context) : List Operation → List Call
  | [] => []
  | operation :: others => operation.calls context ++ (operation.run context).calls others

/-- What holds, after some calls, of a context that is to send a head. -/
structure SendsHead (initial : Context) (calls : List Call) : Prop where
  silent : (∀ call ∈ calls, ¬call.isWrite) →
    (initial.performAll calls).sink.bytes = .empty ∧
      (initial.performAll calls).head = Call.headAfter calls ∧
      ∀ call property,
        ((initial.performAll calls).perform call).1 ≠ .error (.headSent property)
  output : ∀ before first after, calls = before ++ first :: after →
    (∀ call ∈ before, ¬call.isWrite) → first.isWrite →
    (initial.performAll calls).sink.bytes =
        (Call.headAfter before).spelled.toUTF8 ++ Call.written (first :: after) ∧
      (initial.performAll calls).head = Call.headAfter before
  sent : (initial.performAll calls).headSent ↔ ∃ call ∈ calls, call.isWrite
  frozen : (∃ call ∈ calls, call.isWrite) → ∀ call property, call.property? = some property →
    (initial.performAll calls).perform call =
      (.error (.headSent property), initial.performAll calls)

structure SendsNoHead (initial : Context) (calls : List Call) : Prop where
  output : (initial.performAll calls).sink.bytes = Call.written calls
  unsent : ¬(initial.performAll calls).headSent
  unfrozen : ∀ call property,
    ((initial.performAll calls).perform call).1 ≠ .error (.headSent property)

/-- Some operations come down to calls and follow a protocol at every moment, from before the first
call to behind the last one. -/
structure Follows (initial : Context) (protocol : Context → List Call → Prop)
    (operations : List Operation) : Prop where
  replayed : initial.runAll operations = initial.performAll (initial.calls operations)
  always : ∀ calls, calls <+: initial.calls operations → protocol initial calls

theorem runAll_replays (context : Context) (operations : List Operation) :
    context.runAll operations = context.performAll (context.calls operations) := by
  induction operations generalizing context with
  | nil => rfl
  | cons operation others ih =>
      have replayed : operation.run context = context.performAll (operation.calls context) := by
        cases operation with
        | perform call => rfl
        | execute passes document => exact document.execute_replays passes context
      rw [calls, performAll_append, ← replayed, ← ih]
      rfl

end Context

theorem Call.latest_concat {α : Type} (value? : Call → Option α) (initially : α) (before : List Call)
    (call : Call) :
    latest value? initially (before ++ [call]) =
      (value? call).getD (latest value? initially before) := by
  unfold latest
  rw [List.filterMap_append]
  cases found : value? call <;> simp [found]

def ResponseHead.after (head : ResponseHead) (call : Call) : ResponseHead where
  mimeType := call.mimeType?.getD head.mimeType
  encoding := call.encoding?.getD head.encoding
  statusCode := call.statusCode?.getD head.statusCode
  statusText := call.statusText?.getD head.statusText
  cookies := call.cookie?.elim head.cookies fun cookie => head.cookies ++ [cookie]

theorem ResponseHead.after_setEncoding (head : ResponseHead) (label : String) :
    head.after (.setEncoding label) =
      if label.toLower ∈ ["utf-8", "utf8"] then { head with encoding := label } else head := by
  rw [after, Call.encoding?]
  split <;> rfl

theorem Call.headAfter_concat (before : List Call) (call : Call) :
    headAfter (before ++ [call]) = (headAfter before).after call := by
  have cookies : (before ++ [call]).filterMap cookie? =
      call.cookie?.elim (before.filterMap cookie?) fun cookie =>
        before.filterMap cookie? ++ [cookie] := by
    rw [List.filterMap_append]
    cases found : call.cookie? <;> simp [found]
  simp only [headAfter, ResponseHead.after, latest_concat, cookies]

theorem Cookie.attribute_eq (label : String) (value : Option String) :
    Cookie.attribute label value = (value.map ("; " ++ label ++ "=" ++ ·)).getD "" := by
  cases value with
  | none => rfl
  | some text => simp only [Cookie.attribute, Option.map_some, Option.getD_some]

theorem Cookie.line_eq_field (cookie : Cookie) : cookie.line = cookie.field ++ "\r\n" := by
  unfold line field
  simp only [attribute_eq, String.reduceAppend, Option.map_map, Function.comp_def,
    String.join_cons, String.join_nil, String.append_assoc, String.append_empty]

theorem ResponseHead.text_eq_spelled (head : ResponseHead) : head.text = head.spelled := by
  have cookies : head.cookies.map Cookie.line =
      (head.cookies.map Cookie.field).map (· ++ "\r\n") := by
    rw [List.map_map]
    exact List.map_congr_left fun cookie _ => cookie.line_eq_field
  rw [text, cookies]
  unfold spelled fields statusLine contentTypeLine
  split <;> simp [String.append_assoc]

namespace Context

variable {context : Context} {call : Call} {data : ByteArray}

theorem settle_changeHead (context : Context) (property : ResponseProperty)
    (change : ResponseHead → ResponseHead) :
    context.settle (context.changeHead property change) =
      if context.headSent then (.error (.headSent property), context)
      else (.ok (), { context with head := change context.head }) := by
  unfold changeHead
  split <;> rfl

theorem perform_of_not_isWrite (context : Context) (quiet : ¬call.isWrite) :
    ∃ head persistent temporary,
      (context.perform call).2 =
        { context with head := head, persistent := persistent, temporary := temporary } ∧
      (context.headSent → head = context.head) := by
  have refusable (property : ResponseProperty) (change : ResponseHead → ResponseHead) :
      ∃ head persistent temporary, (context.settle (context.changeHead property change)).2 =
          { context with head := head, persistent := persistent, temporary := temporary } ∧
        (context.headSent → head = context.head) := by
    rw [settle_changeHead]
    by_cases sent : context.headSent
    · exact ⟨context.head, _, _, by rw [if_pos sent], fun _ => rfl⟩
    · exact ⟨change context.head, _, _, by rw [if_neg sent], fun fixed => absurd fixed sent⟩
  cases call with
  | write text => simp [Call.isWrite, Call.data?] at quiet
  | writeBytes data => simp [Call.isWrite, Call.data?] at quiet
  | setMimeType mimeType => exact refusable _ _
  | setEncoding label =>
      rw [perform, setEncoding]
      split
      · exact refusable _ _
      · exact ⟨_, _, _, rfl, fun _ => rfl⟩
  | setStatusCode code => exact refusable _ _
  | setStatusText text => exact refusable _ _
  | addCookie cookie => exact refusable _ _
  | lookUp scope name => exact ⟨_, _, _, rfl, fun _ => rfl⟩
  | setParameter scope name value => cases scope <;> exact ⟨_, _, _, rfl, fun _ => rfl⟩
  | deleteParameter scope name => cases scope <;> exact ⟨_, _, _, rfl, fun _ => rfl⟩

theorem perform_of_data (unlimited : context.sink.room = none)
    (settled : ¬(context.emitsHead && !context.headSent)) (writes : call.data? = some data) :
    context.perform call =
      (.ok (), { context with sink.bytes := context.sink.bytes ++ data }) := by
  have body := (Forwards.mk unlimited settled).writeBytes_eq data
  cases call <;> cases writes <;> exact body

def sendHead (context : Context) : Context :=
  { context with
    sink.bytes := context.sink.bytes ++ context.head.text.toUTF8
    headSent := true }

theorem perform_of_isWrite_of_due (unlimited : context.sink.room = none)
    (due : context.emitsHead && !context.headSent) (writes : call.isWrite) :
    context.perform call = context.sendHead.perform call := by
  have headed (data : ByteArray) : context.writeBytes data = context.sendHead.writeBytes data := by
    simp [writeBytes, due, sendHead, Sink.write_of_no_room unlimited]
  obtain ⟨data, found⟩ := Option.isSome_iff_exists.mp writes
  cases call <;> cases found <;> exact headed _

theorem perform_of_property {property : ResponseProperty} (sent : context.headSent)
    (changes : call.property? = some property) :
    context.perform call = (.error (.headSent property), context) := by
  cases call <;> cases changes <;>
    simp [perform, setMimeType, setEncoding, setStatusCode, setStatusText, addCookie,
      settle_changeHead, sent]

theorem writeBytes_ne_headSent (context : Context) (data : ByteArray)
    (property : ResponseProperty) :
    (context.writeBytes data).1 ≠ .error (.headSent property) := by
  have body (context : Context) : (context.writeBody data).1 ≠ .error (.headSent property) := by
    simp only [writeBody]
    split <;> simp
  fun_cases writeBytes context data with
  | case1 => exact body _
  | case2 => simp
  | case3 => exact body context

theorem perform_ne_headSent (unsent : ¬context.headSent) (call : Call)
    (property : ResponseProperty) :
    (context.perform call).1 ≠ .error (.headSent property) := by
  have accepted (property : ResponseProperty) (change : ResponseHead → ResponseHead) :
      (context.settle (context.changeHead property change)).1 = .ok () := by
    rw [settle_changeHead, if_neg unsent]
  cases call with
  | write text => exact writeBytes_ne_headSent context _ property
  | writeBytes data => exact writeBytes_ne_headSent context data property
  | setEncoding label =>
      rw [perform, setEncoding]
      split
      · simp [accepted]
      · simp [settle]
  | lookUp | setParameter | deleteParameter => simp [perform]
  | setMimeType | setStatusCode | setStatusText | addCookie =>
      exact (accepted _ _).trans_ne (by simp)

/-- Between two contexts this data, and no head, has gone out. -/
structure Continues (before : Context) (data : ByteArray) (after : Context) : Prop where
  bytes : after.sink.bytes = before.sink.bytes ++ data
  room : after.sink.room = before.sink.room
  emitsHead : after.emitsHead = before.emitsHead
  headSent : after.headSent = before.headSent
  head : before.headSent → after.head = before.head

theorem Continues.refl (context : Context) : context.Continues .empty context :=
  ⟨ByteArray.append_empty.symm, rfl, rfl, rfl, fun _ => rfl⟩

theorem Continues.trans {first second third : Context} {earlier later : ByteArray}
    (one : first.Continues earlier second) (two : second.Continues later third) :
    first.Continues (earlier ++ later) third where
  bytes := by rw [two.bytes, one.bytes, ByteArray.append_assoc]
  room := two.room.trans one.room
  emitsHead := two.emitsHead.trans one.emitsHead
  headSent := two.headSent.trans one.headSent
  head := fun sent => (two.head (one.headSent.symm ▸ sent)).trans (one.head sent)

theorem continues_of_not_isWrite (context : Context) (quiet : ¬call.isWrite) :
    context.Continues .empty (context.perform call).2 := by
  obtain ⟨head, persistent, temporary, performed, fixed⟩ := context.perform_of_not_isWrite quiet
  rw [performed]
  exact ⟨ByteArray.append_empty.symm, rfl, rfl, rfl, fixed⟩

theorem continues_performAll_of_silent {calls : List Call} (context : Context)
    (silent : ∀ call ∈ calls, ¬call.isWrite) :
    context.Continues .empty (context.performAll calls) := by
  induction calls generalizing context with
  | nil => exact .refl context
  | cons call others ih =>
      have first := context.continues_of_not_isWrite (silent call List.mem_cons_self)
      have rest := ih (context.perform call).2 fun other member =>
        silent other (List.mem_cons_of_mem call member)
      have both := first.trans rest
      rw [ByteArray.append_empty] at both
      exact both

theorem continues_performAll_of_settled (context : Context) (calls : List Call)
    (unlimited : context.sink.room = none) (settled : ¬(context.emitsHead && !context.headSent)) :
    context.Continues (Call.written calls) (context.performAll calls) := by
  induction calls generalizing context with
  | nil => exact .refl context
  | cons call others ih =>
      have first : context.Continues (call.data?.getD .empty) (context.perform call).2 := by
        cases data : call.data? with
        | none => exact context.continues_of_not_isWrite (by simp [Call.isWrite, data])
        | some written =>
            rw [perform_of_data unlimited settled data]
            exact ⟨rfl, rfl, rfl, rfl, fun _ => rfl⟩
      have rest := ih (context.perform call).2 (first.room.trans unlimited)
        (by rwa [first.emitsHead, first.headSent])
      rw [Call.written_cons]
      exact first.trans rest

theorem continues_sendHead {before : List Call} {first : Call} (initial : Context)
    (after : List Call) (unlimited : initial.sink.room = none)
    (due : initial.emitsHead && !initial.headSent)
    (silent : ∀ call ∈ before, ¬call.isWrite) (writes : first.isWrite) :
    (initial.performAll before).sendHead.Continues (Call.written (first :: after))
      (initial.performAll (before ++ first :: after)) := by
  -- Whatever the calls in front have changed, the head is still due.
  have quiet := initial.continues_performAll_of_silent silent
  have stillDue : (initial.performAll before).emitsHead && !(initial.performAll before).headSent := by
    rwa [quiet.emitsHead, quiet.headSent]
  have performed : initial.performAll (before ++ first :: after) =
      (initial.performAll before).sendHead.performAll (first :: after) := by
    rw [performAll_append]
    exact congrArg (fun step => step.2.performAll after)
      (perform_of_isWrite_of_due (quiet.room.trans unlimited) stillDue writes)
  rw [performed]
  exact continues_performAll_of_settled _ _ (quiet.room.trans unlimited) (by simp [sendHead])

theorem isSupportedEncoding_iff {label : String} :
    isSupportedEncoding label = true ↔ label.toLower ∈ ["utf-8", "utf8"] := by
  simp [isSupportedEncoding, String.toLower, ← String.toList_inj, String.toList_map]

theorem head_perform_of_silent (unsent : ¬context.headSent) (quiet : ¬call.isWrite) :
    (context.perform call).2.head = context.head.after call := by
  have changed (property : ResponseProperty) (change : ResponseHead → ResponseHead) :
      (context.settle (context.changeHead property change)).2.head = change context.head := by
    rw [settle_changeHead, if_neg unsent]
  cases call with
  | write text => simp [Call.isWrite, Call.data?] at quiet
  | writeBytes data => simp [Call.isWrite, Call.data?] at quiet
  | setMimeType mimeType => exact (changed _ _).trans rfl
  | setEncoding label =>
      rw [perform, setEncoding, ResponseHead.after_setEncoding]
      by_cases supported : isSupportedEncoding label
      · rw [if_pos (by simp [supported]), changed, if_pos (isSupportedEncoding_iff.mp supported)]
      · rw [if_neg (by simp [supported, unsent]), if_neg (mt isSupportedEncoding_iff.mpr supported)]
        rfl
  | setStatusCode code => exact (changed _ _).trans rfl
  | setStatusText text => exact (changed _ _).trans rfl
  | addCookie cookie => exact (changed _ _).trans rfl
  | lookUp scope name => rfl
  | setParameter scope name value => cases scope <;> rfl
  | deleteParameter scope name => cases scope <;> rfl

theorem head_performAll_of_silent {initial : Context} {calls : List Call}
    (fresh : initial.head = ⟨"text/html", "UTF-8", 200, "OK", []⟩)
    (unsent : ¬initial.headSent) (silent : ∀ call ∈ calls, ¬call.isWrite) :
    (initial.performAll calls).head = Call.headAfter calls := by
  induction calls using List.reverseRecOn with
  | nil => exact fresh
  | append_singleton before call ih =>
      obtain ⟨quietBefore, quiet⟩ := List.forall_mem_append.mp silent
      have still : ¬(initial.performAll before).headSent := by
        rwa [(initial.continues_performAll_of_silent quietBefore).headSent]
      rw [performAll_append, Call.headAfter_concat, ← ih quietBefore]
      exact head_perform_of_silent still (quiet call List.mem_cons_self)

theorem output_of_first_write {before : List Call} {first : Call} (initial : Context)
    (after : List Call) (unlimited : initial.sink.room = none)
    (nothing : initial.sink.bytes = .empty) (due : initial.emitsHead && !initial.headSent)
    (silent : ∀ call ∈ before, ¬call.isWrite) (writes : first.isWrite) :
    (initial.performAll (before ++ first :: after)).sink.bytes =
        (initial.performAll before).head.text.toUTF8 ++ Call.written (first :: after) ∧
      (initial.performAll (before ++ first :: after)).head = (initial.performAll before).head := by
  have sent := initial.continues_sendHead after unlimited due silent writes
  refine ⟨?_, sent.head rfl⟩
  rw [sent.bytes, sendHead, (initial.continues_performAll_of_silent silent).bytes, nothing,
    ByteArray.append_empty, ByteArray.empty_append]

theorem sendsHead (initial : Context) (unlimited : initial.sink.room = none)
    (nothing : initial.sink.bytes = .empty) (due : initial.emitsHead && !initial.headSent)
    (fresh : initial.head = ⟨"text/html", "UTF-8", 200, "OK", []⟩) (calls : List Call) :
    initial.SendsHead calls := by
  have sentBy (writes : ∃ call ∈ calls, call.isWrite) : (initial.performAll calls).headSent := by
    obtain ⟨before, first, after, rfl, silent, isWrite⟩ := Call.exists_first_write writes
    exact (initial.continues_sendHead after unlimited due silent isWrite).headSent
  have notYet : ¬initial.headSent := by
    intro sent
    simp [sent] at due
  constructor
  case silent =>
    intro silent
    have quiet := initial.continues_performAll_of_silent silent
    have unsent : ¬(initial.performAll calls).headSent := by rwa [quiet.headSent]
    refine ⟨?_, head_performAll_of_silent fresh notYet silent, perform_ne_headSent unsent⟩
    rw [quiet.bytes, nothing, ByteArray.append_empty]
  case output =>
    rintro before first after rfl silent isWrite
    obtain ⟨bytes, head⟩ := initial.output_of_first_write after unlimited nothing due silent isWrite
    rw [head_performAll_of_silent fresh notYet silent] at bytes head
    exact ⟨ResponseHead.text_eq_spelled _ ▸ bytes, head⟩
  case sent =>
    refine ⟨fun sent => ?_, sentBy⟩
    by_contra silent
    have quiet : initial.Continues .empty (initial.performAll calls) :=
      initial.continues_performAll_of_silent fun call member writes =>
        silent ⟨call, member, writes⟩
    exact notYet (quiet.headSent ▸ sent)
  case frozen =>
    intro writes call property changes
    exact perform_of_property (sentBy writes) changes

theorem sendsNoHead (initial : Context) (unlimited : initial.sink.room = none)
    (nothing : initial.sink.bytes = .empty) (headless : ¬initial.emitsHead)
    (unsent : ¬initial.headSent) (calls : List Call) : initial.SendsNoHead calls := by
  have written := initial.continues_performAll_of_settled calls unlimited (by simp [headless])
  have still : ¬(initial.performAll calls).headSent := by rwa [written.headSent]
  constructor
  case output => rw [written.bytes, nothing, ByteArray.empty_append]
  case unsent => exact still
  case unfrozen => exact perform_ne_headSent still

/-- All runs on a new context without a limit follow the protocol. -/
theorem new_follows_protocol (flushFailure : Option String)
    (request persistent temporary : Parameters) (operations : List Operation) :
    (new ⟨.empty, none, flushFailure⟩ request persistent temporary true).Follows SendsHead
        operations ∧
      (new ⟨.empty, none, flushFailure⟩ request persistent temporary false).Follows SendsNoHead
        operations := by
  constructor
  · exact ⟨runAll_replays _ operations, fun calls _ => sendsHead _ rfl rfl rfl rfl calls⟩
  · exact ⟨runAll_replays _ operations,
      fun calls _ => sendsNoHead _ rfl rfl Bool.false_ne_true Bool.false_ne_true calls⟩

end Context

end TagTemplate
