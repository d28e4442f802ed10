/-!
Output sinks. A sink may have room for a limited number of bytes.
-/

namespace TagTemplate

/-- The bytes taken so far, the number of bytes that still fit if there is a limit, and why
flushing fails if it does. -/
structure Sink where
  bytes : ByteArray
  room : Option Nat
  flushFailure : Option String

namespace Sink

def empty (room : Option Nat) : Sink :=
  ⟨.empty, room, none⟩

def accepted (sink : Sink) (length : Nat) : Nat :=
  match sink.room with
  | some room => min room length
  | none => length

def write (sink : Sink) (data : ByteArray) : Bool × Sink :=
  let count := sink.accepted data.size
  (count == data.size,
    { sink with
      bytes := sink.bytes ++ data.extract 0 count
      room := sink.room.map (· - count) })

theorem write_of_no_room {sink : Sink} (unlimited : sink.room = none) (data : ByteArray) :
    sink.write data = (true, { sink with bytes := sink.bytes ++ data }) := by
  simp [write, accepted, unlimited]

/-- Forgets the bytes, but gives no room back. -/
def clear (sink : Sink) : Sink :=
  { sink with bytes := .empty }

end Sink

end TagTemplate
