import NetInterface.Text.Utf8

/-!
Where a report is written to: octets, which may run out of room.

A sink takes octets until its room is used up and breaks at the first octet that finds no room.
-/

namespace NetInterface

inductive SinkError where
  | broken
deriving DecidableEq, Repr

def SinkError.message : SinkError → String
  | .broken => "broken pipe"

structure Sink where
  written : List UInt8
  /-- How many more octets find room; without a number there is always room. -/
  room : Option Nat
deriving DecidableEq, Repr

namespace Sink

/-- A sink that takes everything. -/
def boundless : Sink :=
  ⟨[], none⟩

def withRoom (room : Option Nat) : Sink :=
  ⟨[], room⟩

def take (sink : Sink) (octets : List UInt8) : Except SinkError Unit × Sink :=
  match sink.room with
  | none => (.ok (), { sink with written := sink.written ++ octets })
  | some room =>
      let after : Sink := ⟨sink.written ++ octets.take room, some (room - octets.length)⟩
      (if octets.length ≤ room then .ok () else .error .broken, after)

theorem take_of_boundless {sink : Sink} (boundless : sink.room = none) (octets : List UInt8) :
    sink.take octets = (.ok (), { sink with written := sink.written ++ octets }) := by
  simp [take, boundless]

/-- A sink with room for `room` octets never takes more. -/
theorem length_written_take_le {sink : Sink} {room : Nat} (bounded : sink.room = some room)
    (octets : List UInt8) :
    (sink.take octets).2.written.length ≤ sink.written.length + room := by
  simp only [take, bounded, List.length_append, List.length_take]
  omega

def write (sink : Sink) (text : String) : Except SinkError Unit × Sink :=
  sink.take (Text.Utf8.octets text)

/-- What was written, with a mark for a character that was cut off. -/
def text (sink : Sink) : String :=
  Text.Utf8.lossyText sink.written

end Sink

end NetInterface
