import OrderCustody.Bytes.Basic

namespace OrderCustody.Audit

/-!
# Writing to a file

Lines go to a file through a buffer.  The device under the file may take a part of
what it is offered, or nothing, which is a failure.  Failures are passed over: what
was not taken stays in the buffer for the next time, and what finds no room there is
lost.
-/

/-- How a device answers: how many bytes it takes at most of those that it is
offered, call by call.  A call at which it takes none has failed. -/
abbrev Device := Nat → Nat

/-- The writer of a file. -/
structure Writer where
  /-- How often the device was called. -/
  calls : Nat
  /-- What the file has taken. -/
  taken : Bytes
  /-- What is in the buffer. -/
  pending : Bytes
  deriving DecidableEq

namespace Writer

/-- The writer of a file that has taken nothing yet. -/
def empty : Writer where
  calls := 0
  taken := []
  pending := []

/-- The most bytes that the buffer holds. -/
def capacity : Nat := 8192

/-- Offer bytes to the device until it has taken all of them or fails; gives those
that are left. -/
def offer (device : Device) (writer : Writer) (bytes : Bytes) : Writer × Bytes :=
  let called := { writer with calls := writer.calls + 1 }
  match bytes, device writer.calls with
  | [], _ => (writer, [])
  | byte :: rest, 0 => (called, byte :: rest)
  | byte :: rest, more + 1 =>
      offer device { called with taken := writer.taken ++ byte :: rest.take more }
        (rest.drop more)
termination_by bytes.length
decreasing_by
  rw [List.length_drop, List.length_cons]
  omega

/-- Empty the buffer, as far as the device takes it. -/
def flush (device : Device) (writer : Writer) : Writer :=
  let offered := writer.offer device writer.pending
  { offered.1 with pending := offered.2 }

/-- How many bytes the buffer can still hold. -/
def room (writer : Writer) : Nat :=
  capacity - writer.pending.length

/-- Empty the buffer if so many bytes more do not go into it. -/
def makeRoom (device : Device) (writer : Writer) (count : Nat) : Writer :=
  if writer.room < count then writer.flush device else writer

/-- Put bytes into the buffer, which is emptied before if there is no room for them, or
past it if they would fill it on their own; and whether they were put. -/
def put (device : Device) (writer : Writer) (bytes : Bytes) : Writer × Bool :=
  let ready := writer.makeRoom device bytes.length
  if writer.room < bytes.length ∧ ready.pending ≠ [] then (ready, false)
  else if bytes.length < capacity then
    ({ ready with pending := ready.pending ++ bytes }, true)
  else
    let offered := ready.offer device bytes
    (offered.1, offered.2.isEmpty)

/-- Write a line and, if it was put, its end; then empty the buffer.  No failure is
told. -/
def log (device : Device) (writer : Writer) (line : String) : Writer :=
  let begun := writer.put device (Bytes.ofText line)
  let ended := if begun.2 then (begun.1.put device (Bytes.ofText "\n")).1 else begun.1
  ended.flush device

end Writer

end OrderCustody.Audit
