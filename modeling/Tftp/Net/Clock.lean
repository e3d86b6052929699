import Tftp.Config.Settings

/-!
# Clock time

Spans of time and readings of the monotonic clock as the standard library keeps them, and the two
computations a session makes from its settings each time it waits for a packet: the receive
window of its socket, the timeout once for each attempt (at least one), and the deadline of the
wait, the clock's reading plus that window.

A span keeps its whole seconds in 64 bits and the nanoseconds past them; a clock reading keeps
its seconds as a signed 64-bit count, which the monotonic clock never makes negative.
Multiplying a span by a count panics where its seconds overflow, and adding a span to a reading
panics where the seconds pass the largest signed count. A panic is the message the program
stops with.
-/

namespace Tftp.Net

/-- Nanoseconds in a second. -/
def nanosPerSecond : Nat := 1000000000

/-- A span of time: whole seconds in 64 bits and the nanoseconds past them. -/
structure Duration where
  secs : UInt64
  nanos : Fin nanosPerSecond
  deriving DecidableEq, Repr

namespace Duration

/-- The span of `ms` milliseconds. -/
def ofMillis (ms : UInt64) : Duration :=
  ⟨ms / 1000, ⟨(ms % 1000).toNat * 1000000, by
    have h : (ms % 1000).toNat < 1000 := by
      rw [UInt64.toNat_mod]
      exact Nat.mod_lt _ (by decide)
    unfold nanosPerSecond
    omega⟩⟩

/-- The span in nanoseconds. -/
def toNanos (d : Duration) : Nat := d.secs.toNat * nanosPerSecond + d.nanos.val

/-- The span in whole milliseconds. -/
def toMillis (d : Duration) : Nat := d.secs.toNat * 1000 + d.nanos.val / 1000000

/-- What the program stops with when a span is multiplied past 64-bit seconds. -/
def mulOverflow : String := "overflow when multiplying duration by scalar"

/-- The span `r` times over: the nanoseconds carry into the seconds, and seconds that overflow
64 bits are a panic. -/
def mul (d : Duration) (r : UInt32) : Except String Duration :=
  let total := d.nanos.val * r.toNat
  let secs := d.secs.toNat * r.toNat + total / nanosPerSecond
  if secs < UInt64.size then
    .ok ⟨secs.toUInt64, ⟨total % nanosPerSecond, Nat.mod_lt _ (by decide)⟩⟩
  else .error mulOverflow

end Duration

/-- A reading of the monotonic clock: whole seconds since its origin, a signed 64-bit count that
is never negative, and the nanoseconds past them. -/
structure Instant where
  secs : Fin (Nat.pow 2 63)
  nanos : Fin nanosPerSecond
  deriving DecidableEq, Repr

namespace Instant

/-- The reading in nanoseconds since the clock's origin. -/
def toNanos (t : Instant) : Nat := t.secs.val * nanosPerSecond + t.nanos.val

/-- What the program stops with when a reading is moved past the largest signed 64-bit count of
seconds. -/
def addOverflow : String := "overflow when adding duration to instant"

/-- The reading `d` later: the nanoseconds carry into the seconds, and seconds past the largest
signed 64-bit count are a panic. -/
def add (t : Instant) (d : Duration) : Except String Instant :=
  let nanos := t.nanos.val + d.nanos.val
  let secs := t.secs.val + d.secs.toNat + nanos / nanosPerSecond
  if h : secs < Nat.pow 2 63 then
    .ok ⟨⟨secs, h⟩, ⟨nanos % nanosPerSecond, Nat.mod_lt _ (by decide)⟩⟩
  else .error addOverflow

end Instant

end Tftp.Net

namespace Tftp.Config

open Tftp.Net

/-- The longest one receive of a session's socket blocks: the timeout once for each attempt, the
attempts raised to at least one when the socket is bound. -/
def TransferSettings.receiveSpan (t : TransferSettings) : Except String Duration :=
  (Duration.ofMillis t.timeoutMs.toUInt64).mul (max t.recvTries 1).toUInt32

/-- When a wait for a packet that starts at `now` gives up: `now` plus the socket's receive
window. -/
def TransferSettings.receiveDeadline (t : TransferSettings) (now : Instant) :
    Except String Instant := do
  now.add (← t.receiveSpan)

end Tftp.Config
