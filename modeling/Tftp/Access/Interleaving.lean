import Tftp.Access.Arbiter
import Mathlib

/-!
# Interleaved calls

The arbiter's calls as they run concurrently. A call is a sequence of atomic steps: a file-system
call on the volume (with the name check before it, which touches nothing shared), or a critical
section on the record table; the table's lock is never held across a file-system call, so another
call may step in between any two of them. A call in flight is a `Call`, named for the step it
takes next, and `Call.step` takes that step and says how the call goes on.

A `World` holds the table, the volume, the calls in flight and the handles that callers hold. A
`Step` lets one call in flight take its next step, starts a new call, or changes the volume
behind the arbiter's back; runs interleave these in any order. A handle is given back by
starting a release with it (`closeRead`, `closeWrite` or `abandonWrite`), which takes it out of
the callers' hands, so a handle is passed at most once, and only to the arbiter that issued it.

A handle is *outstanding* from the step that returns it until the critical section of the call
it was passed to: a handle passed to `abandonWrite` still holds the writer slot while its file is
being removed. The counts `readersOf` and `holdersOf` are what the table's record of a name is
meant to account for.
-/

namespace Tftp

/-- A call of the arbiter in flight, named for its next atomic step. -/
inductive Call where
  /-- `openForRead`: check the name and open the file. -/
  | openRead (name : String)
  /-- `openForRead`: count the reader in, the file being open. -/
  | admitRead (name : String) (file : OpenFile)
  /-- `openForWrite`: check the name and that no file has it. -/
  | openWrite (name : String)
  /-- `openForWrite`: take the writer slot. -/
  | claimWrite (name : String)
  /-- `openForWrite`: create the file, holding the slot. -/
  | create (name : String)
  /-- `openForWrite`: give the slot back after the create failed. -/
  | dropCreate (name : String)
  /-- `closeRead`: release the reader. -/
  | closeRead (h : ReadHandle)
  /-- `closeWrite`: release the writer. -/
  | closeWrite (h : WriteHandle)
  /-- `abandonWrite`: remove the unfinished file. -/
  | abandon (h : WriteHandle)
  /-- `abandonWrite`: settle the record once the file was removed, or failed to be. -/
  | settleAbandon (h : WriteHandle) (removed : Except Errno Unit)
  /-- `tryDelete`: check the name and that a file has it. -/
  | delete (name : String)
  /-- `tryDelete`: take the writer slot. -/
  | claimDelete (name : String)
  /-- `tryDelete`: remove the file, holding the slot. -/
  | remove (name : String)
  /-- `tryDelete`: settle the record once the file was removed, or failed to be. -/
  | settleDelete (name : String) (removed : Except Errno Unit)

/-- How a call goes on after a step. -/
inductive Progress where
  /-- The call has another step to take. -/
  | next (c : Call)
  /-- The call returns a read handle. -/
  | reading (h : ReadHandle)
  /-- The call returns a write handle. -/
  | writing (h : WriteHandle)
  /-- The call returns without a handle: a release, a delete, or a failure. -/
  | done (r : Except AccessError Unit)

/-- The volume after a removal, and whether it succeeded. -/
def removal (v : Volume) (r : Except Errno Volume) : Volume × Except Errno Unit :=
  match r with
  | .ok v => (v, .ok ())
  | .error e => (v, .error e)

namespace Call

/-- Takes the call's next atomic step on the table and the volume. -/
def step (t : Table) (v : Volume) : Call → Table × Volume × Progress
  | openRead name =>
    match checkName name with
    | .error e => (t, v, .done (.error e))
    | .ok () =>
      match v.openRead name with
      | .error e => (t, v, .done (.error (Arbiter.openError name e)))
      | .ok f => (t, v, .next (admitRead name f))
  | admitRead name f =>
    match t.admitReader name with
    | (t, .ok ()) => (t, v, .reading ⟨name, f⟩)
    | (t, .error e) => (t, v, .done (.error e))
  | openWrite name =>
    match checkName name with
    | .error e => (t, v, .done (.error e))
    | .ok () =>
      if v.contains name then (t, v, .done (.error (.alreadyExists name)))
      else (t, v, .next (claimWrite name))
  | claimWrite name =>
    match t.claimWriter name with
    | (t, .ok ()) => (t, v, .next (create name))
    | (t, .error e) => (t, v, .done (.error e))
  | create name =>
    match v.create name with
    | .ok (v, f) => (t, v, .writing ⟨name, f⟩)
    | .error _ => (t, v, .next (dropCreate name))
  | dropCreate name => (t.dropClaim name, v, .done (.error (.violation name .cannotCreate)))
  | closeRead h =>
    match t.releaseReader h.name with
    | .ok t => (t, v, .done (.ok ()))
    | .error e => (t, v, .done (.error e))
  | closeWrite h =>
    match t.releaseWriter h.name with
    | .ok t => (t, v, .done (.ok ()))
    | .error e => (t, v, .done (.error e))
  | abandon h =>
    let (v, removed) := removal v (v.removeFile h.name)
    (t, v, .next (settleAbandon h removed))
  | settleAbandon h removed =>
    let (t, r) := t.settleAbandon h.name removed
    (t, v, .done r)
  | delete name =>
    match checkName name with
    | .error e => (t, v, .done (.error e))
    | .ok () =>
      if !v.contains name then (t, v, .done (.error (.notFound name)))
      else (t, v, .next (claimDelete name))
  | claimDelete name =>
    match t.claimWriter name with
    | (t, .ok ()) => (t, v, .next (remove name))
    | (t, .error e) => (t, v, .done (.error e))
  | remove name =>
    let (v, removed) := removal v (v.removeFile name)
    (t, v, .next (settleDelete name removed))
  | settleDelete name removed =>
    let (t, r) := t.settleDelete name removed
    (t, v, .done r)

/-- Read handles of `name` the call holds: the handle passed to `closeRead`, until it is
released. -/
def readsHeld (name : String) : Call → Nat
  | closeRead h => if h.name = name then 1 else 0
  | _ => 0

/-- Holds of `name`'s writer slot the call has: an `openForWrite` from its claim to its return, a
`tryDelete` from its claim to its last critical section, and a write handle passed to
`closeWrite` or `abandonWrite`, until it is released. -/
def slotsHeld (name : String) : Call → Nat
  | create n | dropCreate n | remove n | settleDelete n _ => if n = name then 1 else 0
  | closeWrite h | abandon h | settleAbandon h _ => if h.name = name then 1 else 0
  | _ => 0

end Call

/-- The arbiter's table and volume, the calls in flight, and the handles callers hold. -/
structure World where
  table : Table := {}
  volume : Volume
  calls : List Call := []
  /-- Read handles returned and not yet passed to `closeRead`. -/
  reads : List ReadHandle := []
  /-- Write handles returned and not yet passed to `closeWrite` or `abandonWrite`. -/
  writes : List WriteHandle := []

namespace World

/-- A fresh arbiter over a volume. -/
def init (v : Volume) : World := { volume := v }

/-- The world after the call between `pre` and `post` took a step to this table, volume and
progress. -/
def resume (s : World) (pre post : List Call) : Table × Volume × Progress → World
  | (t, v, .next c) => { s with table := t, volume := v, calls := pre ++ c :: post }
  | (t, v, .reading h) =>
    { s with table := t, volume := v, calls := pre ++ post, reads := h :: s.reads }
  | (t, v, .writing h) =>
    { s with table := t, volume := v, calls := pre ++ post, writes := h :: s.writes }
  | (t, v, .done _) => { s with table := t, volume := v, calls := pre ++ post }

/-- Outstanding read handles of a name: held by callers or passed to a `closeRead` in flight. -/
def readersOf (s : World) (name : String) : Nat :=
  s.reads.countP (·.name == name) + (s.calls.map (Call.readsHeld name)).sum

/-- Holders of a name's writer slot: write handles held by callers, and the calls in flight that
hold the slot (`Call.slotsHeld`). -/
def holdersOf (s : World) (name : String) : Nat :=
  s.writes.countP (·.name == name) + (s.calls.map (Call.slotsHeld name)).sum

/-- Fewer than `2 ^ 32` read handles of any name are outstanding: the reader count of a record
is a 32-bit number. -/
def Bounded (s : World) : Prop := ∀ name, s.readersOf name < 2 ^ 32

end World

/-- One atomic step of an arbiter, its callers and the other processes that share its volume. -/
inductive Step : World → World → Prop where
  /-- Another process changes the volume. -/
  | external (s : World) (v : Volume) : Step s { s with volume := v }
  | openForRead (s : World) (name : String) : Step s { s with calls := .openRead name :: s.calls }
  | openForWrite (s : World) (name : String) :
      Step s { s with calls := .openWrite name :: s.calls }
  | tryDelete (s : World) (name : String) : Step s { s with calls := .delete name :: s.calls }
  | closeRead (s : World) {pre post : List ReadHandle} {h : ReadHandle}
      (hs : s.reads = pre ++ h :: post) :
      Step s { s with reads := pre ++ post, calls := .closeRead h :: s.calls }
  | closeWrite (s : World) {pre post : List WriteHandle} {h : WriteHandle}
      (hs : s.writes = pre ++ h :: post) :
      Step s { s with writes := pre ++ post, calls := .closeWrite h :: s.calls }
  | abandonWrite (s : World) {pre post : List WriteHandle} {h : WriteHandle}
      (hs : s.writes = pre ++ h :: post) :
      Step s { s with writes := pre ++ post, calls := .abandon h :: s.calls }
  /-- A call in flight takes its next step. -/
  | advance (s : World) {pre post : List Call} {c : Call} (hs : s.calls = pre ++ c :: post) :
      Step s (s.resume pre post (c.step s.table s.volume))

end Tftp
