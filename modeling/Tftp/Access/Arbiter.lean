import Tftp.Access.Table
import Tftp.Access.Error
import Tftp.Store.Volume

/-!
# The arbiter

Admission to a store: any number of readers may share a file, while a writer or a delete holds it
alone. Each call is a sequence of atomic steps: checks of the name, file-system calls on the
volume, and critical sections on the record table, the latter defined here one by one so that
interleavings of concurrent calls can be built from them. The sequential calls compose the steps
in the order the arbiter runs them.

A critical section that looks a name up creates an idle record for it, even when the call then
fails; records disappear only when a file is deleted or an unfinished upload is abandoned.
-/

namespace Tftp

/-- A file opened for reading through the arbiter. -/
structure ReadHandle where
  name : String
  file : OpenFile
  deriving DecidableEq, Repr, Inhabited

/-- A file created for writing through the arbiter. -/
structure WriteHandle where
  name : String
  file : OpenFile
  deriving DecidableEq, Repr, Inhabited

namespace Table

/-! ## Critical sections -/

/-- Counts one more reader unless a writer holds the name. -/
def admitReader (t : Table) (name : String) : Table × Except AccessError Unit :=
  let r := t.getD name
  if r.writer then (t.set name r, .error (.violation name .beingWritten))
  else (t.set name { r with readers := r.readers + 1 }, .ok ())

/-- Takes the writer slot if nobody holds the name. -/
def claimWriter (t : Table) (name : String) : Table × Except AccessError Unit :=
  let r := t.getD name
  if !r.isIdle then (t.set name r, .error (.violation name .inUse))
  else (t.set name { r with writer := true }, .ok ())

/-- Gives the writer slot back after a failed create or delete, if the record is still there. -/
def dropClaim (t : Table) (name : String) : Table :=
  match t.get? name with
  | some r => t.set name { r with writer := false }
  | none => t

/-- Releases one reader. -/
def releaseReader (t : Table) (name : String) : Except AccessError Table :=
  match t.get? name with
  | some r =>
    if r.readers > 0 then .ok (t.set name { r with readers := r.readers - 1 })
    else .error (.invariant name .closeReadWithoutReader)
  | none => .error (.invariant name .closeReadWithoutReader)

/-- Releases the writer. -/
def releaseWriter (t : Table) (name : String) : Except AccessError Table :=
  match t.get? name with
  | some r =>
    if r.writer then .ok (t.set name { r with writer := false })
    else .error (.invariant name .closeWriteWithoutWriter)
  | none => .error (.invariant name .closeWriteWithoutWriter)

/-- Settles an abandoned upload once its file was removed, or failed to be. -/
def settleAbandon (t : Table) (name : String) (removed : Except Errno Unit) :
    Table × Except AccessError Unit :=
  match t.get? name with
  | some r =>
    if r.writer then
      match removed with
      | .ok () => (t.erase name, .ok ())
      | .error e => (t.set name { r with writer := false }, .error (.io name e))
    else (t, .error (.invariant name .abandonWithoutWriter))
  | none => (t, .error (.invariant name .abandonWithoutWriter))

/-- Settles a delete once its file was removed, or failed to be. -/
def settleDelete (t : Table) (name : String) (removed : Except Errno Unit) :
    Table × Except AccessError Unit :=
  match removed with
  | .ok () => (t.erase name, .ok ())
  | .error .noEntry => (t.dropClaim name, .error (.notFound name))
  | .error _ => (t.dropClaim name, .error (.violation name .cannotDelete))

/-! ## What the critical sections do to a record -/

theorem getD_dropClaim (t : Table) (name n : String) :
    (t.dropClaim name).getD n =
      if name = n then { t.getD name with writer := false } else t.getD n := by
  unfold dropClaim
  split
  next r hr =>
    rw [getD_set]
    simp [getD, hr]
  next hr =>
    by_cases h : name = n
    · subst h
      simp [getD, hr]
    · simp [h]

theorem releaseReader_of_pos {t : Table} {name : String} (h : 0 < (t.getD name).readers) :
    t.releaseReader name =
      .ok (t.set name { t.getD name with readers := (t.getD name).readers - 1 }) := by
  have hne : t.getD name ≠ {} := by
    intro he
    rw [he] at h
    exact absurd h (by decide)
  simp [releaseReader, get?_of_getD_ne hne, h]

theorem releaseWriter_of_writer {t : Table} {name : String} (h : (t.getD name).writer = true) :
    t.releaseWriter name = .ok (t.set name { t.getD name with writer := false }) := by
  have hne : t.getD name ≠ {} := by
    intro he
    rw [he] at h
    cases h
  simp [releaseWriter, get?_of_getD_ne hne, h]

theorem settleAbandon_of_writer {t : Table} {name : String} (h : (t.getD name).writer = true)
    (removed : Except Errno Unit) :
    (t.settleAbandon name removed).1 =
      match removed with
      | .ok () => t.erase name
      | .error _ => t.set name { t.getD name with writer := false } := by
  have hne : t.getD name ≠ {} := by
    intro he
    rw [he] at h
    cases h
  cases removed <;> simp [settleAbandon, get?_of_getD_ne hne, h]

theorem settleDelete_table (t : Table) (name : String) (removed : Except Errno Unit) :
    (t.settleDelete name removed).1 =
      match removed with
      | .ok () => t.erase name
      | .error _ => t.dropClaim name := by
  unfold settleDelete
  split <;> rfl

end Table

namespace Arbiter

/-- The access error of a failed open: a missing file is not found, a denied permission a
violation, anything else an I/O error. -/
def openError (name : String) (e : Errno) : AccessError :=
  match e with
  | .noEntry => .notFound name
  | e => if e.deniesPermission then .violation name .permissionDenied else .io name e

/-! ## Calls -/

/-- Opens an existing file for reading: refused when the name is bad, the file is absent or a
writer holds it. -/
def openForRead (t : Table) (v : Volume) (name : String) :
    Table × Except AccessError ReadHandle :=
  match checkName name with
  | .error e => (t, .error e)
  | .ok () =>
    match v.openRead name with
    | .error e => (t, .error (openError name e))
    | .ok f =>
      let (t, r) := t.admitReader name
      (t, r.map fun () => ⟨name, f⟩)

/-- Creates a new file for writing: refused when the name is bad, the file exists, someone holds
the name or the file cannot be created. -/
def openForWrite (t : Table) (v : Volume) (name : String) :
    Table × Volume × Except AccessError WriteHandle :=
  match checkName name with
  | .error e => (t, v, .error e)
  | .ok () =>
    if v.contains name then (t, v, .error (.alreadyExists name))
    else
      match t.claimWriter name with
      | (t, .error e) => (t, v, .error e)
      | (t, .ok ()) =>
        match v.create name with
        | .ok (v, f) => (t, v, .ok ⟨name, f⟩)
        | .error _ => (t.dropClaim name, v, .error (.violation name .cannotCreate))

/-- Releases a read handle. -/
def closeRead (t : Table) (h : ReadHandle) : Except AccessError Table :=
  t.releaseReader h.name

/-- Releases a write handle; flushing is the caller's job. -/
def closeWrite (t : Table) (h : WriteHandle) : Except AccessError Table :=
  t.releaseWriter h.name

/-- Gives up an unfinished upload: removes the file while the writer slot is still held, then
drops the record. -/
def abandonWrite (t : Table) (v : Volume) (h : WriteHandle) :
    Table × Volume × Except AccessError Unit :=
  let (v, removed) := match v.removeFile h.name with
    | .ok v => (v, .ok ())
    | .error e => (v, .error e)
  let (t, r) := t.settleAbandon h.name removed
  (t, v, r)

/-- Deletes a file nobody holds: refused when the name is bad, the file is absent or someone
holds it. The writer slot is held during the removal, so no reader slips in. -/
def tryDelete (t : Table) (v : Volume) (name : String) :
    Table × Volume × Except AccessError Unit :=
  match checkName name with
  | .error e => (t, v, .error e)
  | .ok () =>
    if !v.contains name then (t, v, .error (.notFound name))
    else
      match t.claimWriter name with
      | (t, .error e) => (t, v, .error e)
      | (t, .ok ()) =>
        let (v, removed) := match v.removeFile name with
          | .ok v => (v, .ok ())
          | .error e => (v, .error e)
        let (t, r) := t.settleDelete name removed
        (t, v, r)

end Arbiter

end Tftp
