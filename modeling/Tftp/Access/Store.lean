import Tftp.Access.Arbiter

/-!
# Stores

A store root as one side of a transfer sees it: the volume of its files and the table of the
arbiter that admits sessions to them. The root's path is only used to name files in messages.
-/

namespace Tftp

/-- A root directory, its files and its arbiter. -/
structure Store where
  root : String
  volume : Volume
  table : Table := {}
  deriving Inhabited

namespace Store

/-- A store over the given volume with an empty access table. -/
def ofVolume (root : String) (volume : Volume) : Store := { root, volume }

/-- Opens a file for reading through the arbiter. -/
def openForRead (s : Store) (name : String) : Store × Except AccessError ReadHandle :=
  let (table, r) := Arbiter.openForRead s.table s.volume name
  ({ s with table }, r)

/-- Creates a file for writing through the arbiter. -/
def openForWrite (s : Store) (name : String) : Store × Except AccessError WriteHandle :=
  let (table, volume, r) := Arbiter.openForWrite s.table s.volume name
  ({ s with table, volume }, r)

/-- Releases a read handle. -/
def closeRead (s : Store) (h : ReadHandle) : Store × Except AccessError Unit :=
  match Arbiter.closeRead s.table h with
  | .ok table => ({ s with table }, .ok ())
  | .error e => (s, .error e)

/-- Releases a write handle. -/
def closeWrite (s : Store) (h : WriteHandle) : Store × Except AccessError Unit :=
  match Arbiter.closeWrite s.table h with
  | .ok table => ({ s with table }, .ok ())
  | .error e => (s, .error e)

/-- Gives up an unfinished upload. -/
def abandonWrite (s : Store) (h : WriteHandle) : Store × Except AccessError Unit :=
  let (table, volume, r) := Arbiter.abandonWrite s.table s.volume h
  ({ s with table, volume }, r)

/-- Deletes a file nobody holds. -/
def tryDelete (s : Store) (name : String) : Store × Except AccessError Unit :=
  let (table, volume, r) := Arbiter.tryDelete s.table s.volume name
  ({ s with table, volume }, r)

/-- Whether a name exists in the root, without asking the arbiter. -/
def isAvailable (s : Store) (name : String) : Bool := s.volume.contains name

end Store

end Tftp
