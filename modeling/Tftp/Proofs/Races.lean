import Tftp.Proofs.Admission
import Mathlib

/-!
# Races between the arbiter's calls

Schedules of an arbiter's callers, replayed move by move (`World.replay`); every replay is a run
of the interleaving model (`World.run_of_replay`). Two schedules show the arbiter admitting what
its documentation says it keeps out.

`openForRead` opens the file before it counts the reader. A reader that opened the file of an
upload just before the upload was abandoned is counted once the record is gone, and holds the
removed partial file (`reader_admitted_to_abandoned_upload`); a delete that completes between a
reader's two steps lets it in the same way.

`openForWrite` checks that the name is free, then claims the writer slot, then creates the file,
and `closeWrite` gives the slot back with no trace of the file. A second writer whose check came
before the first one's create, and whose claim comes after the first one's `closeWrite`, creates
the finished file again and empties it (`racing_writer_truncates_completed_upload`).
-/

namespace Tftp

/-- What the callers of an arbiter do next. -/
inductive Move where
  | openForRead (name : String)
  | openForWrite (name : String)
  | tryDelete (name : String)
  /-- Pass the `i`-th held read handle to `closeRead`. -/
  | closeRead (i : Nat)
  /-- Pass the `i`-th held write handle to `closeWrite`. -/
  | closeWrite (i : Nat)
  /-- Pass the `i`-th held write handle to `abandonWrite`. -/
  | abandonWrite (i : Nat)
  /-- The `i`-th call in flight takes its next step. -/
  | advance (i : Nat)
  /-- The holder of the `i`-th write handle writes through it, at the handle's position. The
  arbiter does not see writes, so to it this is a change of the volume. -/
  | write (i : Nat) (data : List UInt8)

namespace World

/-- The world after a move, if the move can be made. -/
def move (s : World) : Move → Option World
  | .openForRead name => some { s with calls := .openRead name :: s.calls }
  | .openForWrite name => some { s with calls := .openWrite name :: s.calls }
  | .tryDelete name => some { s with calls := .delete name :: s.calls }
  | .closeRead i => s.reads[i]?.map fun h =>
      { s with reads := s.reads.eraseIdx i, calls := .closeRead h :: s.calls }
  | .closeWrite i => s.writes[i]?.map fun h =>
      { s with writes := s.writes.eraseIdx i, calls := .closeWrite h :: s.calls }
  | .abandonWrite i => s.writes[i]?.map fun h =>
      { s with writes := s.writes.eraseIdx i, calls := .abandon h :: s.calls }
  | .advance i => s.calls[i]?.map fun c =>
      s.resume (s.calls.take i) (s.calls.drop (i + 1)) (c.step s.table s.volume)
  | .write i data => s.writes[i]?.bind fun h =>
      (s.volume.write h.file data).toOption.map fun r => { s with volume := r.1 }

/-- The world after a schedule of moves, if every move can be made. -/
def replay (s : World) : List Move → Option World
  | [] => some s
  | m :: ms => (s.move m).bind (·.replay ms)

theorem step_of_move {s s' : World} {m : Move} (h : s.move m = some s') : Step s s' := by
  cases m with
  | openForRead name => cases h; exact .openForRead s name
  | openForWrite name => cases h; exact .openForWrite s name
  | tryDelete name => cases h; exact .tryDelete s name
  | closeRead i =>
    obtain ⟨r, hr, rfl⟩ := Option.map_eq_some_iff.mp h
    rw [List.eraseIdx_eq_take_drop_succ]
    exact .closeRead s (eq_take_cons_drop hr)
  | closeWrite i =>
    obtain ⟨w, hw, rfl⟩ := Option.map_eq_some_iff.mp h
    rw [List.eraseIdx_eq_take_drop_succ]
    exact .closeWrite s (eq_take_cons_drop hw)
  | abandonWrite i =>
    obtain ⟨w, hw, rfl⟩ := Option.map_eq_some_iff.mp h
    rw [List.eraseIdx_eq_take_drop_succ]
    exact .abandonWrite s (eq_take_cons_drop hw)
  | advance i =>
    obtain ⟨c, hc, rfl⟩ := Option.map_eq_some_iff.mp h
    exact .advance s (eq_take_cons_drop hc)
  | write i data =>
    obtain ⟨w, -, hw⟩ := Option.bind_eq_some_iff.mp h
    obtain ⟨⟨v, f⟩, -, rfl⟩ := Option.map_eq_some_iff.mp hw
    exact .external s v

/-- Every replayed schedule is a run of the arbiter, its callers and the volume. -/
theorem run_of_replay : ∀ {s s' : World} {ms : List Move}, s.replay ms = some s' →
    Relation.ReflTransGen Step s s'
  | s, s', [], h => by
    cases h
    exact .refl
  | s, s', m :: ms, h => by
    obtain ⟨s₁, h₁, h₂⟩ := Option.bind_eq_some_iff.mp h
    exact .head (step_of_move h₁) (run_of_replay h₂)

end World

/-! ## A reader admitted to an abandoned upload -/

/-- A writer creates `a` and writes a byte; a reader opens `a`; the writer abandons the upload,
which removes the file and drops the record; the reader is about to count itself in. -/
def abandonRace : List Move :=
  [.openForWrite "a", .advance 0, .advance 0, .advance 0, .write 0 [0x78],
   .openForRead "a", .advance 0, .abandonWrite 0, .advance 0, .advance 0]

/-- The reader of `abandonRace` is counted in while no file is stored under `a` and no record
is left, with a handle to the inode that held the abandoned partial upload. -/
theorem reader_admitted_to_abandoned_upload :
    ∃ s, (World.init {}).replay abandonRace = some s ∧
      Relation.ReflTransGen Step (World.init {}) s ∧
      s.calls = [.admitRead "a" ⟨.inode 0, .readOnly, 0⟩] ∧ s.table.get? "a" = none ∧
      s.volume.contains "a" = false ∧ s.volume.content 0 = [0x78] ∧
      ((Call.admitRead "a" ⟨.inode 0, .readOnly, 0⟩).step s.table s.volume).2.2 =
        .reading ⟨"a", ⟨.inode 0, .readOnly, 0⟩⟩ := by
  have hrun : (World.init {}).replay abandonRace =
      some (((World.init {}).replay abandonRace).getD (World.init {})) := by
    cbv
  refine ⟨_, hrun, World.run_of_replay hrun, ?_, ?_, ?_, ?_, ?_⟩ <;> cbv

/-! ## A finished upload truncated by a racing writer -/

/-- Two writers of `a` check that it is free; the first claims the slot, creates `a`, writes a
byte and gives the slot back with `closeWrite`; then the second claims the slot. -/
def writerRace : List Move :=
  [.openForWrite "a", .openForWrite "a", .advance 1, .advance 0, .advance 1, .advance 1,
   .write 0 [0x61], .closeWrite 0, .advance 0, .advance 0]

/-- In `writerRace` the first upload is finished and released, no handle is held, and the
second writer's next step creates `a` again: it empties the finished file and returns a second
write handle to it. -/
theorem racing_writer_truncates_completed_upload :
    ∃ s, (World.init {}).replay writerRace = some s ∧
      Relation.ReflTransGen Step (World.init {}) s ∧
      s.calls = [.create "a"] ∧ s.writes = [] ∧ s.volume.readFile "a" = .ok [0x61] ∧
      ((Call.create "a").step s.table s.volume).2.1.readFile "a" = .ok [] ∧
      ((Call.create "a").step s.table s.volume).2.2 =
        .writing ⟨"a", ⟨.inode 0, .writeOnly, 0⟩⟩ := by
  have hrun : (World.init {}).replay writerRace =
      some (((World.init {}).replay writerRace).getD (World.init {})) := by
    cbv
  refine ⟨_, hrun, World.run_of_replay hrun, ?_, ?_, ?_, ?_, ?_⟩ <;> cbv

end Tftp
