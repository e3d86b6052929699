import Tftp.Access.Interleaving
import Mathlib

/-!
# Admission is exclusive

Whatever the order in which the steps of concurrent calls, new calls and outside changes to the
volume interleave, the record table of an arbiter stays true to who holds each name: a record
counts exactly the name's outstanding read handles, and flags a writer exactly when the name's
writer slot has a holder, of which there is at most one. Hence a writer (or a delete) and readers
never hold a name together.

The invariant is `Record.Accounts`, stated of one record against the two counts of its name. A
step of a call changes at most the record of the call's own name, and `Call.step_accounts` shows,
one call at a time, that the record keeps accounting for the counts once the call's own holds are
moved from before the step to after it. `Step.accounted` lifts this to the whole system, and
`World.accounted_of_run` to every run: the reader count is a 32-bit number, so a run is one in
which fewer than `2 ^ 32` read handles of a name are ever outstanding at once.
-/

namespace Tftp

/-- The element at index `i` splits a list in two. -/
theorem eq_take_cons_drop {α : Type} {l : List α} {i : Nat} {a : α} (h : l[i]? = some a) :
    l = l.take i ++ a :: l.drop (i + 1) := by
  obtain ⟨hi, rfl⟩ := List.getElem?_eq_some_iff.mp h
  rw [List.cons_getElem_drop_succ, List.take_append_drop]

/-- A record accounts for `readers` outstanding read handles and `holders` holders of the writer
slot: it counts the readers, flags the writer exactly when the slot has its one holder, and
never has both. -/
structure Record.Accounts (r : Record) (readers holders : Nat) : Prop where
  readers_eq : r.readers.toNat = readers
  writer_iff : r.writer = true ↔ holders = 1
  holders_le : holders ≤ 1
  exclusive : r.writer = true → r.readers = 0

namespace Record.Accounts

variable {r : Record} {x y : Nat}

theorem writer_of_holder (h : r.Accounts x (y + 1)) : r.writer = true :=
  h.writer_iff.2 (by have := h.holders_le; omega)

theorem not_writer (h : r.Accounts x y) (hw : r.writer = false) : y = 0 := by
  have h1 := h.holders_le
  have h2 : y ≠ 1 := fun hy => by simp [h.writer_iff.2 hy] at hw
  omega

theorem addReader (h : r.Accounts x y) (hw : r.writer = false) (hx : x + 1 < 2 ^ 32) :
    ({ r with readers := r.readers + 1 } : Record).Accounts (x + 1) y where
  readers_eq := by
    rw [UInt32.toNat_add, h.readers_eq]
    simp only [UInt32.reduceToNat]
    omega
  writer_iff := by simp [hw, h.not_writer hw]
  holders_le := h.holders_le
  exclusive := by simp [hw]

theorem claim (h : r.Accounts x y) (hi : r.isIdle = true) :
    ({ r with writer := true } : Record).Accounts x (y + 1) := by
  simp only [Record.isIdle, Bool.and_eq_true, beq_iff_eq, Bool.not_eq_eq_eq_not,
    Bool.not_true] at hi
  obtain ⟨hr, hw⟩ := hi
  have hy := h.not_writer hw
  exact {
    readers_eq := h.readers_eq
    writer_iff := by simp [hy]
    holders_le := by omega
    exclusive := fun _ => hr }

theorem unclaim (h : r.Accounts x (y + 1)) :
    ({ r with writer := false } : Record).Accounts x y where
  readers_eq := h.readers_eq
  writer_iff := by have := h.holders_le; simp; omega
  holders_le := by have := h.holders_le; omega
  exclusive := by simp

theorem erase (h : r.Accounts x (y + 1)) : ({} : Record).Accounts x y where
  readers_eq := by
    rw [← h.readers_eq, h.exclusive h.writer_of_holder]
  writer_iff := by have := h.holders_le; simp; omega
  holders_le := by have := h.holders_le; omega
  exclusive := by simp

theorem readers_pos (h : r.Accounts (x + 1) y) : 0 < r.readers := by
  rw [UInt32.lt_iff_toNat_lt, h.readers_eq]
  simp

theorem release (h : r.Accounts (x + 1) y) :
    ({ r with readers := r.readers - 1 } : Record).Accounts x y where
  readers_eq := by
    have hle : (1 : UInt32) ≤ r.readers := by
      have := h.readers_eq
      rw [UInt32.le_iff_toNat_le]
      simp only [UInt32.reduceToNat]
      omega
    rw [UInt32.toNat_sub_of_le _ _ hle, h.readers_eq]
    simp
  writer_iff := h.writer_iff
  holders_le := h.holders_le
  exclusive := fun hw => absurd (h.exclusive hw) (UInt32.ne_of_lt h.readers_pos).symm

end Record.Accounts

/-- A granted claim makes the claiming call the holder of the name's slot. -/
theorem Table.accounts_of_claimWriter_ok {t t' : Table} {name n : String} {x y : Nat}
    (hc : t.claimWriter name = (t', .ok ())) (hn : (t.getD n).Accounts x y) :
    (t'.getD n).Accounts x (y + if name = n then 1 else 0) := by
  by_cases hi : (t.getD name).isIdle = true
  · simp only [Table.claimWriter, hi, Bool.not_true, Bool.false_eq_true, if_false,
      Prod.mk.injEq] at hc
    obtain ⟨rfl, -⟩ := hc
    rw [Table.getD_set]
    by_cases he : name = n
    · subst he
      simpa using hn.claim hi
    · simpa [he] using hn
  · simp [Table.claimWriter, hi] at hc

/-- A refused claim leaves every record as it was. -/
theorem Table.getD_of_claimWriter_error {t t' : Table} {name : String} {e : AccessError}
    (hc : t.claimWriter name = (t', .error e)) (n : String) : t'.getD n = t.getD n := by
  by_cases hi : (t.getD name).isIdle = true
  · simp [Table.claimWriter, hi] at hc
  · simp only [Table.claimWriter, hi, Bool.not_false, if_true, Prod.mk.injEq] at hc
    obtain ⟨rfl, -⟩ := hc
    rw [Table.getD_set]
    split <;> simp_all

/-- Read handles of `name` a call holds after a step: those of its next step, or the handle it
returns. -/
def Progress.readsHeld (name : String) : Progress → Nat
  | next c => c.readsHeld name
  | reading h => if h.name = name then 1 else 0
  | _ => 0

/-- Holds of `name`'s writer slot a call has after a step. -/
def Progress.slotsHeld (name : String) : Progress → Nat
  | next c => c.slotsHeld name
  | writing h => if h.name = name then 1 else 0
  | _ => 0

/-- One step of a call keeps every record accounting for its name, the call's holds counted
before the step and its holds or returned handle after it; `X` and `Y` count the holds of
everyone else. The release steps find what they release because the counts include it. -/
theorem Call.step_accounts (c : Call) (t : Table) (v : Volume) (X Y : String → Nat)
    (h : ∀ m, (t.getD m).Accounts (X m + c.readsHeld m) (Y m + c.slotsHeld m))
    (hb : ∀ m, X m + (c.step t v).2.2.readsHeld m < 2 ^ 32) (n : String) :
    ((c.step t v).1.getD n).Accounts (X n + (c.step t v).2.2.readsHeld n)
      (Y n + (c.step t v).2.2.slotsHeld n) := by
  have hn := h n
  cases c with
  | openRead name =>
    simp only [Call.step]
    split
    · simpa [Call.readsHeld, Call.slotsHeld, Progress.readsHeld, Progress.slotsHeld] using hn
    · split <;> simpa [Call.readsHeld, Call.slotsHeld, Progress.readsHeld, Progress.slotsHeld]
        using hn
  | admitRead name f =>
    simp only [Call.readsHeld, Call.slotsHeld, Nat.add_zero] at hn
    by_cases hw : (t.getD name).writer = true
    · simp only [Call.step, Table.admitReader, hw, if_true, Table.getD_set, Progress.readsHeld,
        Progress.slotsHeld, Nat.add_zero]
      by_cases he : name = n
      · subst he; simpa using hn
      · simpa [he] using hn
    · have hb' := hb n
      simp only [Bool.not_eq_true] at hw
      simp only [Call.step, Table.admitReader, hw, Bool.false_eq_true, if_false, Table.getD_set,
        Progress.readsHeld, Progress.slotsHeld, Nat.add_zero] at hb' ⊢
      by_cases he : name = n
      · subst he
        simp only [if_true] at hb' ⊢
        simpa [hw] using hn.addReader hw hb'
      · simpa [he] using hn
  | openWrite name =>
    simp only [Call.step]
    split
    · simpa [Call.readsHeld, Call.slotsHeld, Progress.readsHeld, Progress.slotsHeld] using hn
    · split <;> simpa [Call.readsHeld, Call.slotsHeld, Progress.readsHeld, Progress.slotsHeld]
        using hn
  | claimWrite name =>
    simp only [Call.readsHeld, Call.slotsHeld, Nat.add_zero] at hn
    simp only [Call.step]
    split
    · rename_i hc
      simpa [Progress.readsHeld, Progress.slotsHeld, Call.readsHeld, Call.slotsHeld]
        using Table.accounts_of_claimWriter_ok hc hn
    · rename_i hc
      simpa [Progress.readsHeld, Progress.slotsHeld, Table.getD_of_claimWriter_error hc] using hn
  | create name =>
    simp only [Call.step]
    split <;> simpa [Call.readsHeld, Call.slotsHeld, Progress.readsHeld, Progress.slotsHeld]
      using hn
  | dropCreate name =>
    simp only [Call.step, Table.getD_dropClaim, Progress.readsHeld, Progress.slotsHeld,
      Nat.add_zero]
    simp only [Call.readsHeld, Call.slotsHeld, Nat.add_zero] at hn
    by_cases he : name = n
    · subst he; simp only [if_true] at hn ⊢; exact hn.unclaim
    · simpa [he] using hn
  | closeRead hd =>
    have hpos : 0 < (t.getD hd.name).readers := by
      have := h hd.name
      simp only [Call.readsHeld, if_true] at this
      exact this.readers_pos
    simp only [Call.step, Table.releaseReader_of_pos hpos, Table.getD_set, Progress.readsHeld,
      Progress.slotsHeld, Nat.add_zero]
    simp only [Call.readsHeld, Call.slotsHeld, Nat.add_zero] at hn
    by_cases he : hd.name = n
    · subst he; simp only [if_true] at hn ⊢; exact hn.release
    · simpa [he] using hn
  | closeWrite hd =>
    have hw : (t.getD hd.name).writer = true := by
      have := h hd.name
      simp only [Call.slotsHeld, if_true] at this
      exact this.writer_of_holder
    simp only [Call.step, Table.releaseWriter_of_writer hw, Table.getD_set, Progress.readsHeld,
      Progress.slotsHeld, Nat.add_zero]
    simp only [Call.readsHeld, Call.slotsHeld, Nat.add_zero] at hn
    by_cases he : hd.name = n
    · subst he; simp only [if_true] at hn ⊢; exact hn.unclaim
    · simpa [he] using hn
  | abandon hd =>
    simpa [Call.step, Call.readsHeld, Call.slotsHeld, Progress.readsHeld, Progress.slotsHeld]
      using hn
  | settleAbandon hd removed =>
    have hw : (t.getD hd.name).writer = true := by
      have := h hd.name
      simp only [Call.slotsHeld, if_true] at this
      exact this.writer_of_holder
    simp only [Call.step, Table.settleAbandon_of_writer hw, Progress.readsHeld,
      Progress.slotsHeld, Nat.add_zero]
    simp only [Call.readsHeld, Call.slotsHeld, Nat.add_zero] at hn
    by_cases he : hd.name = n
    · subst he
      simp only [if_true] at hn
      cases removed with
      | ok _ => simpa [Table.getD_erase] using hn.erase
      | error _ => simpa [Table.getD_set] using hn.unclaim
    · cases removed <;> simpa [he, Table.getD_erase, Table.getD_set] using hn
  | delete name =>
    simp only [Call.step]
    split
    · simpa [Call.readsHeld, Call.slotsHeld, Progress.readsHeld, Progress.slotsHeld] using hn
    · split <;> simpa [Call.readsHeld, Call.slotsHeld, Progress.readsHeld, Progress.slotsHeld]
        using hn
  | claimDelete name =>
    simp only [Call.readsHeld, Call.slotsHeld, Nat.add_zero] at hn
    simp only [Call.step]
    split
    · rename_i hc
      simpa [Progress.readsHeld, Progress.slotsHeld, Call.readsHeld, Call.slotsHeld]
        using Table.accounts_of_claimWriter_ok hc hn
    · rename_i hc
      simpa [Progress.readsHeld, Progress.slotsHeld, Table.getD_of_claimWriter_error hc] using hn
  | remove name =>
    simpa [Call.step, Call.readsHeld, Call.slotsHeld, Progress.readsHeld, Progress.slotsHeld]
      using hn
  | settleDelete name removed =>
    simp only [Call.step, Table.settleDelete_table, Progress.readsHeld, Progress.slotsHeld,
      Nat.add_zero]
    simp only [Call.readsHeld, Call.slotsHeld, Nat.add_zero] at hn
    by_cases he : name = n
    · subst he
      simp only [if_true] at hn
      cases removed with
      | ok _ => simpa [Table.getD_erase] using hn.erase
      | error _ => simpa [Table.getD_dropClaim] using hn.unclaim
    · cases removed <;> simpa [he, Table.getD_erase, Table.getD_dropClaim] using hn

namespace World

/-- Every record accounts for the handles and calls that hold its name. -/
def Accounted (s : World) : Prop :=
  ∀ name, (s.table.getD name).Accounts (s.readersOf name) (s.holdersOf name)

theorem resume_table (s : World) (pre post : List Call) (r : Table × Volume × Progress) :
    (s.resume pre post r).table = r.1 := by
  obtain ⟨t, v, p⟩ := r
  cases p <;> rfl

theorem readersOf_resume (s : World) (pre post : List Call) (r : Table × Volume × Progress)
    (m : String) :
    (s.resume pre post r).readersOf m = s.reads.countP (·.name == m) +
      ((pre ++ post).map (Call.readsHeld m)).sum + r.2.2.readsHeld m := by
  obtain ⟨t, v, p⟩ := r
  cases p <;> simp [resume, readersOf, Progress.readsHeld, List.countP_cons] <;> omega

theorem holdersOf_resume (s : World) (pre post : List Call) (r : Table × Volume × Progress)
    (m : String) :
    (s.resume pre post r).holdersOf m = s.writes.countP (·.name == m) +
      ((pre ++ post).map (Call.slotsHeld m)).sum + r.2.2.slotsHeld m := by
  obtain ⟨t, v, p⟩ := r
  cases p <;> simp [resume, holdersOf, Progress.slotsHeld, List.countP_cons] <;> omega

theorem readersOf_of_calls {s : World} {pre post : List Call} {c : Call}
    (hs : s.calls = pre ++ c :: post) (m : String) :
    s.readersOf m = s.reads.countP (·.name == m) + ((pre ++ post).map (Call.readsHeld m)).sum +
      c.readsHeld m := by
  simp [readersOf, hs]
  omega

theorem holdersOf_of_calls {s : World} {pre post : List Call} {c : Call}
    (hs : s.calls = pre ++ c :: post) (m : String) :
    s.holdersOf m = s.writes.countP (·.name == m) + ((pre ++ post).map (Call.slotsHeld m)).sum +
      c.slotsHeld m := by
  simp [holdersOf, hs]
  omega

theorem readersOf_closeRead {s : World} {pre post : List ReadHandle} {h : ReadHandle}
    (hs : s.reads = pre ++ h :: post) (m : String) :
    { s with reads := pre ++ post, calls := .closeRead h :: s.calls }.readersOf m =
      s.readersOf m := by
  simp [readersOf, hs, List.countP_cons, Call.readsHeld]
  omega

theorem holdersOf_pass {s : World} {pre post : List WriteHandle} {h : WriteHandle} {c : Call}
    (hs : s.writes = pre ++ h :: post) (hc : ∀ m, c.slotsHeld m = if h.name = m then 1 else 0)
    (m : String) :
    { s with writes := pre ++ post, calls := c :: s.calls }.holdersOf m = s.holdersOf m := by
  simp [holdersOf, hs, List.countP_cons, hc]
  omega

theorem accounted_init (v : Volume) : (init v).Accounted := fun name => by
  simp [init, readersOf, holdersOf, Table.getD, Table.get?]
  exact ⟨rfl, by simp, by simp, by simp⟩

end World

theorem World.Accounted.of_counts {s s' : World} (hs : s.Accounted) (ht : s'.table = s.table)
    (hr : ∀ m, s'.readersOf m = s.readersOf m) (hh : ∀ m, s'.holdersOf m = s.holdersOf m) :
    s'.Accounted := fun m => by
  rw [ht, hr, hh]
  exact hs m

/-- Every step of the system keeps the table accounting for every name. -/
theorem Step.accounted {s s' : World} (hstep : Step s s') (hs : s.Accounted)
    (hb : s'.Bounded) : s'.Accounted := by
  cases hstep with
  | external v => exact hs
  | openForRead name | openForWrite name | tryDelete name =>
    exact hs.of_counts rfl (fun m => by simp [World.readersOf, Call.readsHeld])
      (fun m => by simp [World.holdersOf, Call.slotsHeld])
  | closeRead hr =>
    exact hs.of_counts rfl (World.readersOf_closeRead hr)
      (fun m => by simp [World.holdersOf, Call.slotsHeld])
  | closeWrite hw =>
    exact hs.of_counts rfl (fun m => by simp [World.readersOf, Call.readsHeld])
      (World.holdersOf_pass hw (fun m => rfl))
  | abandonWrite hw =>
    exact hs.of_counts rfl (fun m => by simp [World.readersOf, Call.readsHeld])
      (World.holdersOf_pass hw (fun m => rfl))
  | @advance pre post c hc =>
    intro n
    rw [World.resume_table, World.readersOf_resume, World.holdersOf_resume]
    refine Call.step_accounts c s.table s.volume
      (fun m => s.reads.countP (·.name == m) + ((pre ++ post).map (Call.readsHeld m)).sum)
      (fun m => s.writes.countP (·.name == m) + ((pre ++ post).map (Call.slotsHeld m)).sum)
      (fun m => ?_) (fun m => ?_) n
    · rw [← World.readersOf_of_calls hc, ← World.holdersOf_of_calls hc]
      exact hs m
    · have := hb m
      rwa [World.readersOf_resume] at this

/-- Every state of a run from a fresh arbiter is accounted for. -/
theorem World.accounted_of_run {v : Volume} {s : World}
    (h : Relation.ReflTransGen (fun a b => Step a b ∧ b.Bounded) (World.init v) s) :
    s.Accounted := by
  induction h with
  | refl => exact World.accounted_init v
  | tail _ hab ih => exact hab.1.accounted ih hab.2

/-- In every run of an arbiter over any volume, in which fewer than `2 ^ 32` read handles of a
name are outstanding at once, every name's record counts exactly its outstanding read handles, and
flags a writer exactly when the name's writer slot has a holder (a write handle, an
`openForWrite` between its claim and its return, or a `tryDelete` between its claim and its last
critical section), of which there is never more than one; so a writer and readers never hold a
name together. -/
theorem admission_exclusive {v : Volume} {s : World}
    (h : Relation.ReflTransGen (fun a b => Step a b ∧ b.Bounded) (World.init v) s)
    (name : String) :
    (s.table.getD name).readers.toNat = s.readersOf name ∧
      ((s.table.getD name).writer = true ↔ s.holdersOf name = 1) ∧ s.holdersOf name ≤ 1 ∧
      ¬((s.table.getD name).writer = true ∧ 0 < (s.table.getD name).readers.toNat) := by
  have hacc := World.accounted_of_run h name
  refine ⟨hacc.readers_eq, hacc.writer_iff, hacc.holders_le, ?_⟩
  rintro ⟨hw, hr⟩
  rw [hacc.exclusive hw] at hr
  exact absurd hr (by decide)

/-- A write claims the slot of a name on an empty volume: the claim's call is the one holder. -/
theorem admission_exclusive_claimed :
    Relation.ReflTransGen (fun a b => Step a b ∧ b.Bounded) (World.init {})
        { table := ⟨[("a", { writer := true })]⟩, volume := {}, calls := [.create "a"] } ∧
      ((Table.getD ⟨[("a", { writer := true })]⟩ "a").readers.toNat =
          World.readersOf
            { table := ⟨[("a", { writer := true })]⟩, volume := {}, calls := [.create "a"] } "a" ∧
        ((Table.getD ⟨[("a", { writer := true })]⟩ "a").writer = true ↔
          World.holdersOf
            { table := ⟨[("a", { writer := true })]⟩, volume := {}, calls := [.create "a"] } "a" = 1) ∧
        World.holdersOf
            { table := ⟨[("a", { writer := true })]⟩, volume := {}, calls := [.create "a"] } "a" ≤ 1 ∧
        ¬((Table.getD ⟨[("a", { writer := true })]⟩ "a").writer = true ∧
          0 < (Table.getD ⟨[("a", { writer := true })]⟩ "a").readers.toNat)) := by
  have e2 : World.resume { volume := {}, calls := [.openWrite "a"] } [] []
      ((Call.openWrite "a").step {} {}) = { volume := {}, calls := [.claimWrite "a"] } := by
    cbv
  have e3 : World.resume { volume := {}, calls := [.claimWrite "a"] } [] []
      ((Call.claimWrite "a").step {} {}) =
        { table := ⟨[("a", { writer := true })]⟩, volume := {}, calls := [.create "a"] } := by
    cbv
  have run : Relation.ReflTransGen (fun a b => Step a b ∧ b.Bounded) (World.init {})
      { table := ⟨[("a", { writer := true })]⟩, volume := {}, calls := [.create "a"] } := by
    refine .tail (.tail (.single ⟨Step.openForWrite (World.init {}) "a", ?_⟩)
      ⟨e2 ▸ @Step.advance _ [] [] _ rfl, ?_⟩) ⟨e3 ▸ @Step.advance _ [] [] _ rfl, ?_⟩ <;>
    intro m <;> simp [World.readersOf, Call.readsHeld, World.init]
  exact ⟨run, admission_exclusive run "a"⟩

end Tftp
