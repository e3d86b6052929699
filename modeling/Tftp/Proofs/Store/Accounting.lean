import Tftp.Proofs.Admission
import Tftp.Proofs.Store.ReadWrite
import Tftp.Access.Store
import Mathlib

/-!
# What each call of the arbiter does to its accounts

The calls of an arbiter as a session makes them, one after another, against the counts that the
table's records account for (`Record.Accounts`): `readers n` read handles and `holders n` holders
of the writer slot of each name `n`. An admission adds the handle it returns to the counts of its
name (`Store.openForRead_ok`, `Store.openForWrite_ok`) and a refusal leaves every record
accounting for the same counts; a release takes its handle out of the counts and, the handle
being counted, never fails (`Store.closeRead_accounts` and its siblings); a delete leaves the
counts as they were (`Store.tryDelete_accounts`). Abandoning an upload removes its file unless
the removal itself fails (`Store.abandonWrite_removes`).
-/

namespace Tftp

/-- The counts `c` with one more for `name`. -/
def withOne (c : String → Nat) (name : String) : String → Nat :=
  fun n => c n + if name = n then 1 else 0

@[simp] theorem withOne_self (c : String → Nat) (name : String) :
    withOne c name name = c name + 1 := by
  simp [withOne]

theorem withOne_of_ne (c : String → Nat) {name n : String} (h : name ≠ n) :
    withOne c name n = c n := by
  simp [withOne, h]

namespace Table

/-- Every name's record accounts for `readers` read handles and `holders` holders of its writer
slot. -/
def Accounts (t : Table) (readers holders : String → Nat) : Prop :=
  ∀ n, (t.getD n).Accounts (readers n) (holders n)

variable {t t' : Table} {name : String} {X Y : String → Nat}

theorem accounts_of_getD {t' : Table} (ht : t.Accounts X Y) (h : ∀ n, t'.getD n = t.getD n) :
    t'.Accounts X Y := fun n => h n ▸ ht n

theorem Accounts.congr {X' Y' : String → Nat} (ht : t.Accounts X Y) (hX : ∀ n, X n = X' n)
    (hY : ∀ n, Y n = Y' n) : t.Accounts X' Y' := fun n => hX n ▸ hY n ▸ ht n

theorem accounts_empty : ({} : Table).Accounts (fun _ => 0) (fun _ => 0) := fun _ => by
  simp only [getD, get?]
  exact ⟨rfl, by simp, Nat.zero_le 1, fun _ => rfl⟩

/-- Every record of a table that accounts for no handle is idle. -/
theorem isIdle_of_accounts (ht : t.Accounts (fun _ => 0) (fun _ => 0)) (n : String) :
    (t.getD n).isIdle = true := by
  have h := ht n
  have hr : (t.getD n).readers = 0 := UInt32.toNat_inj.mp h.readers_eq
  have hw : (t.getD n).writer = false := by
    cases hw : (t.getD n).writer
    · rfl
    · exact absurd (h.writer_iff.mp hw) Nat.zero_ne_one
  simp [Record.isIdle, hr, hw]

/-- Updating one name's record to one that accounts for its counts keeps the table accounting. -/
theorem accounts_set {r : Record} (ht : t.Accounts X Y) {X' Y' : String → Nat}
    (hr : r.Accounts (X' name) (Y' name)) (hX : ∀ n, name ≠ n → X' n = X n)
    (hY : ∀ n, name ≠ n → Y' n = Y n) : (t.set name r).Accounts X' Y' := by
  intro n
  rw [getD_set]
  by_cases he : name = n
  · subst he
    simpa using hr
  · rw [if_neg he, hX n he, hY n he]
    exact ht n

/-- The record of a name whose one more reader the table counts. -/
theorem Accounts.getD_reader (ht : t.Accounts (withOne X name) Y) :
    (t.getD name).Accounts (X name + 1) (Y name) := by
  simpa using ht name

/-- The record of a name whose one more holder the table counts. -/
theorem Accounts.getD_holder (ht : t.Accounts X (withOne Y name)) :
    (t.getD name).Accounts (X name) (Y name + 1) := by
  simpa using ht name

/-- A counted holder gives the writer slot back. -/
theorem accounts_unclaim (ht : t.Accounts X (withOne Y name)) :
    (t.set name { t.getD name with writer := false }).Accounts X Y :=
  accounts_set ht ht.getD_holder.unclaim (fun _ _ => rfl) fun _ hn => (withOne_of_ne Y hn).symm

theorem accounts_of_admitReader_ok (hc : t.admitReader name = (t', .ok ()))
    (ht : t.Accounts X Y) (hb : X name + 1 < 2 ^ 32) : t'.Accounts (withOne X name) Y := by
  have hw : (t.getD name).writer = false := by
    cases hw : (t.getD name).writer
    · rfl
    · simp [admitReader, hw] at hc
  simp only [admitReader, hw, Bool.false_eq_true, if_false, Prod.mk.injEq] at hc
  obtain ⟨rfl, -⟩ := hc
  refine accounts_set ht ?_ (fun n hn => withOne_of_ne X hn) (fun _ _ => rfl)
  simpa [hw] using (ht name).addReader hw hb

theorem getD_of_admitReader_error {e : AccessError} (hc : t.admitReader name = (t', .error e))
    (n : String) : t'.getD n = t.getD n := by
  by_cases hw : (t.getD name).writer = true
  · simp only [admitReader, hw, if_true, Prod.mk.injEq] at hc
    obtain ⟨rfl, -⟩ := hc
    rw [getD_set]
    split <;> simp_all
  · simp [admitReader, hw] at hc

theorem accounts_of_claimWriter_ok' (hc : t.claimWriter name = (t', .ok ()))
    (ht : t.Accounts X Y) : t'.Accounts X (withOne Y name) :=
  fun n => accounts_of_claimWriter_ok hc (ht n)

theorem accounts_dropClaim (ht : t.Accounts X (withOne Y name)) :
    (t.dropClaim name).Accounts X Y := by
  intro n
  rw [getD_dropClaim]
  by_cases he : name = n
  · subst he
    simpa using ht.getD_holder.unclaim
  · simpa [he, withOne_of_ne Y he] using ht n

theorem releaseReader_accounts (ht : t.Accounts (withOne X name) Y) :
    ∃ t', t.releaseReader name = .ok t' ∧ t'.Accounts X Y := by
  have hn := ht.getD_reader
  refine ⟨_, releaseReader_of_pos hn.readers_pos, ?_⟩
  exact accounts_set ht hn.release (fun n hn => (withOne_of_ne X hn).symm) (fun _ _ => rfl)

theorem releaseWriter_accounts (ht : t.Accounts X (withOne Y name)) :
    ∃ t', t.releaseWriter name = .ok t' ∧ t'.Accounts X Y :=
  ⟨_, releaseWriter_of_writer ht.getD_holder.writer_of_holder, accounts_unclaim ht⟩

theorem accounts_erase (ht : t.Accounts X (withOne Y name)) : (t.erase name).Accounts X Y := by
  intro n
  rw [getD_erase]
  by_cases he : name = n
  · subst he
    simpa using ht.getD_holder.erase
  · simpa [he, withOne_of_ne Y he] using ht n

theorem accounts_settleAbandon (ht : t.Accounts X (withOne Y name))
    (removed : Except Errno Unit) : (t.settleAbandon name removed).1.Accounts X Y := by
  rw [settleAbandon_of_writer ht.getD_holder.writer_of_holder]
  cases removed with
  | ok _ => exact accounts_erase ht
  | error _ => exact accounts_unclaim ht

theorem accounts_settleDelete (ht : t.Accounts X (withOne Y name))
    (removed : Except Errno Unit) : (t.settleDelete name removed).1.Accounts X Y := by
  rw [settleDelete_table]
  cases removed with
  | ok _ => exact accounts_erase ht
  | error _ => exact accounts_dropClaim ht

end Table

/-! ## Calls of the arbiter on a store -/

namespace Store

variable {s s' : Store} {name : String} {X Y : String → Nat}

theorem openForRead_ok {h : ReadHandle} (hc : s.openForRead name = (s', .ok h))
    (ht : s.table.Accounts X Y) (hb : X name + 1 < 2 ^ 32) :
    h.name = name ∧ s'.table.Accounts (withOne X name) Y := by
  rcases ha : Arbiter.openForRead s.table s.volume name with ⟨t₁, r₁⟩
  simp only [openForRead, ha, Prod.mk.injEq] at hc
  obtain ⟨rfl, rfl⟩ := hc
  unfold Arbiter.openForRead at ha
  split at ha
  · cases ha
  split at ha
  · cases ha
  rcases hr : s.table.admitReader name with ⟨t₂, r₂⟩
  rw [hr] at ha
  cases r₂ with
  | error e => cases ha
  | ok u =>
    cases ha
    exact ⟨rfl, Table.accounts_of_admitReader_ok hr ht hb⟩

theorem openForRead_error {e : AccessError} (hc : s.openForRead name = (s', .error e))
    (ht : s.table.Accounts X Y) : s'.table.Accounts X Y := by
  rcases ha : Arbiter.openForRead s.table s.volume name with ⟨t₁, r₁⟩
  simp only [openForRead, ha, Prod.mk.injEq] at hc
  obtain ⟨rfl, rfl⟩ := hc
  unfold Arbiter.openForRead at ha
  split at ha
  · cases ha
    exact ht
  split at ha
  · cases ha
    exact ht
  rcases hr : s.table.admitReader name with ⟨t₂, r₂⟩
  rw [hr] at ha
  cases r₂ with
  | error e =>
    cases ha
    exact Table.accounts_of_getD ht (Table.getD_of_admitReader_error hr)
  | ok u => cases ha

theorem openForWrite_ok {h : WriteHandle} (hc : s.openForWrite name = (s', .ok h))
    (ht : s.table.Accounts X Y) : h.name = name ∧ s'.table.Accounts X (withOne Y name) := by
  rcases ha : Arbiter.openForWrite s.table s.volume name with ⟨t₁, v₁, r₁⟩
  simp only [openForWrite, ha, Prod.mk.injEq] at hc
  obtain ⟨rfl, rfl⟩ := hc
  unfold Arbiter.openForWrite at ha
  split at ha
  · cases ha
  split at ha
  · cases ha
  split at ha
  · cases ha
  · rename_i t₂ hcl
    split at ha
    · cases ha
      exact ⟨rfl, Table.accounts_of_claimWriter_ok' hcl ht⟩
    · cases ha

theorem openForWrite_error {e : AccessError} (hc : s.openForWrite name = (s', .error e))
    (ht : s.table.Accounts X Y) : s'.table.Accounts X Y := by
  rcases ha : Arbiter.openForWrite s.table s.volume name with ⟨t₁, v₁, r₁⟩
  simp only [openForWrite, ha, Prod.mk.injEq] at hc
  obtain ⟨rfl, rfl⟩ := hc
  unfold Arbiter.openForWrite at ha
  split at ha
  · cases ha
    exact ht
  split at ha
  · cases ha
    exact ht
  split at ha
  · rename_i t₂ e₂ hcl
    cases ha
    exact Table.accounts_of_getD ht (Table.getD_of_claimWriter_error hcl)
  · rename_i t₂ hcl
    split at ha
    · cases ha
    · cases ha
      exact Table.accounts_dropClaim (Table.accounts_of_claimWriter_ok' hcl ht)

/-- A counted read handle is released, and its count goes. -/
theorem closeRead_accounts (h : ReadHandle) (ht : s.table.Accounts (withOne X h.name) Y) :
    (s.closeRead h).2 = .ok () ∧ (s.closeRead h).1.table.Accounts X Y := by
  obtain ⟨t', hr, ht'⟩ := Table.releaseReader_accounts ht
  simp only [closeRead, Arbiter.closeRead, hr, true_and]
  exact ht'

/-- A counted write handle is released, and its hold goes. -/
theorem closeWrite_accounts (h : WriteHandle) (ht : s.table.Accounts X (withOne Y h.name)) :
    (s.closeWrite h).2 = .ok () ∧ (s.closeWrite h).1.table.Accounts X Y := by
  obtain ⟨t', hr, ht'⟩ := Table.releaseWriter_accounts ht
  simp only [closeWrite, Arbiter.closeWrite, hr, true_and]
  exact ht'

theorem abandonWrite_accounts (h : WriteHandle) (ht : s.table.Accounts X (withOne Y h.name)) :
    (s.abandonWrite h).1.table.Accounts X Y :=
  Table.accounts_settleAbandon ht _

/-- An abandoned upload's file is gone from the volume, unless removing it failed. -/
theorem abandonWrite_removes (h : WriteHandle) :
    (s.abandonWrite h).1.volume.contains h.name = false ∨
      ∃ e, s.volume.removeFile h.name = .error e := by
  cases hr : s.volume.removeFile h.name with
  | error e => exact .inr ⟨e, rfl⟩
  | ok v =>
    have hv : (s.abandonWrite h).1.volume = v := by
      simp [abandonWrite, Arbiter.abandonWrite, hr]
    exact .inl (hv ▸ Volume.contains_of_removeFile hr)

theorem tryDelete_accounts (name : String) (ht : s.table.Accounts X Y) :
    (s.tryDelete name).1.table.Accounts X Y := by
  show (Arbiter.tryDelete s.table s.volume name).1.Accounts X Y
  unfold Arbiter.tryDelete
  split
  · exact ht
  split
  · exact ht
  split
  · rename_i t₁ e₁ hcl
    exact Table.accounts_of_getD ht (Table.getD_of_claimWriter_error hcl)
  · rename_i t₁ hcl
    exact Table.accounts_settleDelete (Table.accounts_of_claimWriter_ok' hcl ht) _

end Store

end Tftp
