import Tftp.Proofs.Store.Accounting
import Mathlib

/-!
# Refused calls leave the store alone

A call of the arbiter that is turned away (a name that is not found, a file that already exists,
an access violation, or a release that finds nothing to release) should leave the store as it
found it: the same volume, and every record as it was, except that looking a name up may leave
an idle record where there was none (`Store.Untouched`).

Every failure of `openForRead`, `openForWrite`, `tryDelete`, `closeRead` and `closeWrite` does so,
whatever the table and the volume hold. The refusals of `openForWrite` and `tryDelete` that come
after the claim of the writer slot give the claim back, and the slot was claimed on an idle
record, so the record is idle again (`Table.untouched_dropClaim`).

`abandonWrite` is the exception (`refusals_untouched`). It removes the handle's file before it
looks at the record, so when the record holds no writer (a handle issued by another arbiter
over the same root, say) it reports a fault of the table with the file already gone; it leaves
the store untouched exactly when the removal fails (`foreign_abandon_removes_file`).
-/

namespace Tftp

/-- Errors that turn a call away, as opposed to a file-system call that failed (`io`). -/
def AccessError.IsRefusal : AccessError → Prop
  | .io _ _ => False
  | _ => True

/-- An idle record is the default one. -/
theorem Record.eq_empty_of_isIdle {r : Record} (h : r.isIdle = true) : r = {} := by
  obtain ⟨readers, writer⟩ := r
  simp only [Record.isIdle, Bool.and_eq_true, beq_iff_eq, Bool.not_eq_eq_eq_not,
    Bool.not_true] at h
  obtain ⟨rfl, rfl⟩ := h
  rfl

namespace Table

/-- `t'` keeps every record of `t`, and has at most an idle record where `t` has none. -/
def Untouched (t t' : Table) : Prop :=
  ∀ n, t'.get? n = t.get? n ∨ (t.get? n = none ∧ t'.get? n = some {})

theorem Untouched.refl (t : Table) : t.Untouched t := fun _ => .inl rfl

/-- Writing a record back as it was looked up keeps it, or makes the idle record explicit. -/
theorem untouched_set_getD (t : Table) (name : String) :
    t.Untouched (t.set name (t.getD name)) := by
  intro n
  by_cases h : name = n
  · subst h
    cases hg : t.get? name with
    | none => exact .inr ⟨rfl, by simp [getD, hg]⟩
    | some r => exact .inl (by simp [getD, hg])
  · exact .inl (get?_set_of_ne t h _)

variable {t t' : Table} {name : String}

theorem untouched_of_admitReader_error {e : AccessError}
    (h : t.admitReader name = (t', .error e)) : t.Untouched t' := by
  by_cases hw : (t.getD name).writer = true
  · simp only [admitReader, hw, if_true, Prod.mk.injEq] at h
    obtain ⟨rfl, -⟩ := h
    exact untouched_set_getD t name
  · simp [admitReader, hw] at h

theorem untouched_of_claimWriter_error {e : AccessError}
    (h : t.claimWriter name = (t', .error e)) : t.Untouched t' := by
  by_cases hi : (t.getD name).isIdle = true
  · simp [claimWriter, hi] at h
  · simp only [claimWriter, hi, Bool.not_false, if_true, Prod.mk.injEq] at h
    obtain ⟨rfl, -⟩ := h
    exact untouched_set_getD t name

theorem set_set (t : Table) (name : String) (a b : Record) :
    (t.set name a).set name b = t.set name b := by
  simp only [set, List.filter_cons, bne_self_eq_false, Bool.false_eq_true, if_false,
    List.filter_filter, Bool.and_self]

/-- A granted claim that is given back leaves the record as it was looked up: the claim was
granted on an idle record, and giving it back makes the record idle again. -/
theorem untouched_dropClaim (h : t.claimWriter name = (t', .ok ())) :
    t.Untouched (t'.dropClaim name) := by
  by_cases hi : (t.getD name).isIdle = true
  · simp only [claimWriter, hi, Bool.not_true, Bool.false_eq_true, if_false,
      Prod.mk.injEq] at h
    obtain ⟨rfl, -⟩ := h
    have hr : t.getD name = {} := Record.eq_empty_of_isIdle hi
    have hdrop : (t.set name { t.getD name with writer := true }).dropClaim name =
        t.set name (t.getD name) := by
      simp only [dropClaim, get?_set_self, set_set, hr]
    rw [hdrop]
    exact untouched_set_getD t name
  · simp [claimWriter, hi] at h

/-- A refused abandon leaves the table as it was: the record holds no writer, so nothing was
settled. -/
theorem eq_of_settleAbandon_refused {removed : Except Errno Unit} {e : AccessError}
    (h : t.settleAbandon name removed = (t', .error e)) (he : e.IsRefusal) : t' = t := by
  unfold settleAbandon at h
  split at h
  · split at h
    · cases removed with
      | ok u => cases h
      | error err =>
        simp only [Prod.mk.injEq, Except.error.injEq] at h
        obtain ⟨-, rfl⟩ := h
        exact absurd he id
    · exact (Prod.mk.inj h).1.symm
  · exact (Prod.mk.inj h).1.symm

end Table

/-- `s'` is the store `s` after a call that left it alone: the same root and volume, and the
records of `s` kept, with at most idle records added. -/
structure Store.Untouched (s s' : Store) : Prop where
  root : s'.root = s.root
  volume : s'.volume = s.volume
  records : s.table.Untouched s'.table

namespace Store

variable {s : Store} {name : String} {e : AccessError}

theorem Untouched.refl (s : Store) : s.Untouched s := ⟨rfl, rfl, Table.Untouched.refl _⟩

theorem untouched_of_openForRead_error (h : (s.openForRead name).2 = .error e) :
    s.Untouched (s.openForRead name).1 := by
  rcases ha : Arbiter.openForRead s.table s.volume name with ⟨t₁, r₁⟩
  simp only [openForRead, ha] at h ⊢
  refine ⟨rfl, rfl, ?_⟩
  unfold Arbiter.openForRead at ha
  split at ha
  · cases ha
    exact Table.Untouched.refl _
  split at ha
  · cases ha
    exact Table.Untouched.refl _
  rcases hr : s.table.admitReader name with ⟨t₂, r₂⟩
  rw [hr] at ha
  cases r₂ with
  | error e₂ =>
    cases ha
    exact Table.untouched_of_admitReader_error hr
  | ok u =>
    cases ha
    cases h

theorem untouched_of_openForWrite_error (h : (s.openForWrite name).2 = .error e) :
    s.Untouched (s.openForWrite name).1 := by
  rcases ha : Arbiter.openForWrite s.table s.volume name with ⟨t₁, v₁, r₁⟩
  simp only [openForWrite, ha] at h ⊢
  unfold Arbiter.openForWrite at ha
  split at ha
  · cases ha
    exact ⟨rfl, rfl, Table.Untouched.refl _⟩
  split at ha
  · cases ha
    exact ⟨rfl, rfl, Table.Untouched.refl _⟩
  split at ha
  · rename_i t₂ e₂ hcl
    cases ha
    exact ⟨rfl, rfl, Table.untouched_of_claimWriter_error hcl⟩
  · rename_i t₂ hcl
    -- past the claim, a refusal is a failed create, whose slot is given back
    split at ha
    · cases ha
      cases h
    · cases ha
      exact ⟨rfl, rfl, Table.untouched_dropClaim hcl⟩

theorem untouched_of_tryDelete_error (h : (s.tryDelete name).2 = .error e) :
    s.Untouched (s.tryDelete name).1 := by
  rcases ha : Arbiter.tryDelete s.table s.volume name with ⟨t₁, v₁, r₁⟩
  simp only [tryDelete, ha] at h ⊢
  unfold Arbiter.tryDelete at ha
  split at ha
  · cases ha
    exact ⟨rfl, rfl, Table.Untouched.refl _⟩
  split at ha
  · cases ha
    exact ⟨rfl, rfl, Table.Untouched.refl _⟩
  split at ha
  · rename_i t₂ e₂ hcl
    cases ha
    exact ⟨rfl, rfl, Table.untouched_of_claimWriter_error hcl⟩
  · rename_i t₂ hcl
    -- past the claim, a refusal is a failed removal: the volume stays and the slot is given back
    cases hrm : s.volume.removeFile name with
    | ok v =>
      simp only [hrm, Table.settleDelete] at ha
      cases ha
      cases h
    | error err =>
      simp only [hrm] at ha
      rcases hs : t₂.settleDelete name (.error err) with ⟨t₃, r₃⟩
      have ht₃ := Table.settleDelete_table t₂ name (.error err)
      rw [hs] at ha ht₃
      cases ha
      exact ⟨rfl, rfl, ht₃ ▸ Table.untouched_dropClaim hcl⟩

theorem untouched_of_closeRead_error {h : ReadHandle} (hc : (s.closeRead h).2 = .error e) :
    s.Untouched (s.closeRead h).1 := by
  unfold closeRead at hc ⊢
  split
  · rename_i hr
    rw [hr] at hc
    cases hc
  · exact Untouched.refl s

theorem untouched_of_closeWrite_error {h : WriteHandle} (hc : (s.closeWrite h).2 = .error e) :
    s.Untouched (s.closeWrite h).1 := by
  unfold closeWrite at hc ⊢
  split
  · rename_i hr
    rw [hr] at hc
    cases hc
  · exact Untouched.refl s

/-- A refused abandon leaves the store alone exactly when removing the handle's file failed. -/
theorem untouched_abandonWrite_iff {h : WriteHandle} (hc : (s.abandonWrite h).2 = .error e)
    (he : e.IsRefusal) :
    s.Untouched (s.abandonWrite h).1 ↔ ∃ err, s.volume.removeFile h.name = .error err := by
  rcases ha : Arbiter.abandonWrite s.table s.volume h with ⟨t₁, v₁, r₁⟩
  simp only [abandonWrite, ha] at hc ⊢
  subst hc
  unfold Arbiter.abandonWrite at ha
  cases hrm : s.volume.removeFile h.name with
  | error err =>
    simp only [hrm] at ha
    rcases hs : s.table.settleAbandon h.name (.error err) with ⟨t₂, r₂⟩
    rw [hs] at ha
    cases ha
    rw [Table.eq_of_settleAbandon_refused hs he]
    exact ⟨fun _ => ⟨err, rfl⟩, fun _ => Untouched.refl s⟩
  | ok v =>
    simp only [hrm] at ha
    rcases hs : s.table.settleAbandon h.name (.ok ()) with ⟨t₂, r₂⟩
    rw [hs] at ha
    cases ha
    simp only [reduceCtorEq, exists_false, iff_false]
    intro hu
    -- the removal dropped the file's entry, so the volume is not the one it was
    obtain ⟨loc, n, -, hfind, rfl⟩ := Volume.removeFile_eq_ok hrm
    have hl := congrArg (fun w : Volume => w.entries.lookup loc) hu.volume
    simp only [Volume.lookup_filter_self, Volume.lookup_of_find_file hfind] at hl
    cases hl

end Store

/-- Every call of the arbiter that fails leaves the store alone, whatever its table and volume
hold, except `abandonWrite`: refused, it leaves the store alone exactly when removing the
handle's file failed. -/
theorem refusals_untouched (s : Store) :
    (∀ name e, (s.openForRead name).2 = .error e → s.Untouched (s.openForRead name).1) ∧
    (∀ name e, (s.openForWrite name).2 = .error e → s.Untouched (s.openForWrite name).1) ∧
    (∀ name e, (s.tryDelete name).2 = .error e → s.Untouched (s.tryDelete name).1) ∧
    (∀ h e, (s.closeRead h).2 = .error e → s.Untouched (s.closeRead h).1) ∧
    (∀ h e, (s.closeWrite h).2 = .error e → s.Untouched (s.closeWrite h).1) ∧
    (∀ h e, (s.abandonWrite h).2 = .error e → e.IsRefusal →
      (s.Untouched (s.abandonWrite h).1 ↔ ∃ err, s.volume.removeFile h.name = .error err)) :=
  ⟨fun _ _ => Store.untouched_of_openForRead_error, fun _ _ => Store.untouched_of_openForWrite_error,
    fun _ _ => Store.untouched_of_tryDelete_error, fun _ _ => Store.untouched_of_closeRead_error,
    fun _ _ => Store.untouched_of_closeWrite_error, fun _ _ => Store.untouched_abandonWrite_iff⟩

/-! ## An upload abandoned through another arbiter -/

/-- One arbiter creates `w` over an empty root and `hi` is written through its handle; a second
arbiter over the same root is handed that handle to abandon. It refuses it as a fault of its
table, but only after removing the file. -/
theorem foreign_abandon_removes_file :
    ∃ s₁ h v₂ f, (Store.ofVolume "/srv" {}).openForWrite "w" = (s₁, .ok h) ∧
      s₁.volume.write h.file [0x68, 0x69] = .ok (v₂, f) ∧
      ((Store.ofVolume "/srv" v₂).abandonWrite h).2 =
        .error (.invariant "w" .abandonWithoutWriter) ∧
      (Store.ofVolume "/srv" v₂).volume.readFile "w" = .ok [0x68, 0x69] ∧
      ((Store.ofVolume "/srv" v₂).abandonWrite h).1.volume.contains "w" = false := by
  refine ⟨((Store.ofVolume "/srv" {}).openForWrite "w").1, ⟨"w", ⟨.inode 0, .writeOnly, 0⟩⟩, ⟨[(["w"], .file 0)], #[[0x68, 0x69]], 0⟩,
    ⟨.inode 0, .writeOnly, 2⟩, ?_, ?_, ?_, ?_, ?_⟩ <;> cbv

end Tftp
