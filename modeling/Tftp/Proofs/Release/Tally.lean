import Tftp.Proofs.Store.Accounting
import Tftp.Proofs.Net.Sockets
import Mathlib

/-!
# What a machine's running activities hold

A server runs sessions and a client has operations in flight. Each of them owns one transfer
socket and holds at most one read handle of a name, or the writer slot of a name. A `Tally` says
how one kind of activity is counted, and `Tally.Sound` is the invariant both machines keep: the
arbiter table accounts exactly for what the activities hold, and the activities own their
sockets. Owning a socket bounds the activities by the ports of one address, so a record's reader
count never reaches `2 ^ 32` (`Tally.readersOf_add_one_lt`).

An activity takes a step on its own, against the others (`Tally.Sound.split`), and then goes on
in its place (`Tally.Sound.set`) or leaves. `holds_along_run` carries an invariant that every
step keeps along a run.
-/

namespace Tftp

open Tftp.Net

/-- How one kind of running activity is counted: the transfer socket it owns, and the read
handles and writer-slot holds of each name it has, with at most one read handle of a name. -/
structure Tally (α : Type) where
  socket : α → SocketAddr
  reads : α → String → Nat
  slots : α → String → Nat
  reads_le_one : ∀ a name, reads a name ≤ 1

namespace Tally

variable {α : Type} (T : Tally α)

/-- Read handles of `name` the activities hold. -/
def readersOf (l : List α) (name : String) : Nat := (l.map (T.reads · name)).sum

/-- Holds of `name`'s writer slot the activities have. -/
def holdersOf (l : List α) (name : String) : Nat := (l.map (T.slots · name)).sum

/-- The transfer sockets of the activities. -/
def socketsOf (l : List α) : List SocketAddr := l.map T.socket

@[simp] theorem readersOf_nil (name : String) : T.readersOf [] name = 0 := rfl

@[simp] theorem readersOf_cons (a : α) (l : List α) (name : String) :
    T.readersOf (a :: l) name = T.reads a name + T.readersOf l name := by
  simp [readersOf]

@[simp] theorem readersOf_append (l l' : List α) (name : String) :
    T.readersOf (l ++ l') name = T.readersOf l name + T.readersOf l' name := by
  simp [readersOf]

@[simp] theorem holdersOf_nil (name : String) : T.holdersOf [] name = 0 := rfl

@[simp] theorem holdersOf_cons (a : α) (l : List α) (name : String) :
    T.holdersOf (a :: l) name = T.slots a name + T.holdersOf l name := by
  simp [holdersOf]

@[simp] theorem holdersOf_append (l l' : List α) (name : String) :
    T.holdersOf (l ++ l') name = T.holdersOf l name + T.holdersOf l' name := by
  simp [holdersOf]

@[simp] theorem socketsOf_nil : T.socketsOf [] = [] := rfl

@[simp] theorem socketsOf_cons (a : α) (l : List α) :
    T.socketsOf (a :: l) = T.socket a :: T.socketsOf l := rfl

@[simp] theorem socketsOf_append (l l' : List α) :
    T.socketsOf (l ++ l') = T.socketsOf l ++ T.socketsOf l' := by
  simp [socketsOf]

variable {T}

theorem readersOf_perm {l l' : List α} (h : l.Perm l') : T.readersOf l = T.readersOf l' :=
  funext fun _ => (h.map _).sum_eq

theorem holdersOf_perm {l l' : List α} (h : l.Perm l') : T.holdersOf l = T.holdersOf l' :=
  funext fun _ => (h.map _).sum_eq

/-- Activities on address `ip` hold fewer read handles of a name than a record can count. -/
theorem readersOf_add_one_lt {ip : IpAddr} {l : List α} {n : Network}
    (h : Owned ip (T.socketsOf l) n) (name : String) : T.readersOf l name + 1 < 2 ^ 32 :=
  h.sum_add_one_lt fun a => T.reads_le_one a name

variable (T)

/-- The table accounts for the handles of the activities, and the activities own their sockets
on address `ip`. -/
structure Sound (table : Table) (ip : IpAddr) (l : List α) (n : Network) : Prop where
  accounts : table.Accounts (T.readersOf l) (T.holdersOf l)
  owned : Owned ip (T.socketsOf l) n

variable {T} {table : Table} {ip : IpAddr} {l : List α} {n : Network}

/-- A machine that has just started runs nothing and holds nothing. -/
theorem sound_nil (ip : IpAddr) (n : Network) : T.Sound {} ip [] n where
  accounts := Table.accounts_empty.congr (fun _ => rfl) (fun _ => rfl)
  owned := Owned.nil ip n

theorem Sound.mono {n' : Network} (hs : T.Sound table ip l n) (hk : n.KeepsBound n') :
    T.Sound table ip l n' :=
  ⟨hs.accounts, hs.owned.mono hk⟩

theorem Sound.perm {l' : List α} (hs : T.Sound table ip l n) (h : l.Perm l') :
    T.Sound table ip l' n where
  accounts := readersOf_perm h ▸ holdersOf_perm h ▸ hs.accounts
  owned := hs.owned.perm (h.map _)

/-- The invariant for the activities `l` and one more, `a`, is the invariant for `l` with `a`'s
handles counted and its socket owned. -/
theorem sound_snoc_iff {a : α} :
    T.Sound table ip (l ++ [a]) n ↔
      table.Accounts (fun m => T.readersOf l m + T.reads a m)
          (fun m => T.holdersOf l m + T.slots a m) ∧
        Owned ip (T.socketsOf l ++ [T.socket a]) n := by
  constructor <;> rintro ⟨ha, ho⟩ <;>
    exact ⟨ha.congr (fun m => by simp) (fun m => by simp), by simpa using ho⟩

/-- The activity at index `k`, against the others: its handles and its socket come last. -/
theorem Sound.split {k : Nat} {a : α} (hs : T.Sound table ip l n) (hk : l[k]? = some a) :
    table.Accounts (fun m => T.readersOf (l.eraseIdx k) m + T.reads a m)
        (fun m => T.holdersOf (l.eraseIdx k) m + T.slots a m) ∧
      Owned ip (T.socketsOf (l.eraseIdx k) ++ [T.socket a]) n := by
  obtain ⟨hlen, rfl⟩ := List.getElem?_eq_some_iff.mp hk
  refine sound_snoc_iff.mp (hs.perm ?_)
  exact (List.getElem_cons_eraseIdx_perm hlen).symm.trans (List.perm_append_singleton _ _).symm

/-- The activity at index `k` took a step and goes on as `a`, in its place. -/
theorem Sound.set {k : Nat} {a : α} (hk : k < l.length)
    (ha : table.Accounts (fun m => T.readersOf (l.eraseIdx k) m + T.reads a m)
      (fun m => T.holdersOf (l.eraseIdx k) m + T.slots a m))
    (ho : Owned ip (T.socketsOf (l.eraseIdx k) ++ [T.socket a]) n) :
    T.Sound table ip (l.set k a) n :=
  (sound_snoc_iff.mpr ⟨ha, ho⟩).perm
    ((List.perm_append_singleton _ _).trans (List.set_perm_cons_eraseIdx hk a).symm)

/-- Once nothing runs, every record of the table is idle. -/
theorem Sound.isIdle (hs : T.Sound table ip l n) (h : l = []) (name : String) :
    (table.getD name).isIdle = true := by
  subst h
  exact Table.isIdle_of_accounts (hs.accounts.congr (fun _ => rfl) (fun _ => rfl)) name

end Tally

/-- What every step keeps holds of every state a run reaches. -/
theorem holds_along_run {σ : Type} {step : σ → σ → Prop} {P : σ → Prop} {p p' : σ}
    (h : Relation.ReflTransGen step p p') (hstep : ∀ {q q'}, step q q' → P q → P q')
    (hp : P p) : P p' := by
  induction h with
  | refl => exact hp
  | tail _ hs ih => exact hstep hs ih

end Tftp
