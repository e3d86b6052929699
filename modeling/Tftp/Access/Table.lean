/-!
# Access records

The admission state of one file name: how many readers hold it and whether a writer (or a
delete) holds it. A name with no record is treated as idle. The table keeps at most one record per
name.
-/

namespace Tftp

/-- Who holds a file name. The reader count is a 32-bit counter, as in the arbiter's records. -/
structure Record where
  readers : UInt32 := 0
  writer : Bool := false
  deriving DecidableEq, Repr, Inhabited

/-- No session holds the name. -/
def Record.isIdle (r : Record) : Bool := r.readers == 0 && !r.writer

/-- Records by file name. -/
structure Table where
  records : List (String × Record) := []
  deriving Inhabited

namespace Table

/-- The record of a name, if it has one. -/
def get? (t : Table) (name : String) : Option Record := t.records.lookup name

/-- The record of a name, or a fresh idle one. -/
def getD (t : Table) (name : String) : Record := (t.get? name).getD {}

/-- The table with `name`'s record set to `r`. -/
def set (t : Table) (name : String) (r : Record) : Table :=
  ⟨(name, r) :: t.records.filter (·.1 != name)⟩

/-- The table without a record for `name`. -/
def erase (t : Table) (name : String) : Table := ⟨t.records.filter (·.1 != name)⟩

/-- The records sorted by name. -/
def snapshot (t : Table) : List (String × Record) := t.records.mergeSort fun a b => a.1 ≤ b.1

/-! ## Looking records up -/

theorem lookup_cons_of_ne {β : Type} {a k : String} (h : k ≠ a) (b : β)
    (l : List (String × β)) : ((k, b) :: l).lookup a = l.lookup a := by
  have : (a == k) = false := beq_false_of_ne (Ne.symm h)
  simp only [List.lookup_cons, this]

theorem lookup_filter_self {β : Type} (a : String) (l : List (String × β)) :
    (l.filter (·.1 != a)).lookup a = none := by
  induction l with
  | nil => rfl
  | cons p l ih =>
    obtain ⟨k, v⟩ := p
    by_cases h : k = a
    · subst h; simpa using ih
    · have hk : (k != a) = true := bne_iff_ne.mpr h
      simp only [List.filter_cons, hk, if_true]
      rw [lookup_cons_of_ne h, ih]

theorem lookup_filter_of_ne {β : Type} {a b : String} (h : a ≠ b) (l : List (String × β)) :
    (l.filter (·.1 != a)).lookup b = l.lookup b := by
  induction l with
  | nil => rfl
  | cons p l ih =>
    obtain ⟨k, v⟩ := p
    by_cases hk : k = a
    · subst hk
      simp only [List.filter_cons, bne_self_eq_false, Bool.false_eq_true, if_false]
      rw [ih, lookup_cons_of_ne h]
    · have hk' : (k != a) = true := bne_iff_ne.mpr hk
      simp only [List.filter_cons, hk', if_true]
      by_cases hb : k = b
      · subst hb; rw [List.lookup_cons_self, List.lookup_cons_self]
      · rw [lookup_cons_of_ne hb, lookup_cons_of_ne hb, ih]

@[simp] theorem get?_set_self (t : Table) (name : String) (r : Record) :
    (t.set name r).get? name = some r :=
  List.lookup_cons_self

theorem get?_set_of_ne (t : Table) {name other : String} (h : name ≠ other) (r : Record) :
    (t.set name r).get? other = t.get? other := by
  show ((name, r) :: t.records.filter (·.1 != name)).lookup other = t.records.lookup other
  rw [lookup_cons_of_ne h, lookup_filter_of_ne h]

@[simp] theorem get?_erase_self (t : Table) (name : String) : (t.erase name).get? name = none :=
  lookup_filter_self name t.records

theorem get?_erase_of_ne (t : Table) {name other : String} (h : name ≠ other) :
    (t.erase name).get? other = t.get? other :=
  lookup_filter_of_ne h t.records

@[simp] theorem getD_set_self (t : Table) (name : String) (r : Record) :
    (t.set name r).getD name = r := by
  simp [getD]

theorem getD_set (t : Table) (name : String) (r : Record) (n : String) :
    (t.set name r).getD n = if name = n then r else t.getD n := by
  by_cases h : name = n
  · subst h
    simp
  · simp [getD, get?_set_of_ne t h, h]

theorem getD_erase (t : Table) (name n : String) :
    (t.erase name).getD n = if name = n then {} else t.getD n := by
  by_cases h : name = n
  · subst h
    simp [getD]
  · simp [getD, get?_erase_of_ne t h, h]

/-- A name whose record is not the idle default has a record in the table. -/
theorem get?_of_getD_ne {t : Table} {name : String} (h : t.getD name ≠ {}) :
    t.get? name = some (t.getD name) := by
  unfold getD at *
  cases hg : t.get? name <;> simp_all

end Table

end Tftp
