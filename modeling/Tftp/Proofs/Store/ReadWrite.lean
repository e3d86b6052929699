import Tftp.Store.Volume
import Mathlib

/-!
# Reading back what was written

A volume reads a path back as the bytes last written to it. `readFile_eq_ok` says when a read
succeeds and what it gives, `writeFile_eq_ok` what a successful write changes, and
`readFile_writeFile` puts the two together. A write never replaces a directory, so every path
resolves after it as before (`KeepsDirs`), and a file that could be read can still be written.

This rests on one invariant: every file entry names an inode the volume holds
(`InodesInRange`). Volumes built from fixtures have it, and writes keep it.

Removing a file unbinds only its own location, so its path then leads nowhere
(`contains_of_removeFile`).
-/

theorem Except.bind_eq_ok {ε α β : Type} {x : Except ε α} {f : α → Except ε β} {b : β} :
    x >>= f = .ok b ↔ ∃ a, x = .ok a ∧ f a = .ok b := by
  cases x <;> simp [Bind.bind, Except.bind]

namespace Tftp.Volume

/-! ## Rebinding a location -/

theorem lookup_map_rebind (entries : List (Location × Entry)) (loc : Location) (e : Entry)
    (l : Location) :
    (entries.map fun p => if p.1 == loc then (loc, e) else p).lookup l =
      if l = loc then (if entries.any (·.1 == loc) then some e else none)
      else entries.lookup l := by
  induction entries with
  | nil => split <;> rfl
  | cons p entries ih =>
    obtain ⟨k, x⟩ := p
    rw [List.map_cons, List.any_cons]
    by_cases hk : k = loc
    · subst hk
      by_cases hl : l = k
      · simp [hl]
      · have hlk : (l == k) = false := beq_false_of_ne hl
        simp only [beq_self_eq_true, if_true, List.lookup_cons, hlk, if_neg hl, ih]
    · have hkl : (k == loc) = false := beq_false_of_ne hk
      simp only [hkl, Bool.false_eq_true, if_false, Bool.false_or, List.lookup_cons]
      by_cases hl : l = k
      · subst hl
        simp [hk]
      · simp only [beq_false_of_ne hl, ih]

theorem lookup_bind (entries : List (Location × Entry)) (loc : Location) (e : Entry)
    (l : Location) :
    (bind entries loc e).lookup l = if l = loc then some e else entries.lookup l := by
  unfold bind
  split
  · rename_i hany
    rw [lookup_map_rebind]
    split <;> simp_all
  · rename_i hany
    rw [List.lookup_append]
    by_cases hl : l = loc
    · subst hl
      have : entries.lookup l = none := by
        rw [List.lookup_eq_none_iff]
        intro p hp
        have hp' : p.1 ≠ l := fun h => hany (List.any_eq_true.2 ⟨p, hp, by simp [h]⟩)
        exact bne_iff_ne.2 (Ne.symm hp')
      simp [this]
    · cases h : entries.lookup l <;> simp [hl]

/-! ## Keeping directories -/

/-- Every location `v` finds a directory at, `v'` finds one at too. -/
def KeepsDirs (v v' : Volume) : Prop :=
  ∀ l, v.find l = .ok (some .directory) → v'.find l = .ok (some .directory)

theorem walk_of_keepsDirs {v v' : Volume} (h : KeepsDirs v v') {dir : Location}
    {cs : List String} {d : Location} (hw : v.walk dir cs = .ok d) : v'.walk dir cs = .ok d := by
  induction cs generalizing dir with
  | nil => exact hw
  | cons c cs ih =>
    by_cases hc : isDots c = true
    · rw [walk, if_pos hc] at hw ⊢
      exact ih hw
    · rw [walk, if_neg hc] at hw ⊢
      split at hw
      · cases hw
      · rename_i hfind
        rw [h _ hfind]
        exact ih hw
      · cases hw
      · cases hw

theorem resolve_of_keepsDirs {v v' : Volume} (h : KeepsDirs v v')
    (hroot : v'.rootLength = v.rootLength) {p : String} {r : Last × Bool}
    (hr : v.resolve p = .ok r) : v'.resolve p = .ok r := by
  have hfull : v'.fullLength p = v.fullLength p := by simp only [fullLength, hroot]
  unfold resolve at hr ⊢
  rw [hfull]
  simp only at hr ⊢
  split at hr
  · cases hr
  rw [if_neg ‹_›]
  split at hr
  · cases hr
  rw [if_neg ‹_›]
  generalize splitPath p = sp at hr ⊢
  obtain ⟨cs, slash⟩ := sp
  generalize (if p.startsWith "/" = true then Location.system else []) = start at hr ⊢
  cases hlast : cs.getLast? with
  | none =>
    simp only [hlast] at hr ⊢
    exact hr
  | some last =>
    simp only [hlast] at hr ⊢
    cases hw : v.walk start cs.dropLast with
    | error e => rw [hw] at hr; cases hr
    | ok dir =>
      rw [hw] at hr
      rw [walk_of_keepsDirs h hw]
      exact hr

/-! ## Contents -/

/-- Every file entry names an inode the volume holds. -/
def InodesInRange (v : Volume) : Prop :=
  ∀ l n, v.entries.lookup l = some (.file n) → n < v.contents.size

@[simp] theorem size_setContent (v : Volume) (n : Nat) (d : List UInt8) :
    (v.setContent n d).contents.size = v.contents.size := by
  simp [setContent]

theorem content_setContent_self {v : Volume} {n : Nat} (h : n < v.contents.size) (d : List UInt8) :
    (v.setContent n d).content n = d := by
  simp [setContent, content, Array.getD_eq_getD_getElem?, Array.set!_eq_setIfInBounds, h]

@[simp] theorem overwrite_nil (d : List UInt8) : overwrite [] 0 d = d := by
  simp [overwrite]

/-! ## Reading files -/

theorem find_of_lookup {v v' : Volume} {l : Location} (h : v'.entries.lookup l = v.entries.lookup l) :
    v'.find l = v.find l := by
  simp only [find, h]

/-- A location where something other than a directory is found is an entry name: any volume
finds there what its entries bind it to. -/
theorem find_of_find_ne_directory {v : Volume} {l : Location} {o : Option Entry}
    (h : v.find l = .ok o) (ho : o ≠ some .directory) (v' : Volume) :
    v'.find l = .ok (v'.entries.lookup l) := by
  unfold find at h ⊢
  split at h
  · cases h
    exact absurd rfl ho
  · rename_i hbase
    split at h
    · cases h
    · rw [if_neg hbase, if_neg ‹_›]

theorem find_of_find_none {v : Volume} {l : Location} (h : v.find l = .ok none) (v' : Volume) :
    v'.find l = .ok (v'.entries.lookup l) :=
  find_of_find_ne_directory h (by simp) v'

/-- Reading a file succeeds exactly at a path to a file, without a trailing slash, and gives its
inode's contents. -/
theorem readFile_eq_ok {v : Volume} {p : String} {x : List UInt8} :
    v.readFile p = .ok x ↔
      ∃ loc n, v.resolve p = .ok (.name loc, false) ∧ v.find loc = .ok (some (.file n)) ∧
        x = v.content n := by
  constructor
  · intro h
    obtain ⟨f, hopen, h⟩ := Except.bind_eq_ok.1 h
    obtain ⟨⟨f', data⟩, hread, h⟩ := Except.bind_eq_ok.1 h
    cases h
    obtain ⟨r, hres, hopen⟩ := Except.bind_eq_ok.1 hopen
    obtain ⟨last, slash⟩ := r
    -- every other way the path can end gives an error, or a directory that cannot be read
    cases last with
    | dots dir => cases hopen; cases hread
    | name loc =>
      obtain ⟨o, hfind, hopen⟩ := Except.bind_eq_ok.1 hopen
      rcases o with _ | _ | _
      · cases hopen
      · rename_i n
        cases slash with
        | true => cases hopen
        | false =>
          cases hopen
          cases hread
          exact ⟨loc, n, hres, hfind, by simp⟩
      · cases hopen; cases hread
  · rintro ⟨loc, n, hres, hfind, rfl⟩
    unfold readFile openRead
    rw [hres]
    simp only [Bind.bind, Except.bind]
    rw [hfind]
    simp [pure, Except.pure, readToEnd]

/-! ## Writing files -/

/-- Creating a file succeeds only at a path to a file or to nothing, without a trailing slash: an
existing file is emptied in place, and a new name is bound to a fresh empty inode. -/
theorem create_eq_ok {v v₁ : Volume} {p : String} {f : OpenFile} (h : v.create p = .ok (v₁, f)) :
    ∃ loc n, v.resolve p = .ok (.name loc, false) ∧
      f = { target := .inode n, access := .writeOnly } ∧
      (v.find loc = .ok (some (.file n)) ∧ v₁ = v.setContent n [] ∨
        v.find loc = .ok none ∧ n = v.contents.size ∧
          v₁ = { v with contents := v.contents.push [], entries := bind v.entries loc (.file n) }) := by
  obtain ⟨r, hres, h⟩ := Except.bind_eq_ok.1 h
  obtain ⟨last, slash⟩ := r
  cases last with
  | dots dir => cases h
  | name loc =>
    cases slash with
    | true => cases h
    | false =>
      obtain ⟨o, hfind, h⟩ := Except.bind_eq_ok.1 h
      rcases o with _ | _ | _
      · cases h
        exact ⟨loc, _, hres, rfl, .inr ⟨hfind, rfl, rfl⟩⟩
      · cases h
        exact ⟨loc, _, hres, rfl, .inl ⟨hfind, rfl⟩⟩
      · cases h

theorem lookup_of_find_file {v : Volume} {l : Location} {n : Nat}
    (h : v.find l = .ok (some (.file n))) : v.entries.lookup l = some (.file n) := by
  unfold find at h
  split at h
  · cases h
  · split at h
    · cases h
    · simpa using h

theorem InodesInRange.lt_of_find {v : Volume} (hw : v.InodesInRange) {l : Location} {n : Nat}
    (h : v.find l = .ok (some (.file n))) : n < v.contents.size :=
  hw l n (lookup_of_find_file h)

theorem write_inode (v : Volume) (n : Nat) (d : List UInt8) :
    v.write { target := .inode n, access := .writeOnly } d =
      .ok (v.setContent n (overwrite (v.content n) 0 d),
        { target := .inode n, access := .writeOnly, pos := d.length }) := by
  simp [write]

/-- What a successful write did: the path led to a file or to nothing, that location now holds a
file whose inode has the data, and every other location holds what it held. -/
theorem writeFile_eq_ok {v v' : Volume} {p : String} {d : List UInt8} (hw : v.InodesInRange)
    (h : v.writeFile p d = .ok v') :
    ∃ loc n, v.resolve p = .ok (.name loc, false) ∧
      (v.find loc = .ok none ∨ ∃ m, v.find loc = .ok (some (.file m))) ∧
      v'.rootLength = v.rootLength ∧
      (∀ l, v'.find l = if l = loc then .ok (some (.file n)) else v.find l) ∧
      v'.content n = d ∧ v'.InodesInRange := by
  obtain ⟨⟨v₁, f⟩, hcreate, h⟩ := Except.bind_eq_ok.1 h
  obtain ⟨⟨v₂, f'⟩, hwrite, h⟩ := Except.bind_eq_ok.1 h
  cases h
  obtain ⟨loc, n, hres, rfl, hcase⟩ := create_eq_ok hcreate
  rw [write_inode] at hwrite
  cases hwrite
  refine ⟨loc, n, hres, ?_⟩
  rcases hcase with ⟨hfind, rfl⟩ | ⟨hfind, rfl, hv₁⟩
  · -- an existing file is emptied and written in place: no entry changes
    have hn := hw.lt_of_find hfind
    refine ⟨.inr ⟨n, hfind⟩, rfl, fun l => ?_, ?_, ?_⟩
    · rw [find_of_lookup rfl]
      split
      · subst_vars; exact hfind
      · rfl
    · rw [content_setContent_self hn, overwrite_nil, content_setContent_self (by simpa using hn)]
    · intro l m hl
      simpa using hw l m hl
  · -- a new name is bound to the next inode
    have hempty : v₁.content v.contents.size = [] := by simp [hv₁, content]
    refine ⟨.inl hfind, by simp [hv₁, setContent], fun l => ?_, ?_, ?_⟩
    · split
      · subst_vars
        rw [find_of_find_none hfind]
        simp [setContent, lookup_bind]
      · rename_i hl
        rw [find_of_lookup]
        simp [hv₁, setContent, lookup_bind, hl]
    · rw [hempty, overwrite_nil, content_setContent_self (by simp [hv₁])]
    · intro l m hl
      simp only [hv₁, setContent, lookup_bind] at hl
      split at hl
      · cases hl; simp [hv₁]
      · have := hw l m hl
        simp [hv₁]; omega

theorem keepsDirs_of_writeFile {v v' : Volume} {p : String} {d : List UInt8}
    (hw : v.InodesInRange) (h : v.writeFile p d = .ok v') : KeepsDirs v v' := by
  obtain ⟨loc, n, -, hprev, -, hfind, -⟩ := writeFile_eq_ok hw h
  intro l hl
  rw [hfind]
  split
  · -- the written location held a file or nothing, never a directory
    subst_vars
    rcases hprev with hprev | ⟨m, hprev⟩ <;> simp [hprev] at hl
  · exact hl

theorem resolve_of_writeFile {v v' : Volume} {p q : String} {d : List UInt8} {r : Last × Bool}
    (hw : v.InodesInRange) (h : v.writeFile p d = .ok v') (hq : v.resolve q = .ok r) :
    v'.resolve q = .ok r := by
  obtain ⟨-, -, -, -, hroot, -⟩ := writeFile_eq_ok hw h
  exact resolve_of_keepsDirs (keepsDirs_of_writeFile hw h) hroot hq

/-- Read after write: the path of a successful write reads back the bytes written. -/
theorem readFile_writeFile {v v' : Volume} {p : String} {d : List UInt8} (hw : v.InodesInRange)
    (h : v.writeFile p d = .ok v') : v'.readFile p = .ok d := by
  obtain ⟨loc, n, hres, -, -, hfind, hcontent, -⟩ := writeFile_eq_ok hw h
  exact readFile_eq_ok.2 ⟨loc, n, resolve_of_writeFile hw h hres, by simp [hfind], hcontent.symm⟩

theorem inodesInRange_writeFile {v v' : Volume} {p : String} {d : List UInt8}
    (hw : v.InodesInRange) (h : v.writeFile p d = .ok v') : v'.InodesInRange := by
  obtain ⟨-, -, -, -, -, -, -, hw'⟩ := writeFile_eq_ok hw h
  exact hw'

/-- A write succeeds at a path to a file or to nothing in an existing directory. -/
theorem writeFile_ok {v : Volume} {p : String} {loc : Location}
    (hres : v.resolve p = .ok (.name loc, false))
    (hfind : v.find loc = .ok none ∨ ∃ m, v.find loc = .ok (some (.file m))) (d : List UInt8) :
    ∃ v', v.writeFile p d = .ok v' := by
  unfold writeFile create
  rw [hres]
  simp only [Bind.bind, Except.bind]
  rcases hfind with hfind | ⟨m, hfind⟩ <;>
    simp [hfind, pure, Except.pure, allocate, write_inode]

/-- A file that could be read before a write can still be written after it: the write left a file
at its location, possibly another one. -/
theorem writeFile_ok_of_readFile {v v' : Volume} {p q : String} {d x : List UInt8}
    (hw : v.InodesInRange) (h : v.writeFile p d = .ok v') (hq : v.readFile q = .ok x)
    (y : List UInt8) : ∃ v'', v'.writeFile q y = .ok v'' := by
  obtain ⟨locq, m, hresq, hfindq, -⟩ := readFile_eq_ok.1 hq
  obtain ⟨loc, n, -, -, -, hfind, -⟩ := writeFile_eq_ok hw h
  refine writeFile_ok (resolve_of_writeFile hw h hresq) (.inr ?_) y
  rw [hfind]
  split
  · exact ⟨n, rfl⟩
  · exact ⟨m, hfindq⟩

/-! ## Volumes the store starts from -/

theorem inodesInRange_makeDirectory {v v' : Volume} {p : String} (hw : v.InodesInRange)
    (h : v.makeDirectory p = .ok v') : v'.InodesInRange := by
  obtain ⟨⟨last, slash⟩, -, h⟩ := Except.bind_eq_ok.1 h
  cases last with
  | dots dir => cases h
  | name loc =>
    obtain ⟨o, -, h⟩ := Except.bind_eq_ok.1 h
    cases o with
    | some e => cases h
    | none =>
      cases h
      intro l m hl
      simp only [lookup_bind] at hl
      split at hl
      · cases hl
      · exact hw l m hl

theorem inodesInRange_makeDirectories {v : Volume} (hw : v.InodesInRange) (p : String) :
    (v.makeDirectories p).InodesInRange := by
  unfold makeDirectories
  generalize splitPath p = sp
  obtain ⟨cs, slash⟩ := sp
  -- each step keeps the volume, or replaces it by the result of a successful makeDirectory
  refine List.foldlRecOn _ _ hw fun v hv i _ => ?_
  cases hd : v.makeDirectory ("/".intercalate (cs.take (i + 1))) with
  | error e => simpa [hd, Except.toOption] using hv
  | ok v' => simpa [hd, Except.toOption] using inodesInRange_makeDirectory hv hd

/-- Every volume built from fixtures has its file entries within its inodes. -/
theorem inodesInRange_ofFixtures (rootLength : Nat) (files : List (String × List UInt8))
    (dirs : List String) : (ofFixtures rootLength files dirs).InodesInRange := by
  unfold ofFixtures
  refine List.foldlRecOn _ _ ?_ fun v hv d _ => inodesInRange_makeDirectories hv d
  -- each file is written, or left out when the write fails
  have hempty : ({ rootLength } : Volume).InodesInRange := by
    intro l n hl
    cases hl
  refine List.foldlRecOn _ _ hempty fun v hv f _ => ?_
  obtain ⟨path, data⟩ := f
  cases hd : v.writeFile path data with
  | error e => simpa [hd, Except.toOption] using hv
  | ok v' => simpa [hd, Except.toOption] using inodesInRange_writeFile hv hd

/-! ## Removing files -/

theorem lookup_filter_self (loc : Location) (entries : List (Location × Entry)) :
    (entries.filter (·.1 != loc)).lookup loc = none := by
  rw [List.lookup_eq_none_iff]
  intro p hp
  have hne : p.1 ≠ loc := bne_iff_ne.mp (List.mem_filter.mp hp).2
  exact bne_iff_ne.mpr (Ne.symm hne)

theorem lookup_filter_of_ne {loc l : Location} (h : l ≠ loc) (entries : List (Location × Entry)) :
    (entries.filter (·.1 != loc)).lookup l = entries.lookup l := by
  induction entries with
  | nil => rfl
  | cons p entries ih =>
    obtain ⟨k, e⟩ := p
    by_cases hk : k = loc
    · subst hk
      have hl : (l == k) = false := beq_false_of_ne h
      simp only [List.filter_cons, bne_self_eq_false, Bool.false_eq_true, if_false,
        List.lookup_cons, hl, ih]
    · have hk' : (k != loc) = true := bne_iff_ne.mpr hk
      simp only [List.filter_cons, hk', if_true, List.lookup_cons, ih]

/-- Removing a file succeeds only at a path to a file, without a trailing slash, and unbinds
its location. -/
theorem removeFile_eq_ok {v v' : Volume} {p : String} (h : v.removeFile p = .ok v') :
    ∃ loc n, v.resolve p = .ok (.name loc, false) ∧ v.find loc = .ok (some (.file n)) ∧
      v' = { v with entries := v.entries.filter (·.1 != loc) } := by
  obtain ⟨r, hres, h⟩ := Except.bind_eq_ok.1 h
  obtain ⟨last, slash⟩ := r
  cases last with
  | dots dir => cases h
  | name loc =>
    obtain ⟨o, hfind, h⟩ := Except.bind_eq_ok.1 h
    rcases o with _ | _ | _
    · cases h
    · cases slash with
      | true => cases h
      | false =>
        cases h
        exact ⟨loc, _, hres, hfind, rfl⟩
    · cases h

/-- After a file is removed, its path leads nowhere. -/
theorem contains_of_removeFile {v v' : Volume} {p : String} (h : v.removeFile p = .ok v') :
    v'.contains p = false := by
  obtain ⟨loc, n, hres, hfind, rfl⟩ := removeFile_eq_ok h
  -- only the file's own entry goes, so every directory on the way stays
  have hkeep : KeepsDirs v { v with entries := v.entries.filter (·.1 != loc) } := by
    intro l hl
    have hne : l ≠ loc := by
      rintro rfl
      rw [hfind] at hl
      cases hl
    rw [find_of_lookup (lookup_filter_of_ne hne v.entries)]
    exact hl
  unfold contains
  rw [resolve_of_keepsDirs hkeep rfl hres]
  simp only
  rw [find_of_find_ne_directory hfind (by simp), lookup_filter_self]

end Tftp.Volume
