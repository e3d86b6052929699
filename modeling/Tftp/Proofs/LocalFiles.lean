import Tftp.Proofs.Release.Client
import Tftp.Proofs.Store.Refusals
import Tftp.Proofs.Store.Names
import Tftp.Proofs.Huffman.Depth
import Mathlib

/-!
# What a client call does to its local files

A read, write or delete of a client touches two entries of its root at most: the file `name` and
its compressed twin `name.cmp`. Every other location holds, once the call is over, what it held
before, whatever the server and the network did (`call_keeps_local_files`). The file `name` is
only created, by a read that succeeds, where nothing was. The twin is a temporary: a read that
decompresses receives into it and removes it, and a write that compresses writes it and removes
it. A read creates it only where nothing was, through the arbiter; a write writes it with a plain
write of the volume, so a twin that was there before the write is emptied, overwritten and then
removed (`compressed_write_removes_stale_twin`).

What a location holds is read off the volume by `Volume.held`. The volumes are those that give
each file an inode of its own (`Volume.InodesInRange`, `Volume.Unshared`), as every volume built
from fixtures does, and the call starts with no file of the client held. While the call waits for
the server its files are those of the start but for the one entry it works on (`Volume.Rebinds`),
which the call's stage records (`Client.StageFrame`); every step of the call keeps that
(`Client.step_frame`), so every run of a call ends settled (`Client.frame_of_run`).
-/

namespace Tftp

open Tftp.Net NetM

namespace Volume

/-- What an entry holds: a file its bytes, a directory nothing. -/
def bytesOf (v : Volume) : Entry → Option (List UInt8)
  | .file n => some (v.content n)
  | .directory => none

/-- What a location holds: nothing, a directory (`some none`), or a file and its bytes. -/
def held (v : Volume) (loc : Location) : Option (Option (List UInt8)) :=
  (v.entries.lookup loc).map v.bytesOf

/-- No inode is held by two locations: every file has bytes of its own. -/
def Unshared (v : Volume) : Prop :=
  ∀ l l' n, v.entries.lookup l = some (.file n) → v.entries.lookup l' = some (.file n) → l = l'

variable {v v' v₀ : Volume} {loc l : Location} {k : Nat}

theorem held_eq (hl : v'.entries.lookup l = v.entries.lookup l)
    (hc : ∀ n, v.entries.lookup l = some (.file n) → v'.content n = v.content n) :
    v'.held l = v.held l := by
  unfold held
  rw [hl]
  cases h : v.entries.lookup l with
  | none => rfl
  | some e =>
    cases e with
    | file n => simp [bytesOf, hc n h]
    | directory => rfl

theorem held_filter_self (v : Volume) (loc : Location) :
    ({ v with entries := v.entries.filter (·.1 != loc) } : Volume).held loc = none := by
  simp [held, lookup_filter_self]

theorem held_filter_of_ne (v : Volume) (h : l ≠ loc) :
    ({ v with entries := v.entries.filter (·.1 != loc) } : Volume).held l = v.held l :=
  held_eq (lookup_filter_of_ne h v.entries) fun _ _ => rfl

theorem content_setContent_of_ne {n j : Nat} (h : j ≠ n) (d : List UInt8) :
    (v.setContent n d).content j = v.content j := by
  simp [setContent, content, Array.getD_eq_getD_getElem?, Array.set!_eq_setIfInBounds, Ne.symm h]

theorem content_push_of_ne {j : Nat} (h : j ≠ v.contents.size) (d : List UInt8) :
    ({ v with contents := v.contents.push d } : Volume).content j = v.content j := by
  simp [content, Array.getD_eq_getD_getElem?, Array.getElem?_push, h]

theorem inodesInRange_bind_fresh (hin : v.InodesInRange) (loc : Location) (d : List UInt8) :
    ({ v with
        contents := v.contents.push d
        entries := bind v.entries loc (.file v.contents.size) } : Volume).InodesInRange := by
  intro l n hl
  simp only [lookup_bind] at hl
  split at hl
  · cases hl
    simp
  · have := hin l n hl
    simp only [Array.size_push]
    omega

theorem InodesInRange.setContent (hin : v.InodesInRange) (n : Nat) (d : List UInt8) :
    (v.setContent n d).InodesInRange := by
  intro l m hl
  rw [size_setContent]
  exact hin l m hl

/-! ## One location rebound -/

/-- `v` is `v₀` with the location `loc` bound to a file of inode `k`, an inode that no other
location of `v₀` holds: every other location holds in `v` what it holds in `v₀`. -/
structure Rebinds (v₀ v : Volume) (loc : Location) (k : Nat) : Prop where
  bound : v.entries.lookup loc = some (.file k)
  others : ∀ l, l ≠ loc → v.entries.lookup l = v₀.entries.lookup l
  own : ∀ l, l ≠ loc → v₀.entries.lookup l ≠ some (.file k)
  contents : ∀ j, j ≠ k → v.content j = v₀.content j
  rootLength : v.rootLength = v₀.rootLength

namespace Rebinds

theorem held (h : v₀.Rebinds v loc k) (hl : l ≠ loc) : v.held l = v₀.held l :=
  held_eq (h.others l hl) fun n hn => h.contents n fun hk => h.own l hl (hk ▸ hn)

theorem setContent (h : v₀.Rebinds v loc k) (d : List UInt8) :
    v₀.Rebinds (v.setContent k d) loc k where
  bound := h.bound
  others := h.others
  own := h.own
  contents j hj := (content_setContent_of_ne hj d).trans (h.contents j hj)
  rootLength := h.rootLength

/-- Unbinding the location again leaves nothing there and what `v₀` holds everywhere else. -/
theorem held_unbind (h : v₀.Rebinds v loc k) (l : Location) :
    ({ v with entries := v.entries.filter (·.1 != loc) } : Volume).held l =
      if l = loc then none else v₀.held l := by
  split
  · subst_vars
    exact held_filter_self v l
  · rename_i hl
    rw [held_filter_of_ne v hl, h.held hl]

end Rebinds

/-- A location with no entry bound to a fresh inode. -/
theorem rebinds_fresh (hin : v.InodesInRange) (loc : Location) (d : List UInt8) :
    v.Rebinds
      { v with
        contents := v.contents.push d
        entries := bind v.entries loc (.file v.contents.size) } loc v.contents.size where
  bound := by simp [lookup_bind]
  others l hl' := by simp [lookup_bind, hl']
  own l _ hfile := by
    have := hin l _ hfile
    omega
  contents j hj := content_push_of_ne hj d
  rootLength := rfl

/-- A file's own inode written in place, the inode being held by no other location. -/
theorem rebinds_overwrite (hun : v.Unshared) (hl : v.entries.lookup loc = some (.file k))
    (d : List UInt8) : v.Rebinds (v.setContent k d) loc k where
  bound := hl
  others _ _ := rfl
  own l hne hfile := hne (hun l loc k hfile hl)
  contents _ hj := content_setContent_of_ne hj d
  rootLength := rfl

/-- A successful write rebinds the location its path leads to. -/
theorem rebinds_of_writeFile {p : String} {d : List UInt8} (hin : v.InodesInRange)
    (hun : v.Unshared) (hw : v.writeFile p d = .ok v') :
    ∃ loc k, v.resolve p = .ok (.name loc, false) ∧ v.Rebinds v' loc k ∧ v'.InodesInRange := by
  have hin' := inodesInRange_writeFile hin hw
  obtain ⟨⟨v₁, f⟩, hcreate, h⟩ := Except.bind_eq_ok.1 hw
  obtain ⟨⟨v₂, f'⟩, hwrite, h⟩ := Except.bind_eq_ok.1 h
  cases h
  obtain ⟨loc, n, hres, rfl, hcase⟩ := create_eq_ok hcreate
  rw [write_inode] at hwrite
  cases hwrite
  refine ⟨loc, n, hres, ?_, hin'⟩
  rcases hcase with ⟨hfind, rfl⟩ | ⟨hfind, rfl, rfl⟩
  · -- an existing file is emptied and written in place
    exact (rebinds_overwrite hun (lookup_of_find_file hfind) []).setContent _
  · -- a new name is bound to the next inode
    exact (rebinds_fresh hin loc []).setContent _

/-- Writing an accepted name that fits under the root and has no entry binds it to a new inode
holding the data. -/
theorem writeFile_fresh {x : String} (hv : checkFileName x = .ok ()) (hfit : v.fullLength x < pathMax)
    (hl : v.entries.lookup [x] = none) (d : List UInt8) :
    v.writeFile x d = .ok { v with
      contents := v.contents.push d
      entries := bind v.entries [x] (.file v.contents.size) } := by
  unfold writeFile create
  rw [resolve_fileName_of_fits hv hfit]
  simp only [Bind.bind, Except.bind]
  rw [find_fileName hv, hl]
  -- the new inode is made empty and then written
  simp [pure, Except.pure, allocate, write_inode, setContent, content, ← Array.append_singleton]

/-! ## Names at a root of any length -/

/-- A single component that is neither `.` nor `..` names the entry of the root it is joined to,
unless the whole path is too long. -/
theorem resolve_of_component {x : String} (hn : x ≠ "") (hs : '/' ∉ x.toList)
    (hz : '\x00' ∉ x.toList) (hd : isDots x = false) :
    v.resolve x =
      if pathMax ≤ v.fullLength x then .error .nameTooLong else .ok (.name [x], false) := by
  have hslash : x.startsWith "/" = false := by
    rw [String.startsWith_string_eq_false_iff]
    intro hp
    exact hs (hp.subset (by simp))
  unfold resolve
  simp only [String.contains_char_eq, hz, decide_false, Bool.false_eq_true, if_false, ge_iff_le,
    hslash, splitPath_of_component hn hs, List.getLast?_singleton, List.dropLast_singleton, hd]
  split_ifs <;> rfl

/-- A name looked up in the root is at most a directory entry long. -/
theorem byteLength_le_of_find {x : String} {o : Option Entry} (h : v.find [x] = .ok o)
    (hbase : Location.isBase [x] = false) : Utf8.byteLength x ≤ nameMax := by
  unfold find at h
  rw [if_neg (by simp [hbase])] at h
  split at h
  · cases h
  · rename_i hlong
    simpa using hlong

section
variable {x : String} (hv : checkFileName x = .ok ())
include hv

/-- An accepted name exists when the root's path leaves room for it and the root has an
entry for it. -/
theorem contains_accepted :
    v.contains x = (decide (v.fullLength x < pathMax) && (v.entries.lookup [x]).isSome) := by
  by_cases hfit : v.fullLength x < pathMax
  · unfold contains
    rw [resolve_fileName_of_fits hv hfit]
    simp only
    rw [find_fileName hv]
    rcases v.entries.lookup [x] with _ | _ | _ <;> simp [hfit]
  · unfold contains
    rw [resolve_fileName_of_overlong hv (by omega)]
    simp [hfit]

theorem removeFile_accepted {i : Nat} (hfit : v.fullLength x < pathMax)
    (hl : v.entries.lookup [x] = some (.file i)) :
    v.removeFile x = .ok { v with entries := v.entries.filter (·.1 != [x]) } := by
  rw [removeFile, resolve_fileName_of_fits hv hfit]
  simp only [Bind.bind, Except.bind]
  rw [find_fileName hv, hl]
  rfl

end

/-- Removing what a path does not lead to fails. -/
theorem removeFile_of_contains_eq_false {p : String} (h : v.contains p = false) :
    ∃ e, v.removeFile p = .error e := by
  unfold contains at h
  unfold removeFile
  cases hres : v.resolve p with
  | error e => exact ⟨e, rfl⟩
  | ok r =>
    obtain ⟨last, slash⟩ := r
    rw [hres] at h
    cases last with
    | dots dir => cases h
    | name loc =>
      simp only [Bind.bind, Except.bind]
      simp only at h
      cases hf : v.find loc with
      | error e => exact ⟨e, rfl⟩
      | ok o =>
        rw [hf] at h
        rcases o with _ | _ | _
        · exact ⟨_, rfl⟩
        · cases slash with
          | true => exact ⟨_, rfl⟩
          | false => cases h
        · cases h

/-- Writing through an open file changes its inode alone, and the file stays on it. -/
theorem write_eq_ok {f f' : OpenFile} {d : List UInt8} (hk : f.target = .inode k)
    (h : v.write f d = .ok (v', f')) : (∃ d', v' = v.setContent k d') ∧ f'.target = .inode k := by
  unfold write at h
  rw [hk] at h
  cases hacc : f.access <;> rw [hacc] at h
  · cases h
  · simp only [Except.ok.injEq, Prod.mk.injEq] at h
    obtain ⟨rfl, rfl⟩ := h
    exact ⟨⟨_, rfl⟩, rfl⟩

/-- Whether an accepted name exists depends only on what its entry holds and on the root's path. -/
theorem contains_eq_of_held {x : String} (hv : checkFileName x = .ok ())
    (hroot : v'.rootLength = v.rootLength) (hheld : v'.held [x] = v.held [x]) :
    v'.contains x = v.contains x := by
  have hsome : (v'.entries.lookup [x]).isSome = (v.entries.lookup [x]).isSome := by
    simpa [held] using congrArg Option.isSome hheld
  have hfull : v'.fullLength x = v.fullLength x := by simp only [fullLength, hroot]
  rw [contains_accepted hv, contains_accepted hv, hsome, hfull]

end Volume

/-! ## The compressed twin of a name -/

theorem toList_compressedName (name : String) :
    (compressedName name).toList = name.toList ++ ['.', 'c', 'm', 'p'] := by
  simp [compressedName, compressedSuffix]

theorem length_compressedName (name : String) : (compressedName name).length = name.length + 4 := by
  simp [← String.length_toList, toList_compressedName]

theorem compressedName_ne_of_length {name t : String} (ht : t.length < 4) :
    compressedName name ≠ t := by
  intro h
  have := length_compressedName name
  rw [h] at this
  omega

theorem compressedName_ne (name : String) : compressedName name ≠ name := by
  intro h
  have := length_compressedName name
  rw [h] at this
  omega

theorem stripCompressedSuffix_compressedName (name : String) :
    stripCompressedSuffix? (compressedName name) = some name := by
  simp [stripCompressedSuffix?, toList_compressedName, compressedSuffix, List.isSuffixOf]

section
variable {name : String} (hv : checkFileName name = .ok ())
include hv

/-- The twin of an accepted name is one component, and not one the volume knows without an
entry. -/
theorem component_compressedName :
    compressedName name ≠ "" ∧ '/' ∉ (compressedName name).toList ∧
      '\x00' ∉ (compressedName name).toList ∧ isDots (compressedName name) = false ∧
      Location.isBase [compressedName name] = false := by
  obtain ⟨-, -, -, -, hs, hz⟩ := parts_of_checkFileName hv
  have hne {t : String} (ht : t.length < 4) : compressedName name ≠ t :=
    compressedName_ne_of_length ht
  refine ⟨hne (by decide), by simpa [toList_compressedName], by simpa [toList_compressedName],
    ?_, ?_⟩
  · simp only [isDots, beq_false_of_ne (hne (t := "") (by decide)),
      beq_false_of_ne (hne (t := ".") (by decide)), beq_false_of_ne (hne (t := "..") (by decide)),
      Bool.or_self]
  · simp [Location.isBase, Location.system, hne (t := "/") (by decide),
      hne (t := "..") (by decide)]

/-- The twin of an accepted name is accepted when it still fits a directory entry. -/
theorem checkFileName_compressedName
    (hlen : Utf8.byteLength (compressedName name) ≤ maxFileNameLength) :
    checkFileName (compressedName name) = .ok () := by
  obtain ⟨-, -, -, -, hs, hb, hc⟩ := (checkFileName_eq_ok_iff name).1 hv
  rw [Utf8.byteLength_eq_utf8ByteSize] at hlen
  refine (checkFileName_eq_ok_iff _).2 ⟨?_, compressedName_ne_of_length (by decide),
    compressedName_ne_of_length (by decide), hlen, ?_, ?_, ?_⟩
  · rw [Ne, Text.trim_eq_empty_iff, toList_compressedName]
    intro h
    exact absurd (h 'c' (by simp)) (by decide)
  · simpa [toList_compressedName] using hs
  · simpa [toList_compressedName] using hb
  · intro c hc'
    rw [toList_compressedName, List.mem_append] at hc'
    rcases hc' with hc' | hc'
    · exact hc c hc'
    · simp only [List.mem_cons, List.not_mem_nil, or_false] at hc'
      rcases hc' with rfl | rfl | rfl | rfl <;> decide

/-- A volume writes the twin of an accepted name only where the twin is accepted too and fits
under the root. -/
theorem accepted_of_writeFile_compressedName {v v' : Volume} {d : List UInt8}
    (hw : v.writeFile (compressedName name) d = .ok v') :
    checkFileName (compressedName name) = .ok () ∧
      v.fullLength (compressedName name) < Volume.pathMax := by
  obtain ⟨hne, hs, hz, hd, hbase⟩ := component_compressedName hv
  obtain ⟨⟨v₁, f⟩, hcreate, -⟩ := Except.bind_eq_ok.1 hw
  obtain ⟨loc, n, hres, -, hcase⟩ := Volume.create_eq_ok hcreate
  rw [Volume.resolve_of_component hne hs hz hd] at hres
  split at hres
  · cases hres
  · rename_i hfit
    cases hres
    -- the twin was looked up as an entry of the root, so it is no longer than an entry may be
    have hfind : ∃ o, v.find [compressedName name] = .ok o := by
      rcases hcase with ⟨hfind, -⟩ | ⟨hfind, -⟩
      · exact ⟨_, hfind⟩
      · exact ⟨_, hfind⟩
    obtain ⟨o, hfind⟩ := hfind
    exact ⟨checkFileName_compressedName hv (Volume.byteLength_le_of_find hfind hbase),
      by omega⟩

end

/-! ## The store's calls on the client's files -/

namespace Store

variable {s s' : Store} {x : String}

@[simp] theorem volume_openForRead (s : Store) (x : String) :
    (s.openForRead x).1.volume = s.volume := rfl

@[simp] theorem volume_closeRead (s : Store) (h : ReadHandle) :
    (s.closeRead h).1.volume = s.volume := by
  unfold closeRead
  split <;> rfl

@[simp] theorem volume_closeWrite (s : Store) (h : WriteHandle) :
    (s.closeWrite h).1.volume = s.volume := by
  unfold closeWrite
  split <;> rfl

theorem checkFileName_of_checkName (h : checkName x = .ok ()) : checkFileName x = .ok () := by
  unfold checkName at h
  split at h
  · assumption
  · cases h

/-- A granted write of a name creates its file where the root had no entry: the name is
accepted, fits under the root, and is bound to a fresh empty inode that the handle writes. -/
theorem openForWrite_eq_ok {h : WriteHandle} (hc : s.openForWrite x = (s', .ok h)) :
    checkFileName x = .ok () ∧ s.volume.fullLength x < Volume.pathMax ∧
      s.volume.entries.lookup [x] = none ∧
      s'.volume = { s.volume with
        contents := s.volume.contents.push []
        entries := Volume.bind s.volume.entries [x] (.file s.volume.contents.size) } ∧
      h.file.target = .inode s.volume.contents.size := by
  rcases ha : Arbiter.openForWrite s.table s.volume x with ⟨t₁, v₁, r₁⟩
  simp only [openForWrite, ha, Prod.mk.injEq] at hc
  obtain ⟨rfl, rfl⟩ := hc
  unfold Arbiter.openForWrite at ha
  split at ha
  · cases ha
  rename_i hname
  have hv := checkFileName_of_checkName hname
  split at ha
  · cases ha
  rename_i hfree
  split at ha
  · cases ha
  split at ha
  · rename_i v₂ f hcreate
    cases ha
    obtain ⟨loc, n, hres, rfl, hcase⟩ := Volume.create_eq_ok hcreate
    -- the name resolved, so it fits, and to the root's entry of that name
    have hfit : s.volume.fullLength x < Volume.pathMax := by
      by_contra hlong
      rw [Volume.resolve_fileName_of_overlong hv (by omega)] at hres
      cases hres
    rw [Volume.resolve_fileName_of_fits hv hfit] at hres
    cases hres
    rw [Volume.contains_accepted hv] at hfree
    rcases hcase with ⟨hfind, -⟩ | ⟨hfind, rfl, rfl⟩
    · -- an existing file would have made the name exist
      rw [Volume.find_fileName hv, Except.ok.injEq] at hfind
      simp [hfit, hfind] at hfree
    · rw [Volume.find_fileName hv, Except.ok.injEq] at hfind
      exact ⟨hv, hfit, hfind, rfl, rfl⟩
  · cases ha

/-- A delete of an accepted file nobody holds removes its entry. -/
theorem volume_tryDelete {i : Nat} (hv : checkFileName x = .ok ())
    (hfit : s.volume.fullLength x < Volume.pathMax)
    (hl : s.volume.entries.lookup [x] = some (.file i)) (hi : (s.table.getD x).isIdle = true) :
    (s.tryDelete x).1.volume = { s.volume with entries := s.volume.entries.filter (·.1 != [x]) } := by
  simp [tryDelete, Arbiter.tryDelete, checkName, hv, Volume.contains_accepted hv, hfit, hl,
    Table.claimWriter, hi, Volume.removeFile_accepted hv hfit hl]

/-- An abandoned upload of an accepted file removes its entry. -/
theorem volume_abandonWrite {h : WriteHandle} {i : Nat} (hv : checkFileName h.name = .ok ())
    (hfit : s.volume.fullLength h.name < Volume.pathMax)
    (hl : s.volume.entries.lookup [h.name] = some (.file i)) :
    (s.abandonWrite h).1.volume =
      { s.volume with entries := s.volume.entries.filter (·.1 != [h.name]) } := by
  simp [abandonWrite, Arbiter.abandonWrite, Volume.removeFile_accepted hv hfit hl]

end Store

/-! ## Compressed files -/

namespace Huffman

/-- Compressing a file writes its twin with a plain write of the volume. -/
theorem writeFile_of_compressFile {root name p : String} {v v' : Volume}
    (h : compressFile root v name = (v', .ok p)) :
    ∃ packed, v.writeFile (compressedName name) packed = .ok v' := by
  unfold compressFile at h
  dsimp only at h
  split at h
  · cases h
  · split at h
    · rename_i v₁ hw
      cases h
      exact ⟨_, hw⟩
    · cases h

/-- A file that reads, packs and whose twin can be written is compressed into the twin. -/
theorem compressFile_ok {root name : String} {v v' : Volume} {x packed : List UInt8}
    (hread : v.readFile name = .ok x) (hpack : compress x = .ok packed)
    (hw : v.writeFile (compressedName name) packed = .ok v') :
    compressFile root v name = (v', .ok (pathOf root (compressedName name))) := by
  unfold compressFile
  simp only [hread, ioResult, Bind.bind, Except.bind, hpack, hw]

/-- Restoring the twin of `name` writes `name`, or fails and leaves the volume as it was. -/
theorem decompressFile_compressedName {root name : String} {v v' : Volume}
    {r : Except CompressionError String}
    (h : decompressFile root v (compressedName name) = (v', r)) :
    (∃ e, r = .error e) ∧ v' = v ∨ (∃ p, r = .ok p) ∧ ∃ bytes, v.writeFile name bytes = .ok v' := by
  unfold decompressFile at h
  rw [stripCompressedSuffix_compressedName] at h
  dsimp only at h
  split at h
  · cases h
    exact .inl ⟨⟨_, rfl⟩, rfl⟩
  · split at h
    · rename_i v₁ hw
      cases h
      exact .inr ⟨⟨_, rfl⟩, _, hw⟩
    · cases h
      exact .inl ⟨⟨_, rfl⟩, rfl⟩

end Huffman

/-! ## The call's own files -/

theorem Volume.Rebinds.unshared {v₀ v : Volume} {loc : Location} {k : Nat}
    (h : v₀.Rebinds v loc k) (hun : v₀.Unshared) : v.Unshared := by
  intro l l' n hl hl'
  by_cases h₁ : l = loc <;> by_cases h₂ : l' = loc
  · rw [h₁, h₂]
  · subst h₁
    rw [h.bound, Option.some.injEq, Entry.file.injEq] at hl
    subst hl
    rw [h.others l' h₂] at hl'
    exact absurd hl' (h.own l' h₂)
  · subst h₂
    rw [h.bound, Option.some.injEq, Entry.file.injEq] at hl'
    subst hl'
    rw [h.others l h₁] at hl
    exact absurd hl (h.own l h₁)
  · rw [h.others l h₁] at hl
    rw [h.others l' h₂] at hl'
    exact hun l l' n hl hl'

namespace Volume

variable {v v' : Volume}

/-- A volume whose files are files of `v`, on the same inodes, holds each inode once where `v`
does. -/
theorem Unshared.of_files (hun : v.Unshared)
    (h : ∀ l k, v'.entries.lookup l = some (.file k) → v.entries.lookup l = some (.file k)) :
    v'.Unshared :=
  fun l l' k hl hl' => hun l l' k (h l k hl) (h l' k hl')

theorem unshared_makeDirectory {p : String} (hun : v.Unshared) (h : v.makeDirectory p = .ok v') :
    v'.Unshared := by
  obtain ⟨⟨last, slash⟩, -, h⟩ := Except.bind_eq_ok.1 h
  cases last with
  | dots dir => cases h
  | name loc =>
    obtain ⟨o, -, h⟩ := Except.bind_eq_ok.1 h
    cases o with
    | some e => cases h
    | none =>
      cases h
      -- the new entry is a directory; every file stays where it was
      refine hun.of_files fun l k hl => ?_
      simp only [lookup_bind] at hl
      split at hl
      · cases hl
      · exact hl

theorem unshared_makeDirectories (hun : v.Unshared) (p : String) : (v.makeDirectories p).Unshared := by
  unfold makeDirectories
  generalize splitPath p = sp
  obtain ⟨cs, slash⟩ := sp
  refine List.foldlRecOn _ _ hun fun v hv i _ => ?_
  cases hd : v.makeDirectory ("/".intercalate (cs.take (i + 1))) with
  | error e => simpa [hd, Except.toOption] using hv
  | ok v' => simpa [hd, Except.toOption] using unshared_makeDirectory hv hd

/-- Every volume built from fixtures gives each of its files an inode of its own. -/
theorem unshared_ofFixtures (rootLength : Nat) (files : List (String × List UInt8))
    (dirs : List String) : (ofFixtures rootLength files dirs).Unshared := by
  unfold ofFixtures
  refine List.foldlRecOn _ _ ?_ fun v hv d _ => unshared_makeDirectories hv d
  -- each write rebinds one location to an inode of its own, so the inodes stay in range too
  have hempty : ({ rootLength } : Volume).InodesInRange ∧ ({ rootLength } : Volume).Unshared :=
    ⟨fun _ _ hl => (by cases hl), fun _ _ _ hl _ => (by cases hl)⟩
  refine (List.foldlRecOn (motive := fun v : Volume => v.InodesInRange ∧ v.Unshared) _ _ hempty
    fun v hv f _ => ?_).2
  obtain ⟨path, data⟩ := f
  cases hd : v.writeFile path data with
  | error e => simpa [hd, Except.toOption] using hv
  | ok v' =>
    obtain ⟨_, _, -, hrebinds, hin'⟩ := rebinds_of_writeFile hv.1 hv.2 hd
    simpa [hd, Except.toOption] using And.intro hin' (hrebinds.unshared hv.2)

end Volume

theorem Table.accounts_of_isIdle {t : Table} (h : ∀ x, (t.getD x).isIdle = true) :
    t.Accounts (fun _ => 0) (fun _ => 0) := fun x => by
  rw [Record.eq_empty_of_isIdle (h x)]
  exact ⟨rfl, by simp, Nat.zero_le 1, fun _ => rfl⟩

/-! ## A network that reaches nobody -/

namespace Net

namespace Network

/-- Nothing is sent on a network that reaches nobody, and the network stays as it was. -/
theorem send_unreachable {n : Network} (hn : n.reachable = false) (src dst : SocketAddr)
    (payload : List UInt8) : ∃ e, n.send src dst payload = (n, .error e) := by
  unfold send
  split_ifs <;> simp_all

theorem reachable_bind {n n' : Network} {addr : SocketAddr} (h : n.bind addr = .ok n') :
    n'.reachable = n.reachable := by
  unfold bind at h
  split at h
  · cases h
  · cases h
    rfl

theorem reachable_bindEphemeral {n n' : Network} {ip : IpAddr} {addr : SocketAddr}
    (h : n.bindEphemeral ip = some (n', addr)) : n'.reachable = n.reachable := by
  unfold bindEphemeral at h
  generalize ephemeralTries = k at h
  generalize n.nextPort = port at h
  induction k generalizing port with
  | zero => simp [bindEphemeral.go] at h
  | succ k ih =>
    simp only [bindEphemeral.go] at h
    split at h
    · rename_i n₁ hb
      simp only [Option.some.injEq, Prod.mk.injEq] at h
      obtain ⟨rfl, rfl⟩ := h
      exact (reachable_bind hb : n₁.reachable = n.reachable)
    · exact ih _ h

end Network

end Net

/-- On a network that reaches nobody, no request goes out. -/
theorem Session.sendRequest_unreachable (s : Session) (p : Packet) {n : Network}
    (hn : n.reachable = false) :
    Ensures (s.sendRequest p : NetM _) n fun r _ => ∃ e, r = .error e := by
  unfold Ensures
  cases hb : p.toBytes with
  | error e =>
    rw [s.sendRequest_run_codec hb]
    exact ⟨_, rfl⟩
  | ok bytes =>
    -- the network refuses the send, so the session reports a transport error
    obtain ⟨e, he⟩ := Network.send_unreachable hn s.socket s.peer.addr bytes
    have ht : (Host.transmit s.socket s.peer.addr bytes : NetM _).run n = (.error e, n) := by
      rw [NetM.run_transmit, he]
    rw [s.sendRequest_run_of hb (s.transmitBytes_run_error ht)]
    exact ⟨_, rfl⟩

namespace Client

variable {v₀ : Volume} {compress : Bool} {op : Operation} {name : String}

/-- What a call of `op` on `name` leaves of the files `v₀` it started from, once it is over
with `result`: every location but those of `name` and of its twin holds what it held; `name`
holds what it held, unless a read of it succeeded where there was nothing; the twin holds what it
held, unless a compressed write removed it. -/
structure Settled (v₀ : Volume) (compress : Bool) (op : Operation) (name : String)
    (result : Except TransferError Summary) (v : Volume) : Prop where
  others : ∀ l, l ≠ [name] → l ≠ [compressedName name] → v.held l = v₀.held l
  own : v.held [name] = v₀.held [name] ∨
    op = .read ∧ (∃ summary, result = .ok summary) ∧ v₀.held [name] = none
  twin : v.held [compressedName name] = v₀.held [compressedName name] ∨
    op = .write ∧ compress = true ∧ v.held [compressedName name] = none

theorem settled_of_held {result : Except TransferError Summary} {v : Volume}
    (h : v.held = v₀.held) : Settled v₀ compress op name result v :=
  ⟨fun l _ _ => congrFun h l, .inl (congrFun h _), .inl (congrFun h _)⟩

namespace Settled

variable {result : Except TransferError Summary} {v : Volume}

/-- A file that was there is there with its bytes, unless it is the twin and a compressed write
removed it. -/
theorem file_kept (hs : Settled v₀ compress op name result v) {l : Location}
    {bytes : List UInt8} (hl : v₀.held l = some (some bytes)) :
    v.held l = some (some bytes) ∨ l = [compressedName name] ∧ op = .write ∧ compress = true := by
  by_cases hname : l = [name]
  · subst hname
    rcases hs.own with h | ⟨-, -, h⟩
    · exact .inl (h.trans hl)
    · rw [h] at hl
      cases hl
  by_cases htwin : l = [compressedName name]
  · subst htwin
    rcases hs.twin with h | ⟨hop, hc, -⟩
    · exact .inl (h.trans hl)
    · exact .inr ⟨rfl, hop, hc⟩
  · exact .inl ((hs.others l hname htwin).trans hl)

/-- A twin that was not there is not there after. -/
theorem twin_absent (hs : Settled v₀ compress op name result v)
    (h : v₀.held [compressedName name] = none) : v.held [compressedName name] = none := by
  rcases hs.twin with h' | ⟨-, -, h'⟩
  · exact h'.trans h
  · exact h'

/-- A read that failed leaves `name` and its twin as they were. -/
theorem failed_read (hs : Settled v₀ compress .read name result v)
    (hfail : ∀ s, result ≠ .ok s) :
    v.held [name] = v₀.held [name] ∧
      v.held [compressedName name] = v₀.held [compressedName name] := by
  refine ⟨?_, ?_⟩
  · rcases hs.own with h | ⟨-, ⟨s, hs'⟩, -⟩
    · exact h
    · exact absurd hs' (hfail s)
  · rcases hs.twin with h | ⟨hop, -⟩
    · exact h
    · cases hop

end Settled

/-- A read of `name` receiving into `target` through the handle `h`, whose inode is `k`: the
target is `name`, or its twin when compressing, and had no entry in the files `v₀` the read
started from, where `name` did not exist. The store holds `v₀` with the target rebound to `k`,
and the read holds the target's writer slot and nothing else. -/
structure ReadFrame (v₀ : Volume) (compress : Bool) (name : String) (s : Store) (h : WriteHandle)
    (target : String) (k : Nat) : Prop where
  target_eq : target = if compress then compressedName name else name
  handle : h.name = target
  accepted : checkFileName name = .ok ()
  target_accepted : checkFileName target = .ok ()
  fits : s.volume.fullLength target < Volume.pathMax
  absent : v₀.contains name = false
  fresh : v₀.entries.lookup [target] = none
  rebinds : v₀.Rebinds s.volume [target] k
  inRange : s.volume.InodesInRange
  unshared : s.volume.Unshared
  accounts : s.table.Accounts (fun _ => 0) (withOne (fun _ => 0) target)

namespace ReadFrame

variable {s : Store} {h : WriteHandle} {target : String} {k : Nat}

theorem setContent (hf : ReadFrame v₀ compress name s h target k) (d : List UInt8) :
    ReadFrame v₀ compress name { s with volume := s.volume.setContent k d } h target k where
  target_eq := hf.target_eq
  handle := hf.handle
  accepted := hf.accepted
  target_accepted := hf.target_accepted
  fits := hf.fits
  absent := hf.absent
  fresh := hf.fresh
  rebinds := hf.rebinds.setContent d
  inRange := hf.inRange.setContent k d
  unshared := hf.unshared
  accounts := hf.accounts

/-- Without the target's entry the store holds the files the read started from. -/
theorem held_unbind (hf : ReadFrame v₀ compress name s h target k) :
    ({ s.volume with entries := s.volume.entries.filter (·.1 != [target]) } : Volume).held =
      v₀.held := by
  funext l
  rw [hf.rebinds.held_unbind]
  split
  · subst_vars
    simp [Volume.held, hf.fresh]
  · rfl

/-- An abandoned read leaves the files it started from. -/
theorem held_abandonWrite (hf : ReadFrame v₀ compress name s h target k) :
    (s.abandonWrite h).1.volume.held = v₀.held := by
  have hl := hf.rebinds.bound
  rw [← hf.handle] at hl
  rw [Store.volume_abandonWrite (hf.handle ▸ hf.target_accepted) (hf.handle ▸ hf.fits) hl,
    hf.handle]
  exact hf.held_unbind

/-- Where `name` fits under the root, the read started from nothing there. -/
theorem held_name (hf : ReadFrame v₀ compress name s h target k)
    (hfit : s.volume.fullLength name < Volume.pathMax) : v₀.held [name] = none := by
  have hc := hf.absent
  rw [Volume.contains_accepted hf.accepted] at hc
  have hfit₀ : v₀.fullLength name < Volume.pathMax := by
    simpa [Volume.fullLength, hf.rebinds.rootLength] using hfit
  simp only [hfit₀, decide_true, Bool.true_and, Option.isSome_eq_false_iff,
    Option.isNone_iff_eq_none] at hc
  simp [Volume.held, hc]

/-- A read that received its file, without compressing, leaves it as `name`, where there was
nothing. -/
theorem settled_received (hf : ReadFrame v₀ false name s h target k) {s₁ : Store}
    (hv : s₁.volume = s.volume) (summary : Summary) :
    Settled v₀ false .read name (.ok summary) s₁.volume := by
  have htarget : target = name := by simpa using hf.target_eq
  subst htarget
  rw [hv]
  refine ⟨fun l hl _ => hf.rebinds.held hl, .inr ⟨rfl, ⟨_, rfl⟩, by simp [Volume.held, hf.fresh]⟩,
    .inl (hf.rebinds.held ?_)⟩
  simpa using compressedName_ne target

/-- A compressed read whose file could not be restored removes the twin it received into, and
`name`, which it never wrote. -/
theorem settled_unpack_failed (hf : ReadFrame v₀ true name s h (compressedName name) k)
    {s₁ : Store} (hv : s₁.volume = s.volume) (ha : s₁.table.Accounts (fun _ => 0) (fun _ => 0))
    (e : TransferError) :
    Settled v₀ true .read name (.error e)
      (((s₁.tryDelete (compressedName name)).1.volume.removeFile name).toOption.getD
        (s₁.tryDelete (compressedName name)).1.volume) := by
  have hfits := hf.fits
  have hbound := hf.rebinds.bound
  rw [← hv] at hfits hbound
  have hheld : (s₁.tryDelete (compressedName name)).1.volume.held = v₀.held := by
    rw [Store.volume_tryDelete hf.target_accepted hfits hbound (Table.isIdle_of_accounts ha _), hv]
    exact hf.held_unbind
  -- `name` does not exist, so removing it fails and nothing changes
  have hroot : (s₁.tryDelete (compressedName name)).1.volume.rootLength = v₀.rootLength := by
    rw [Store.volume_tryDelete hf.target_accepted hfits hbound (Table.isIdle_of_accounts ha _), hv]
    exact hf.rebinds.rootLength
  have hc := (Volume.contains_eq_of_held hf.accepted hroot (congrFun hheld _)).trans hf.absent
  obtain ⟨e', he'⟩ := Volume.removeFile_of_contains_eq_false hc
  rw [he']
  exact settled_of_held hheld

/-- A compressed read that restored its file leaves it as `name`, where there was nothing, and
removes the twin it received into. -/
theorem settled_unpacked (hf : ReadFrame v₀ true name s h (compressedName name) k)
    {s₁ : Store} (ha : s₁.table.Accounts (fun _ => 0) (fun _ => 0))
    {bytes : List UInt8} {v' : Volume} (hw : s.volume.writeFile name bytes = .ok v')
    (summary : Summary) :
    Settled v₀ true .read name (.ok summary)
      ({ s₁ with volume := v' }.tryDelete (compressedName name)).1.volume := by
  obtain ⟨loc, k', hres, hrebinds, -⟩ := Volume.rebinds_of_writeFile hf.inRange hf.unshared hw
  -- the restored file went to the root's entry of `name`
  have hfit : s.volume.fullLength name < Volume.pathMax := by
    by_contra hlong
    rw [Volume.resolve_fileName_of_overlong hf.accepted (by omega)] at hres
    cases hres
  rw [Volume.resolve_fileName_of_fits hf.accepted hfit] at hres
  cases hres
  have hne : [compressedName name] ≠ [name] := by simpa using compressedName_ne name
  have hbound : v'.entries.lookup [compressedName name] = some (.file k) := by
    rw [hrebinds.others _ hne]
    exact hf.rebinds.bound
  have hfits : v'.fullLength (compressedName name) < Volume.pathMax := by
    simpa [Volume.fullLength, hrebinds.rootLength] using hf.fits
  rw [Store.volume_tryDelete (s := { s₁ with volume := v' }) hf.target_accepted hfits hbound
    (Table.isIdle_of_accounts ha _)]
  refine ⟨fun l hl hl' => ?_, .inr ⟨rfl, ⟨_, rfl⟩, hf.held_name hfit⟩, .inl ?_⟩
  · rw [Volume.held_filter_of_ne v' hl', hrebinds.held hl, hf.rebinds.held hl']
  · rw [Volume.held_filter_self]
    simp [Volume.held, hf.fresh]

end ReadFrame

/-- The files a write sends from: those it started from, or, compressing, those with the twin
of the name written over. -/
inductive Packed (v₀ : Volume) (name : String) : Bool → Volume → Prop
  | plain : Packed v₀ name false v₀
  | twin {v : Volume} {k : Nat} (accepted : checkFileName (compressedName name) = .ok ())
      (fits : v.fullLength (compressedName name) < Volume.pathMax)
      (rebinds : v₀.Rebinds v [compressedName name] k) : Packed v₀ name true v

theorem Packed.eq_of_false {v : Volume} (h : Packed v₀ name false v) : v = v₀ := by
  cases h
  rfl

/-- Packing a file writes its twin and nothing else. -/
theorem packed_of_compressFile {v : Volume} {root p : String} (hin : v₀.InodesInRange)
    (hun : v₀.Unshared) (hv : checkFileName name = .ok ())
    (hcf : Huffman.compressFile root v₀ name = (v, .ok p)) : Packed v₀ name true v := by
  obtain ⟨packed, hw⟩ := Huffman.writeFile_of_compressFile hcf
  obtain ⟨haccepted, hfits⟩ := accepted_of_writeFile_compressedName hv hw
  obtain ⟨loc, k, hres, hrebinds, -⟩ := Volume.rebinds_of_writeFile hin hun hw
  rw [Volume.resolve_fileName_of_fits haccepted hfits] at hres
  cases hres
  exact .twin haccepted (by simpa [Volume.fullLength, hrebinds.rootLength] using hfits) hrebinds

/-- A write of `name` sending `source` through the read handle `h`: the source is `name`, or its
twin when compressing; the store holds the packed files and the write holds one read handle of
the source and nothing else. -/
structure WriteFrame (v₀ : Volume) (compress : Bool) (name : String) (s : Store) (h : ReadHandle)
    (source : String) : Prop where
  source_eq : source = if compress then compressedName name else name
  handle : h.name = source
  packed : Packed v₀ name compress s.volume
  accounts : s.table.Accounts (withOne (fun _ => 0) source) (fun _ => 0)

section Discard

variable {s : Store} {k : Nat} (ha : s.table.Accounts (fun _ => 0) (fun _ => 0))
  (haccepted : checkFileName (compressedName name) = .ok ())
  (hfits : s.volume.fullLength (compressedName name) < Volume.pathMax)
  (hrebinds : v₀.Rebinds s.volume [compressedName name] k)
include ha haccepted hfits hrebinds

/-- Removing the twin a compressed write wrote leaves what the write started from everywhere
else. -/
theorem held_discard (l : Location) :
    (s.tryDelete (compressedName name)).1.volume.held l =
      if l = [compressedName name] then none else v₀.held l := by
  rw [Store.volume_tryDelete haccepted hfits hrebinds.bound (Table.isIdle_of_accounts ha _)]
  exact hrebinds.held_unbind l

theorem settled_discard {result : Except TransferError Summary} :
    Settled v₀ true .write name result (s.tryDelete (compressedName name)).1.volume := by
  have hheld := held_discard ha haccepted hfits hrebinds
  refine ⟨fun l _ hl => ?_, .inl ?_, .inr ⟨rfl, rfl, ?_⟩⟩
  · rw [hheld, if_neg hl]
  · rw [hheld, if_neg (by simpa using (compressedName_ne name).symm)]
  · rw [hheld, if_pos rfl]

end Discard

/-- A write that ends, whatever its outcome, leaves the files it started from, but for the twin
that compressing wrote and removed. -/
theorem WriteFrame.settled_endWrite {s : Store} {h : ReadHandle} {source : String}
    (hf : WriteFrame v₀ compress name s h source) (result : Except TransferError Summary) :
    Settled v₀ compress .write name result
      (if compress then (((s.closeRead h).1.tryDelete source).1.volume)
        else (s.closeRead h).1.volume) := by
  have ha := (Store.closeRead_accounts h (hf.handle ▸ hf.accounts)).2
  have hv := Store.volume_closeRead s h
  cases hf.packed with
  | plain => exact settled_of_held (by simp)
  | twin haccepted hfits hrebinds =>
    rw [if_pos rfl, show source = compressedName name by simpa using hf.source_eq]
    rw [← hv] at hfits hrebinds
    exact settled_discard ha haccepted hfits hrebinds

/-- A compressed write that ends removes its twin. -/
theorem WriteFrame.twin_endWrite {s : Store} {h : ReadHandle} {source : String}
    (hf : WriteFrame v₀ true name s h source) :
    ((s.closeRead h).1.tryDelete source).1.volume.held [compressedName name] = none := by
  have ha := (Store.closeRead_accounts h (hf.handle ▸ hf.accounts)).2
  have hv := Store.volume_closeRead s h
  cases hf.packed with
  | twin haccepted hfits hrebinds =>
    rw [show source = compressedName name by simpa using hf.source_eq]
    rw [← hv] at hfits hrebinds
    rw [held_discard ha haccepted hfits hrebinds, if_pos rfl]


/-- How a call of `op` on `name` keeps the files `v₀` while it waits at a stage. -/
def StageFrame (v₀ : Volume) (compress : Bool) (op : Operation) (name : String) (s : Store) :
    ClientStage → Prop
  | .reading h target st =>
    op = .read ∧ ∃ k, st.file.target = .inode k ∧ ReadFrame v₀ compress name s h target k
  | .opening h source => op = .write ∧ WriteFrame v₀ compress name s h source
  | .writing h source _ => op = .write ∧ WriteFrame v₀ compress name s h source
  | .deleting => op = .delete ∧ s.volume = v₀

/-- Where a call of `op` on `name` by a client with settings `settings`, started on the files
`v₀`, stands: waiting at a stage that keeps them, or over and settled. -/
def CallFrame (settings : Config.ClientSettings) (v₀ : Volume) (op : Operation) (name : String)
    (c : Client) : ClientFlow → Prop
  | .running run =>
    c.settings = settings ∧ run.name = name ∧ StageFrame v₀ settings.compress op name c.store run.stage
  | .finished result => c.settings = settings ∧ Settled v₀ settings.compress op name result c.store.volume

variable {c : Client} {n : Network}

/-- A call that ends closes its socket, if it has one, and leaves its client as it is. -/
theorem conclude_ends {c' : Client} {s : Option Session} {result : Except TransferError Summary}
    {P : Client × ClientFlow → Network → Prop} (h : ∀ n', P (c', .finished result) n') :
    Ensures (conclude s result >>= fun flow => pure (c', flow)) n P := by
  cases s with
  | none => exact .bind (.pure (.pure (h _)))
  | some s => exact .bind (.release (.pure (.pure (h _))))

/-- A call that waits goes on at the stage it names. -/
theorem wait_goes_on {c₀ c' : Client} {op : Operation} {name : String} {s : Session}
    (stage : ClientStage) {P : Client × ClientFlow → Network → Prop}
    (h : ∀ d n', P (c', .running ⟨op, name, s, stage, d⟩) n') :
    Ensures (c₀.wait op name s stage >>= fun flow => pure (c', flow)) n P :=
  .bind (.now (.pure (.pure (h _ _))))

/-- A receiver writes its own file only: it returns the volume it was given, or that volume with
its file's inode written, and goes on with the same file. -/
theorem Receiving.step_writes {v : Volume} {s : Session} {st : Receiving} {k : Nat}
    (hk : st.file.target = .inode k) (incoming : Incoming) (n : Network) :
    Ensures (Receiving.step v s st incoming) n fun r _ =>
      (r.1 = v ∨ ∃ d, r.1 = v.setContent k d) ∧
        ∀ st', r.2.2 = .waiting st' → st'.file.target = .inode k := by
  have hreject : ∀ s' incoming',
      Ensures (Receiving.step.reject v s' st incoming' : NetM _) n fun r _ =>
        (r.1 = v ∨ ∃ d, r.1 = v.setContent k d) ∧
          ∀ st', r.2.2 = .waiting st' → st'.file.target = .inode k := by
    intro s' incoming'
    unfold Receiving.step.reject
    refine .any fun r _ => ?_
    obtain ⟨s'', res⟩ := r
    cases res with
    | error e => exact .pure ⟨.inl rfl, fun _ h => by cases h⟩
    | ok u => exact .pure ⟨.inl rfl, fun st' h => by cases h; exact hk⟩
  unfold Receiving.step
  dsimp only
  split
  · split
    · split
      · exact .any fun _ _ => .pure ⟨.inl rfl, fun _ h => by cases h⟩
      · rename_i v' file hw
        obtain ⟨⟨d, rfl⟩, hfile⟩ := Volume.write_eq_ok hk hw
        refine .any fun r _ => ?_
        cases r with
        | error e => exact .pure ⟨.inr ⟨d, rfl⟩, fun _ h => by cases h⟩
        | ok s' =>
          dsimp only
          split
          · exact .pure ⟨.inr ⟨d, rfl⟩, fun _ h => by cases h⟩
          · exact .pure ⟨.inr ⟨d, rfl⟩, fun st' h => by cases h; exact hfile⟩
    · exact hreject _ _
  · exact hreject _ _

section Handlers

variable {h : WriteHandle} {target : String} {k : Nat}

theorem failRead_frame (hf : ReadFrame v₀ c.settings.compress name c.store h target k)
    (s : Option Session) (e : TransferError) :
    Ensures (c.failRead h s e) n fun r _ => CallFrame c.settings v₀ .read name r.1 r.2 :=
  conclude_ends fun _ => ⟨rfl, settled_of_held hf.held_abandonWrite⟩

theorem completeRead_frame (hf : ReadFrame v₀ c.settings.compress name c.store h target k)
    (s : Session) (stats : Stats) :
    Ensures (c.completeRead h target name s stats) n fun r _ =>
      CallFrame c.settings v₀ .read name r.1 r.2 := by
  have ha := (Store.closeWrite_accounts h (hf.handle ▸ hf.accounts)).2
  have hv := Store.volume_closeWrite c.store h
  unfold completeRead
  dsimp only
  split
  · rename_i hcomp
    rw [hcomp] at hf
    have htarget : target = compressedName name := by simpa using hf.target_eq
    subst htarget
    generalize hd : Huffman.decompressFile (c.store.closeWrite h).1.root
      (c.store.closeWrite h).1.volume (compressedName name) = unpacked
    obtain ⟨v', r⟩ := unpacked
    rw [hv] at hd
    rcases Huffman.decompressFile_compressedName hd with ⟨⟨e, rfl⟩, rfl⟩ | ⟨⟨p, rfl⟩, bytes, hw⟩
    · refine conclude_ends fun _ => ⟨rfl, ?_⟩
      rw [hcomp]
      exact hf.settled_unpack_failed
        (show ({ (c.store.closeWrite h).1 with volume := c.store.volume } : Store).volume =
          c.store.volume from rfl) ha _
    · refine conclude_ends fun _ => ⟨rfl, ?_⟩
      rw [hcomp]
      exact hf.settled_unpacked ha hw _
  · rename_i hcomp
    rw [Bool.not_eq_true] at hcomp
    rw [hcomp] at hf
    refine conclude_ends fun _ => ⟨rfl, ?_⟩
    rw [hcomp]
    exact hf.settled_received hv _

theorem endWrite_frame {h : ReadHandle} {source : String}
    (hf : WriteFrame v₀ c.settings.compress name c.store h source) (s : Option Session)
    (result : Except TransferError Stats) :
    Ensures (c.endWrite h source name s result) n fun r _ =>
      CallFrame c.settings v₀ .write name r.1 r.2 := by
  have hs := hf.settled_endWrite (result.map fun stats =>
    ({ operation := .write, fileName := name, stats } : Summary))
  unfold endWrite
  dsimp only
  split
  · rename_i hcomp
    rw [if_pos hcomp] at hs
    exact conclude_ends fun _ => ⟨rfl, hs⟩
  · rename_i hcomp
    rw [if_neg hcomp] at hs
    exact conclude_ends fun _ => ⟨rfl, hs⟩

theorem endWrite_drops_twin {h : ReadHandle} {source : String}
    (hf : WriteFrame v₀ true name c.store h source) (hcomp : c.settings.compress = true)
    (s : Option Session) (result : Except TransferError Stats) :
    Ensures (c.endWrite h source name s result) n fun r _ =>
      ∀ result, r.2 = .finished result → r.1.store.volume.held [compressedName name] = none := by
  unfold endWrite
  simp only [hcomp, if_true]
  exact conclude_ends fun _ _ _ => hf.twin_endWrite

end Handlers

section Begin

variable (hin : c.store.volume.InodesInRange) (hun : c.store.volume.Unshared)
  (ha : c.store.table.Accounts (fun _ => 0) (fun _ => 0))
include hin hun ha

theorem beginRead_frame (name : String) :
    Ensures (c.beginRead name) n fun r _ =>
      CallFrame c.settings c.store.volume .read name r.1 r.2 := by
  unfold beginRead
  split
  · exact .pure ⟨rfl, settled_of_held rfl⟩
  rename_i hname
  split
  · exact .pure ⟨rfl, settled_of_held rfl⟩
  rename_i havail
  dsimp only
  rcases hc : c.store.openForWrite
    (if c.settings.compress then compressedName name else name) with ⟨store, r⟩
  dsimp only
  cases r with
  | error e =>
    have hu := Store.untouched_of_openForWrite_error (s := c.store) (e := e) (by rw [hc])
    rw [hc] at hu
    exact .pure ⟨rfl, settled_of_held (by rw [hu.volume])⟩
  | ok h =>
    obtain ⟨htacc, hfit, hfresh, hvol, hfile⟩ := Store.openForWrite_eq_ok hc
    obtain ⟨hhname, haccounts⟩ := Store.openForWrite_ok hc ha
    -- the target is bound to a fresh inode, and the read holds its writer slot
    have hf : ReadFrame c.store.volume c.settings.compress name store h
        (if c.settings.compress then compressedName name else name)
        c.store.volume.contents.size := {
      target_eq := rfl
      handle := hhname
      accepted := Store.checkFileName_of_checkName hname
      target_accepted := htacc
      fits := by rw [hvol]; exact hfit
      absent := by simpa [Store.isAvailable] using havail
      fresh := hfresh
      rebinds := hvol ▸ Volume.rebinds_fresh hin _ []
      inRange := hvol ▸ Volume.inodesInRange_bind_fresh hin _ []
      unshared := hvol ▸ (Volume.rebinds_fresh hin _ []).unshared hun
      accounts := haccounts }
    refine .any fun r _ => ?_
    cases r with
    | error e => exact failRead_frame (c := { c with store }) hf none e
    | ok s =>
      refine .any fun r _ => ?_
      cases r with
      | error e => exact failRead_frame (c := { c with store }) hf (some s) e
      | ok s' => exact wait_goes_on _ fun _ _ => ⟨rfl, rfl, rfl, _, hfile, hf⟩

theorem beginWrite_frame (name : String) :
    Ensures (c.beginWrite name) n fun r _ =>
      CallFrame c.settings c.store.volume .write name r.1 r.2 := by
  unfold beginWrite
  split
  · exact .pure ⟨rfl, settled_of_held rfl⟩
  rename_i hname
  have hv := Store.checkFileName_of_checkName hname
  split
  · exact .pure ⟨rfl, settled_of_held rfl⟩
  dsimp only
  split
  · exact .pure ⟨rfl, settled_of_held rfl⟩
  rename_i c₁ source hpacked
  -- compressing first writes the twin, and nothing else
  have hc₁ : c₁.settings = c.settings ∧ c₁.store.table = c.store.table ∧
      source = (if c.settings.compress then compressedName name else name) ∧
      Packed c.store.volume name c.settings.compress c₁.store.volume := by
    split at hpacked
    · rename_i hcomp
      split at hpacked
      · rename_i volume p hcf
        cases hpacked
        refine ⟨rfl, rfl, by simp [hcomp], ?_⟩
        rw [hcomp]
        exact packed_of_compressFile hin hun hv hcf
      · cases hpacked
    · rename_i hcomp
      cases hpacked
      rw [Bool.not_eq_true] at hcomp
      refine ⟨rfl, rfl, by simp [hcomp], ?_⟩
      rw [hcomp]
      exact .plain
  obtain ⟨hset, htable, hsource, hpk⟩ := hc₁
  rw [← htable] at ha
  rw [← hset] at hpk hsource ⊢
  rcases hc : c₁.store.openForRead source with ⟨store, r⟩
  have hvol : store.volume = c₁.store.volume := by
    rw [← Store.volume_openForRead c₁.store source, hc]
  rw [← hvol] at hpk
  dsimp only
  cases r with
  | error e =>
    have ha' := Store.openForRead_error hc ha
    dsimp only
    split
    · -- the twin written for nothing goes again
      rename_i hcomp
      rw [hcomp] at hpk hsource
      cases hpk with
      | twin haccepted hfits hrebinds =>
        rw [if_pos rfl] at hsource
        subst hsource
        refine .pure ⟨rfl, ?_⟩
        rw [hcomp]
        exact settled_discard ha' haccepted hfits hrebinds
    · rename_i hcomp
      rw [Bool.not_eq_true] at hcomp
      rw [hcomp] at hpk
      exact .pure ⟨rfl, settled_of_held (by rw [hpk.eq_of_false])⟩
  | ok h =>
    dsimp only
    obtain ⟨hhname, ha'⟩ := Store.openForRead_ok hc ha (by decide)
    have hf : WriteFrame c.store.volume c₁.settings.compress name store h source :=
      ⟨hsource, hhname, hpk, ha'⟩
    refine .any fun r _ => ?_
    cases r with
    | error e => exact endWrite_frame (c := { c₁ with store }) hf none _
    | ok s =>
      refine .any fun r _ => ?_
      cases r with
      | error e => exact endWrite_frame (c := { c₁ with store }) hf (some s) _
      | ok s' => exact wait_goes_on _ fun _ _ => ⟨rfl, rfl, rfl, hf⟩

/-- A compressed write whose file packed and that ends as soon as it starts leaves no twin,
whatever the twin held before: the twin written for the transfer is removed on every way out. -/
theorem beginWrite_drops_twin (hcomp : c.settings.compress = true) (hname : checkName name = .ok ())
    (havail : c.store.isAvailable name = true) {v : Volume} {p : String}
    (hcf : Huffman.compressFile c.store.root c.store.volume name = (v, .ok p)) :
    Ensures (c.beginWrite name) n fun r _ =>
      ∀ result, r.2 = .finished result → r.1.store.volume.held [compressedName name] = none := by
  have hpk := packed_of_compressFile hin hun (Store.checkFileName_of_checkName hname) hcf
  unfold beginWrite
  rw [hname]
  dsimp only
  rw [havail]
  simp only [Bool.not_true, Bool.false_eq_true, if_false, hcomp, if_true, hcf]
  cases hpk with
  | twin haccepted hfits hrebinds =>
  rcases hc : (⟨c.store.root, v, c.store.table⟩ : Store).openForRead (compressedName name) with
    ⟨store, r⟩
  have hvol : store.volume = v := by
    have h := Store.volume_openForRead ⟨c.store.root, v, c.store.table⟩ (compressedName name)
    rw [hc] at h
    exact h
  rw [← hvol] at hfits hrebinds
  dsimp only
  cases r with
  | error e =>
    have ha' := Store.openForRead_error hc ha
    exact .pure fun _ _ => (held_discard ha' haccepted hfits hrebinds _).trans (if_pos rfl)
  | ok h =>
    obtain ⟨hhname, ha'⟩ := Store.openForRead_ok hc ha (by decide)
    have hf : WriteFrame c.store.volume true name store h (compressedName name) :=
      ⟨(if_pos rfl).symm, hhname, .twin haccepted hfits hrebinds, ha'⟩
    refine .any fun r _ => ?_
    cases r with
    | error e => exact endWrite_drops_twin (c := { c with store }) hf hcomp none _
    | ok s =>
      refine .any fun r _ => ?_
      cases r with
      | error e => exact endWrite_drops_twin (c := { c with store }) hf hcomp (some s) _
      | ok s' => exact wait_goes_on _ fun _ _ _ h => by cases h

theorem begin_frame (op : Operation) (name : String) :
    Ensures (c.begin op name) n fun r _ => CallFrame c.settings c.store.volume op name r.1 r.2 := by
  cases op with
  | read => exact beginRead_frame hin hun ha name
  | write => exact beginWrite_frame hin hun ha name
  | delete =>
    unfold begin beginDelete
    refine .any fun r _ => ?_
    cases r with
    | error e => exact .pure ⟨rfl, settled_of_held rfl⟩
    | ok s =>
      refine .any fun r _ => ?_
      cases r with
      | error e => exact conclude_ends fun _ => ⟨rfl, settled_of_held rfl⟩
      | ok s' => exact wait_goes_on _ fun _ _ => ⟨rfl, rfl, rfl, rfl⟩

end Begin


section Step

variable {v₀ : Volume} {op : Operation} (run : ClientRun) (incoming : Incoming)

/-- A call at a stage that keeps its files, answered by the server or timed out, goes on at a stage
that keeps them, or ends with them settled. -/
theorem step_frame (hs : StageFrame v₀ c.settings.compress op run.name c.store run.stage) :
    Ensures (c.step run incoming) n fun r _ => CallFrame c.settings v₀ op run.name r.1 r.2 := by
  unfold step
  cases hst : run.stage with
  | reading h target st =>
    rw [hst] at hs
    obtain ⟨rfl, k, hk, hf⟩ := hs
    dsimp only
    refine .bind ((Receiving.step_writes hk incoming n).mono fun r n₁ ⟨hv, hwait⟩ => ?_)
    obtain ⟨v, s, flow⟩ := r
    -- the receiver wrote its own inode, or nothing
    have hf' : ReadFrame v₀ c.settings.compress run.name { c.store with volume := v } h target k := by
      rcases hv with rfl | ⟨d, rfl⟩
      · exact hf
      · exact hf.setContent d
    cases flow with
    | waiting st' =>
      exact wait_goes_on _ fun _ _ => ⟨rfl, rfl, rfl, k, hwait st' rfl, hf'⟩
    | finished res =>
      cases res with
      | ok stats =>
        exact completeRead_frame (c := { c with store := { c.store with volume := v } }) hf' s stats
      | error e =>
        exact failRead_frame (c := { c with store := { c.store with volume := v } }) hf' (some s) e
  | opening h source =>
    rw [hst] at hs
    obtain ⟨rfl, hf⟩ := hs
    dsimp only
    refine .any fun r _ => ?_
    obtain ⟨s, res⟩ := r
    -- still waiting for the ACK of block 0, refused, or acknowledged
    rcases res with _ | (e | u)
    · exact wait_goes_on _ fun _ _ => ⟨rfl, rfl, rfl, hf⟩
    · exact endWrite_frame hf (some s) _
    · refine .any fun r _ => ?_
      obtain ⟨s', flow⟩ := r
      cases flow with
      | waiting st => exact wait_goes_on _ fun _ _ => ⟨rfl, rfl, rfl, hf⟩
      | finished r => exact endWrite_frame hf (some s') r
  | writing h source st =>
    rw [hst] at hs
    obtain ⟨rfl, hf⟩ := hs
    dsimp only
    refine .any fun r _ => ?_
    obtain ⟨s, flow⟩ := r
    cases flow with
    | waiting st' => exact wait_goes_on _ fun _ _ => ⟨rfl, rfl, rfl, hf⟩
    | finished r => exact endWrite_frame hf (some s) r
  | deleting =>
    rw [hst] at hs
    obtain ⟨rfl, hv⟩ := hs
    have hsettled {result : Except TransferError Summary} :
        Settled v₀ c.settings.compress .delete run.name result c.store.volume :=
      settled_of_held (by rw [hv])
    dsimp only
    refine .any fun r _ => ?_
    obtain ⟨s, res⟩ := r
    rcases res with _ | (e | u)
    · exact wait_goes_on _ fun _ _ => ⟨rfl, rfl, rfl, hv⟩
    · split
      · rename_i heq
        cases heq
      · rename_i heq
        cases heq
      · -- out of retries, the client tells the server it gave up
        exact .any fun _ _ => conclude_ends fun _ => ⟨rfl, hsettled⟩
      · exact conclude_ends fun _ => ⟨rfl, hsettled⟩
    · exact conclude_ends fun _ => ⟨rfl, hsettled⟩

theorem deliver_frame (d : Datagram)
    (hs : StageFrame v₀ c.settings.compress op run.name c.store run.stage) :
    Ensures (c.deliver run d) n fun r _ => CallFrame c.settings v₀ op run.name r.1 r.2 := by
  unfold deliver
  refine .any fun r _ => ?_
  cases r with
  | none => exact .pure ⟨rfl, rfl, hs⟩
  | some p =>
    obtain ⟨s, incoming⟩ := p
    exact step_frame { run with session := s } incoming hs

end Step

/-- One move of a call in flight: a datagram reaches its socket, its wait runs out, or the rest of
the host moves the network on. Nothing else touches the client. -/
inductive CallStep : (Client × ClientFlow) × Network → (Client × ClientFlow) × Network → Prop
  | deliver (c : Client) (run : ClientRun) (n : Network) (d : Datagram) :
      CallStep ((c, .running run), n) ((c.deliver run d : NetM _).run n)
  | timeout (c : Client) (run : ClientRun) (n : Network) :
      CallStep ((c, .running run), n) ((c.step run .timeout : NetM _).run n)
  | network (c : Client) (run : ClientRun) (n n' : Network) :
      CallStep ((c, .running run), n) ((c, .running run), n')

/-- Every move of a call keeps its files as its stage says, or settles them. -/
theorem CallStep.frame {settings : Config.ClientSettings} {v₀ : Volume} {op : Operation}
    {name : String} {p p' : (Client × ClientFlow) × Network} (h : CallStep p p')
    (hp : CallFrame settings v₀ op name p.1.1 p.1.2) : CallFrame settings v₀ op name p'.1.1 p'.1.2 := by
  cases h with
  | deliver c run n d =>
    obtain ⟨rfl, rfl, hs⟩ := hp
    exact deliver_frame run d hs
  | timeout c run n =>
    obtain ⟨rfl, rfl, hs⟩ := hp
    exact step_frame run .timeout hs
  | network c run n n' => exact hp

/-- Every state a call reaches from its start keeps its files as its stage says, and once it is
over they are settled. -/
theorem frame_of_run {c : Client} {op : Operation} {name : String} {n₀ : Network}
    (hin : c.store.volume.InodesInRange) (hun : c.store.volume.Unshared)
    (ha : c.store.table.Accounts (fun _ => 0) (fun _ => 0)) {p : (Client × ClientFlow) × Network}
    (h : Relation.ReflTransGen CallStep ((c.begin op name : NetM _).run n₀) p) :
    CallFrame c.settings c.store.volume op name p.1.1 p.1.2 := by
  induction h with
  | refl => exact begin_frame hin hun ha op name
  | tail _ hstep ih => exact hstep.frame ih

/-! ## Calls on a network that reaches nobody -/

theorem openSession_reachable (c : Client) (n : Network) :
    Ensures (c.openSession : NetM _) n fun _ n' => n'.reachable = n.reachable :=
  .bindTransfer (fun _ => .pure rfl) fun _ _ h => .pure (Network.reachable_bindEphemeral h)

theorem endWrite_ends (c : Client) (h : ReadHandle) (source name : String) (s : Option Session)
    (result : Except TransferError Stats) :
    Ensures (c.endWrite h source name s result) n fun r _ => ∃ result, r.2 = .finished result := by
  unfold endWrite
  exact conclude_ends fun _ => ⟨_, rfl⟩

section Unreachable

variable (hn : n.reachable = false)
include hn

-- each call opens a session and sends its request; the request never goes out, so the call ends

theorem beginRead_unreachable (c : Client) (name : String) :
    Ensures (c.beginRead name) n fun r _ => ∃ result, r.2 = .finished result := by
  unfold beginRead
  split
  · exact .pure ⟨_, rfl⟩
  split
  · exact .pure ⟨_, rfl⟩
  dsimp only
  rcases hc : c.store.openForWrite
    (if c.settings.compress then compressedName name else name) with ⟨store, r⟩
  dsimp only
  cases r with
  | error e => exact .pure ⟨_, rfl⟩
  | ok h =>
    refine .bind ((openSession_reachable _ n).mono fun r n' hr => ?_)
    cases r with
    | error e => exact conclude_ends fun _ => ⟨_, rfl⟩
    | ok s =>
      refine .bind ((s.sendRequest_unreachable _ (hr.trans hn)).mono fun r _ hr => ?_)
      obtain ⟨e, rfl⟩ := hr
      exact conclude_ends fun _ => ⟨_, rfl⟩

theorem beginWrite_unreachable (c : Client) (name : String) :
    Ensures (c.beginWrite name) n fun r _ => ∃ result, r.2 = .finished result := by
  unfold beginWrite
  split
  · exact .pure ⟨_, rfl⟩
  split
  · exact .pure ⟨_, rfl⟩
  dsimp only
  split
  · exact .pure ⟨_, rfl⟩
  rename_i c₁ source _
  rcases hc : c₁.store.openForRead source with ⟨store, r⟩
  dsimp only
  cases r with
  | error e => exact .pure ⟨_, rfl⟩
  | ok h =>
    refine .bind ((openSession_reachable _ n).mono fun r n' hr => ?_)
    cases r with
    | error e => exact endWrite_ends _ _ _ _ _ _
    | ok s =>
      refine .bind ((s.sendRequest_unreachable _ (hr.trans hn)).mono fun r _ hr => ?_)
      obtain ⟨e, rfl⟩ := hr
      exact endWrite_ends _ _ _ _ _ _

theorem beginDelete_unreachable (c : Client) (name : String) :
    Ensures (c.beginDelete name) n fun r _ => ∃ result, r.2 = .finished result := by
  unfold beginDelete
  refine .bind ((openSession_reachable _ n).mono fun r n' hr => ?_)
  cases r with
  | error e => exact .pure ⟨_, rfl⟩
  | ok s =>
    refine .bind ((s.sendRequest_unreachable _ (hr.trans hn)).mono fun r _ hr => ?_)
    obtain ⟨e, rfl⟩ := hr
    exact conclude_ends fun _ => ⟨_, rfl⟩

/-- On a network that reaches nobody, every call is over as soon as it starts. -/
theorem begin_unreachable (c : Client) (op : Operation) (name : String) :
    Ensures (c.begin op name) n fun r _ => ∃ result, r.2 = .finished result := by
  cases op with
  | read => exact beginRead_unreachable hn c name
  | write => exact beginWrite_unreachable hn c name
  | delete => exact beginDelete_unreachable hn c name

end Unreachable

end Client

/-! ## What a call leaves -/

/-- What a client call does to its local files, over every run of it and whatever the server and
the network do. Once the call is over, every location but `name` and its twin holds what it
held; a file that was there is there with its bytes, but for a twin that a compressed write wrote
over and removed; a twin that was not there is not there; and a read that failed leaves `name`
and its twin as they were. The files are those that give each file an inode of its own, and the
call starts with no file held. -/
theorem call_keeps_local_files {c : Client} {op : Operation} {name : String} {n₀ : Network}
    (hin : c.store.volume.InodesInRange) (hun : c.store.volume.Unshared)
    (hidle : ∀ x, (c.store.table.getD x).isIdle = true) {p : (Client × ClientFlow) × Network}
    (hrun : Relation.ReflTransGen Client.CallStep ((c.begin op name : NetM _).run n₀) p)
    {result : Except TransferError Summary} (hend : p.1.2 = .finished result) :
    (∀ l, l ≠ [name] → l ≠ [compressedName name] →
      p.1.1.store.volume.held l = c.store.volume.held l) ∧
    (∀ l bytes, c.store.volume.held l = some (some bytes) →
      p.1.1.store.volume.held l = some (some bytes) ∨
        l = [compressedName name] ∧ op = .write ∧ c.settings.compress = true) ∧
    (c.store.volume.held [compressedName name] = none →
      p.1.1.store.volume.held [compressedName name] = none) ∧
    (op = .read → (∀ s, result ≠ .ok s) →
      p.1.1.store.volume.held [name] = c.store.volume.held [name] ∧
        p.1.1.store.volume.held [compressedName name] =
          c.store.volume.held [compressedName name]) := by
  have hframe := Client.frame_of_run hin hun (Table.accounts_of_isIdle hidle) hrun
  rw [hend] at hframe
  obtain ⟨-, hs⟩ := hframe
  refine ⟨hs.others, fun _ _ hl => hs.file_kept hl, hs.twin_absent, fun hop hfail => ?_⟩
  subst hop
  exact hs.failed_read hfail

theorem unreachable_read_keeps_local_files :
    ∃ c : Client, c.settings = .default ∧
      c.store = .ofVolume "<root>" (.ofFixtures 15 [("a.txt", [97])] []) ∧
      c.store.volume.InodesInRange ∧ c.store.volume.Unshared ∧
      (∀ x, (c.store.table.getD x).isIdle = true) ∧
      ∃ p result, p = (c.begin .read "b.txt" : NetM _).run (.empty false) ∧
        p.1.2 = .finished result ∧
        (∀ l bytes, c.store.volume.held l = some (some bytes) →
          p.1.1.store.volume.held l = some (some bytes)) ∧
        ((∀ s, result ≠ .ok s) →
          p.1.1.store.volume.held ["b.txt"] = c.store.volume.held ["b.txt"] ∧
            p.1.1.store.volume.held [compressedName "b.txt"] =
              c.store.volume.held [compressedName "b.txt"]) := by
  refine ⟨⟨.default, .ofVolume "<root>" (.ofFixtures 15 [("a.txt", [97])] [])⟩, rfl, rfl, ?_⟩
  have hin := Volume.inodesInRange_ofFixtures 15 [("a.txt", [97])] []
  have hun := Volume.unshared_ofFixtures 15 [("a.txt", [97])] []
  have hidle : ∀ x, (({} : Table).getD x).isIdle = true := Table.isIdle_of_accounts Table.accounts_empty
  obtain ⟨result, hend⟩ := Client.begin_unreachable (n := .empty false) rfl
    ⟨.default, .ofVolume "<root>" (.ofFixtures 15 [("a.txt", [97])] [])⟩ .read "b.txt"
  obtain ⟨-, hkept, -, hfailed⟩ := call_keeps_local_files hin hun hidle .refl hend
  refine ⟨hin, hun, hidle, _, result, rfl, hend, fun l bytes hl => ?_, hfailed rfl⟩
  rcases hkept l bytes hl with h | ⟨-, hop, -⟩
  · exact h
  · cases hop

/-- A compressed write of `w.txt` from a root that already holds `w.txt.cmp` writes over that
file and removes it. On a network that reaches nobody the call ends as soon as it starts. -/
theorem compressed_write_removes_stale_twin :
    ∃ c : Client, c.settings = .default ∧
      c.store = .ofVolume "<root>"
        (.ofFixtures 15 [("w.txt", [120]), ("w.txt.cmp", [115, 116, 97, 108, 101])] []) ∧
      c.store.volume.held ["w.txt.cmp"] = some (some [115, 116, 97, 108, 101]) ∧
      ∃ p result, p = (c.begin .write "w.txt" : NetM _).run (.empty false) ∧
        p.1.2 = .finished result ∧ p.1.1.store.volume.held ["w.txt.cmp"] = none := by
  have hv : checkFileName "w.txt" = .ok () := by decide
  have hvc : checkFileName (compressedName "w.txt") = .ok () := by decide
  have hcmp : compressedName "w.txt" = "w.txt.cmp" := by decide
  -- the root the fixtures build
  set v : Volume :=
    ⟨[(["w.txt"], .file 0), (["w.txt.cmp"], .file 1)], #[[120], [115, 116, 97, 108, 101]], 15⟩
  have h₁ : ({ rootLength := 15 } : Volume).writeFile "w.txt" [120] =
      .ok ⟨[(["w.txt"], .file 0)], #[[120]], 15⟩ :=
    Volume.writeFile_fresh hv (by rw [Volume.fullLength_fileName hv]; decide) rfl [120]
  have h₂ : (⟨[(["w.txt"], .file 0)], #[[120]], 15⟩ : Volume).writeFile "w.txt.cmp"
      [115, 116, 97, 108, 101] = .ok v :=
    Volume.writeFile_fresh (hcmp ▸ hvc) (by rw [Volume.fullLength_fileName (hcmp ▸ hvc)]; decide)
      (by decide) _
  have hroot :
      Volume.ofFixtures 15 [("w.txt", [120]), ("w.txt.cmp", [115, 116, 97, 108, 101])] [] = v := by
    simp only [Volume.ofFixtures, List.foldl, h₁, Except.toOption, Option.getD, h₂]
  have hin := hroot ▸ Volume.inodesInRange_ofFixtures 15
    [("w.txt", [120]), ("w.txt.cmp", [115, 116, 97, 108, 101])] []
  have hun := hroot ▸ Volume.unshared_ofFixtures 15
    [("w.txt", [120]), ("w.txt.cmp", [115, 116, 97, 108, 101])] []
  -- the write packs `w.txt` into its twin, written over the stale one
  have hroom : v.rootLength + 1 + maxFileNameLength < Volume.pathMax := by decide
  have hread : v.readFile "w.txt" = .ok [120] :=
    Volume.readFile_eq_ok.2 ⟨["w.txt"], 0, Volume.resolve_fileName hv hroom,
      by rw [Volume.find_fileName hv]; rfl, rfl⟩
  obtain ⟨ls, hls, -⟩ := (Huffman.codeLengths_spec (Huffman.frequencies [120])).2
    (Huffman.not_tooDeep_of_length_lt (by decide))
  obtain ⟨v', hw⟩ := Volume.writeFile_ok (Volume.resolve_fileName hvc hroom)
    (.inr ⟨1, by rw [Volume.find_fileName hvc]; decide⟩) _
  have hcf : Huffman.compressFile "<root>" v "w.txt" = (v', .ok _) :=
    Huffman.compressFile_ok hread (Huffman.compress_of_codeLengths hls) hw
  refine ⟨⟨.default, .ofVolume "<root>" v⟩, rfl, by rw [hroot], rfl, ?_⟩
  obtain ⟨result, hend⟩ := Client.begin_unreachable (n := .empty false) rfl
    ⟨.default, .ofVolume "<root>" v⟩ .write "w.txt"
  have havail : v.contains "w.txt" = true := by
    rw [Volume.contains_fileName hv (by decide)]
    rfl
  have hgone := Client.beginWrite_drops_twin (c := ⟨.default, .ofVolume "<root>" v⟩)
    (n := .empty false) hin hun Table.accounts_empty rfl (by decide) havail hcf
  exact ⟨_, result, rfl, hend, hcmp ▸ hgone result hend⟩

end Tftp
