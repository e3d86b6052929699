import Tftp.Proofs.Store.ReadWrite
import Tftp.FileName
import Mathlib

/-!
# File names are entries of the root

A name the store accepts (`checkFileName`) is a single component: it is not empty, not `.` or
`..`, at most 255 bytes, and holds no `/` and no NUL. When the root's path, a slash and the name
stay under the system's limit on paths, such a name resolves to the root's entry of that name
(`Volume.resolve_fileName_of_length`) and is looked up there (`Volume.find_fileName`). The
volume's calls on the name then act on that entry alone: it exists exactly when the root has an
entry for it, opening reads its inode, creating a name with no entry binds a fresh empty inode,
and removing a file unbinds it.
-/

namespace Tftp

/-- What a name the store accepts is made of. -/
theorem parts_of_checkFileName {name : String} (h : checkFileName name = .ok ()) :
    name ≠ "" ∧ name ≠ "." ∧ name ≠ ".." ∧ Utf8.byteLength name ≤ maxFileNameLength ∧
      '/' ∉ name.toList ∧ '\x00' ∉ name.toList := by
  unfold checkFileName at h
  split at h
  · cases h
  rename_i hblank
  split at h
  · cases h
  rename_i hdot
  split at h
  · cases h
  rename_i hlen
  split at h
  · cases h
  rename_i hsep
  split at h
  · cases h
  rename_i hctl
  refine ⟨?_, fun h => hdot (.inl h), fun h => hdot (.inr h), by omega, fun hs => ?_, fun hs => ?_⟩
  · -- the empty name is blank
    rintro rfl
    exact hblank rfl
  · exact hsep (List.any_eq_true.2 ⟨'/', hs, by decide⟩)
  · exact hctl (List.any_eq_true.2 ⟨'\x00', hs, by decide⟩)

/-! ## The rules behind the checks -/

namespace Text

/-- Trimming leaves nothing exactly when every character is white space. -/
theorem trimChars_eq_nil_iff (cs : List Char) :
    trimChars cs = [] ↔ ∀ c ∈ cs, isWhiteSpace c = true := by
  rw [trimChars, List.reverse_eq_nil_iff, ← List.dropWhile_eq_nil_iff]
  constructor
  · intro h
    -- after the leading white space comes a character that is not white, and stays
    by_contra hne
    have hlast := List.dropWhile_eq_nil_iff.1 h _
      (List.mem_reverse.2 (List.head_mem hne))
    rw [List.head_dropWhile_not isWhiteSpace hne] at hlast
    cases hlast
  · intro h
    rw [h]
    rfl

theorem trim_eq_empty_iff (s : String) : trim s = "" ↔ ∀ c ∈ s.toList, isWhiteSpace c = true := by
  rw [trim, String.ofList_eq_empty_iff, trimChars_eq_nil_iff]

end Text

namespace Utf8

theorem length_encodeChar (c : Char) : (encodeChar c).length = c.utf8Size := by
  have hv : c.val.toNat = c.toNat := rfl
  unfold encodeChar
  dsimp only
  split_ifs with h1 h2 h3 <;> simp only [List.length_cons, List.length_nil] <;> symm
  · rw [Char.utf8Size_eq_one_iff, UInt32.le_iff_toNat_le, hv]
    simp; omega
  · rw [Char.utf8Size_eq_two_iff, UInt32.le_iff_toNat_le, UInt32.lt_iff_toNat_lt, hv]
    simp; omega
  · rw [Char.utf8Size_eq_three_iff, UInt32.le_iff_toNat_le, UInt32.lt_iff_toNat_lt, hv]
    simp; omega
  · rw [Char.utf8Size_eq_four_iff, UInt32.lt_iff_toNat_lt, hv]
    simp; omega

/-- The bytes counted here are the bytes the string takes. -/
theorem byteLength_eq_utf8ByteSize (s : String) : byteLength s = s.utf8ByteSize := by
  rw [byteLength, encode, List.length_flatMap, ← String.size_toByteArray,
    ← String.utf8Encode_toList]
  induction s.toList with
  | nil => rfl
  | cons c l ih =>
    rw [List.utf8Encode_cons, ByteArray.size_append, List.map_cons, List.sum_cons, ih,
      length_encodeChar, List.utf8Encode_singleton]
    simp

end Utf8

namespace NameRejection

/-- What a name is like when the check giving the rejection fails. -/
def Applies : NameRejection → String → Prop
  | empty, name => Text.trim name = ""
  | dotName, name => name = "." ∨ name = ".."
  | tooLong, name => maxFileNameLength < name.utf8ByteSize
  | separator, name => '/' ∈ name.toList ∨ '\\' ∈ name.toList
  | control, name => ∃ c ∈ name.toList, Text.isControl c = true

/-- The place of each check in the order they are made. -/
def rank : NameRejection → Nat
  | empty => 0
  | dotName => 1
  | tooLong => 2
  | separator => 3
  | control => 4

instance (r : NameRejection) (name : String) : Decidable (r.Applies name) := by
  cases r <;> unfold Applies <;> infer_instance

theorem forall_iff {P : NameRejection → Prop} :
    (∀ r, P r) ↔ P empty ∧ P dotName ∧ P tooLong ∧ P separator ∧ P control :=
  ⟨fun h => ⟨h _, h _, h _, h _, h _⟩, fun ⟨h₁, h₂, h₃, h₄, h₅⟩ r => by cases r <;> assumption⟩

end NameRejection

open NameRejection in
/-- The checks of a name, as the rules they stand for. -/
theorem checkFileName_eq (name : String) :
    checkFileName name =
      if empty.Applies name then .error .empty
      else if dotName.Applies name then .error .dotName
      else if tooLong.Applies name then .error .tooLong
      else if separator.Applies name then .error .separator
      else if control.Applies name then .error .control
      else .ok () := by
  have hempty : (name.toList.all Text.isWhiteSpace = true) = empty.Applies name := by
    rw [Applies, Text.trim_eq_empty_iff, List.all_eq_true]
  have hlong : (Utf8.byteLength name > maxFileNameLength) = tooLong.Applies name := by
    rw [Applies, Utf8.byteLength_eq_utf8ByteSize]
  have hsep : (name.toList.any (fun c => c = '/' ∨ c = '\\') = true) = separator.Applies name := by
    simp only [Applies, List.any_eq_true, decide_eq_true_eq, eq_iff_iff]
    grind
  have hctl : (name.toList.any Text.isControl = true) = control.Applies name := by
    simp [Applies]
  simp only [checkFileName, hempty, hlong, hsep, hctl]
  rfl

/-- A name is refused for the first rule it breaks. -/
theorem checkFileName_eq_error_iff (name : String) (r : NameRejection) :
    checkFileName name = .error r ↔
      r.Applies name ∧ ∀ r' : NameRejection, r'.rank < r.rank → ¬r'.Applies name := by
  rw [checkFileName_eq, NameRejection.forall_iff]
  cases r <;> simp only [NameRejection.rank] <;> split_ifs <;> simp_all

/-- A name is accepted when it breaks none of the rules. -/
theorem checkFileName_eq_ok_iff (name : String) :
    checkFileName name = .ok () ↔
      Text.trim name ≠ "" ∧ name ≠ "." ∧ name ≠ ".." ∧ name.utf8ByteSize ≤ maxFileNameLength ∧
        '/' ∉ name.toList ∧ '\\' ∉ name.toList ∧ ∀ c ∈ name.toList, Text.isControl c = false := by
  rw [checkFileName_eq]
  split_ifs with h₁ h₂ h₃ h₄ h₅ <;> simp only [NameRejection.Applies] at * <;> grind

/-! ## Accepted names in the volume -/

namespace Volume

variable {v : Volume} {name : String}

/-- A path with no separator is one component, and has no trailing slash. -/
theorem splitPath_of_component (hn : name ≠ "") (hs : '/' ∉ name.toList) :
    splitPath name = ([name], false) := by
  have hne : (name == "") = false := beq_false_of_ne hn
  simp [splitPath, List.splitOn_eq_singleton hs, hne]

section
variable (hv : checkFileName name = .ok ())
include hv

/-- A name the store accepts is relative: it does not start at the system root. -/
theorem startsWith_slash_fileName : name.startsWith "/" = false := by
  obtain ⟨-, -, -, -, hsep, -⟩ := parts_of_checkFileName hv
  rw [String.startsWith_string_eq_false_iff]
  intro hp
  exact hsep (hp.subset (by simp))

/-- A name the store accepts is one component that is neither `.` nor `..`. -/
theorem splitPath_fileName : splitPath name = ([name], false) ∧ isDots name = false := by
  obtain ⟨hne, hdot, hdots, -, hsep, -⟩ := parts_of_checkFileName hv
  exact ⟨splitPath_of_component hne hsep, by simp [isDots, hne, hdot, hdots]⟩

/-- The path the system is given for an accepted name is the root's path, a slash and the
name. -/
theorem fullLength_fileName :
    v.fullLength name = v.rootLength + 1 + Utf8.byteLength name := by
  simp only [fullLength, startsWith_slash_fileName hv, Bool.false_eq_true, if_false]

/-- A name the store accepts, joined to a root's path that leaves room for it under the
system's limit, resolves to the root's entry of that name. -/
theorem resolve_fileName_of_fits (hfit : v.fullLength name < pathMax) :
    v.resolve name = .ok (.name [name], false) := by
  obtain ⟨-, -, -, -, -, hnul⟩ := parts_of_checkFileName hv
  obtain ⟨hsplit, hdots⟩ := splitPath_fileName hv
  have hfull : ¬v.fullLength name ≥ pathMax := by omega
  unfold resolve
  simp only [String.contains_char_eq, hnul, decide_false, Bool.false_eq_true, if_false,
    hfull, startsWith_slash_fileName hv, hsplit, List.getLast?_singleton,
    List.dropLast_singleton, hdots]
  rfl

/-- Joined to a root's path too long to leave room for it, an accepted name is refused by the
system before any component is looked at. -/
theorem resolve_fileName_of_overlong (hlong : pathMax ≤ v.fullLength name) :
    v.resolve name = .error .nameTooLong := by
  obtain ⟨-, -, -, -, -, hnul⟩ := parts_of_checkFileName hv
  unfold resolve
  simp only [String.contains_char_eq, hnul, decide_false, Bool.false_eq_true, if_false,
    ge_iff_le, hlong, if_true]
  rfl

end

/-- A name the store accepts, whose path, the root's, a slash and the name, stays under the
system's limit, resolves to the root's entry of that name. -/
theorem resolve_fileName_of_length (hv : checkFileName name = .ok ())
    (hfit : v.rootLength + 1 + Utf8.byteLength name < pathMax) :
    v.resolve name = .ok (.name [name], false) :=
  resolve_fileName_of_fits hv (by rw [fullLength_fileName hv]; exact hfit)

/-- A name the store accepts, joined to a root whose path leaves room for every such name,
resolves to the root's entry of that name. -/
theorem resolve_fileName (hv : checkFileName name = .ok ())
    (hroom : v.rootLength + 1 + maxFileNameLength < pathMax) :
    v.resolve name = .ok (.name [name], false) := by
  obtain ⟨-, -, -, hlen, -, -⟩ := parts_of_checkFileName hv
  exact resolve_fileName_of_length hv (by omega)

/-- The root's entry of a name the store accepts is looked up where the volume binds it. -/
theorem find_fileName (hv : checkFileName name = .ok ()) :
    v.find [name] = .ok (v.entries.lookup [name]) := by
  obtain ⟨-, -, hdots, hlen, hsep, -⟩ := parts_of_checkFileName hv
  have hbase : Location.isBase [name] = false := by
    have hsys : name ≠ "/" := by
      rintro rfl
      exact hsep (by decide)
    simp [Location.isBase, Location.system, hsys, hdots]
  have hlong : ([name].getLast?.any (Utf8.byteLength · > nameMax)) = false := by
    simp only [List.getLast?_singleton, Option.any_some, decide_eq_false_iff_not, not_lt]
    exact hlen
  simp only [find, hbase, hlong, Bool.false_eq_true, if_false]

section
variable (hv : checkFileName name = .ok ())
  (hfit : v.rootLength + 1 + Utf8.byteLength name < pathMax)
include hv hfit

/-- A name the store accepts exists exactly when the root has an entry for it. -/
theorem contains_fileName : v.contains name = (v.entries.lookup [name]).isSome := by
  unfold contains
  rw [resolve_fileName_of_length hv hfit]
  simp only
  rw [find_fileName hv]
  rcases v.entries.lookup [name] with _ | _ | _ <;> rfl

end

end Volume

/-- A name the store accepts stays inside the root. A name is accepted exactly when it is not
blank, not `.` or `..`, at most 255 bytes long, and free of `/`, `\\` and control characters, and
it is refused for the first of these rules it breaks. An accepted name is one ordinary component,
so joined to the root's path it names the root's own entry of that name, whatever the root: the
system resolves it there, or refuses the whole path as too long when the root's path leaves no
room for it. -/
theorem accepted_name_is_root_child :
    (∀ name, checkFileName name = .ok () ↔
      Text.trim name ≠ "" ∧ name ≠ "." ∧ name ≠ ".." ∧ name.utf8ByteSize ≤ maxFileNameLength ∧
        '/' ∉ name.toList ∧ '\\' ∉ name.toList ∧ ∀ c ∈ name.toList, Text.isControl c = false) ∧
    (∀ name r, checkFileName name = .error r ↔
      r.Applies name ∧ ∀ r' : NameRejection, r'.rank < r.rank → ¬r'.Applies name) ∧
    ∀ name, checkFileName name = .ok () →
      splitPath name = ([name], false) ∧ isDots name = false ∧
      ∀ v : Volume, v.resolve name =
        if Volume.pathMax ≤ v.rootLength + 1 + name.utf8ByteSize then .error .nameTooLong
        else .ok (.name [name], false) := by
  refine ⟨checkFileName_eq_ok_iff, checkFileName_eq_error_iff, fun name hv => ?_⟩
  obtain ⟨hsplit, hdots⟩ := Volume.splitPath_fileName hv
  refine ⟨hsplit, hdots, fun v => ?_⟩
  have hlen := Volume.fullLength_fileName (v := v) hv
  rw [Utf8.byteLength_eq_utf8ByteSize] at hlen
  split_ifs with h
  · exact Volume.resolve_fileName_of_overlong hv (hlen ▸ h)
  · exact Volume.resolve_fileName_of_fits hv (by omega)

theorem boot_img_is_root_child :
    checkFileName "boot.img" = .ok () ∧
      ({ rootLength := 15 } : Volume).resolve "boot.img" = .ok (.name ["boot.img"], false) :=
  have hv : checkFileName "boot.img" = .ok () := by decide
  ⟨hv, by rw [(accepted_name_is_root_child.2.2 _ hv).2.2]; decide⟩

end Tftp
