import Tftp.Proofs.Huffman.Bits
import Mathlib

/-!
# Canonical codes

Canonical codes read back. For a table of code lengths, `withLength ls l` lists the values of
length `l`, `kraftUpTo ls n` is Kraft's sum of the lengths up to `n` counted in `n`-bit strings,
and `canonicalCode ls s` is the code the canonical construction gives `s`: the first code of its
length, twice Kraft's sum of the shorter lengths, plus its place among the values of its length.

The canonical-code loop computes exactly these codes (`canonicalCodes_getD`), since the canonical
order lists the values by length, shortest first (`canonicalOrder_eq`). When the lengths pass
the checks of `DecodeTable.build`, the table it builds (`canonicalTable`) finds each code in the
range of codes of its length (`lookup_canonicalTable`), and Kraft's inequality keeps each code
within its length and every shorter prefix past the codes of its own length, so the table reads
every canonical code back (`reads_canonicalCodes`).
-/

namespace Tftp.Huffman

/-! ## Counting codes by length -/

section
variable (ls : Array Nat)

/-- The byte values whose code has length `l`, in increasing order. -/
def withLength (l : Nat) : List Nat := (List.range 256).filter fun s => ls.getD s 0 = l

/-- Kraft's sum of the codes of lengths `1` to `n`, in units of `2 ^ -n`: how many of the `n`-bit
strings start with one of those codes. -/
def kraftUpTo : Nat → Nat
  | 0 => 0
  | n + 1 => 2 * kraftUpTo n + (withLength ls (n + 1)).length

/-- How many values have a code of length `1` to `n`. -/
def countUpTo : Nat → Nat
  | 0 => 0
  | n + 1 => countUpTo n + (withLength ls (n + 1)).length

/-- The canonical code of a value: the first code of its length, which is twice Kraft's sum of
the shorter lengths, plus the number of smaller values with a code of that length. -/
def canonicalCode (s : Nat) : Nat :=
  2 * kraftUpTo ls (ls.getD s 0 - 1) + (withLength ls (ls.getD s 0)).idxOf s

end

section
variable {ls : Array Nat}

theorem mem_withLength {l s : Nat} : s ∈ withLength ls l ↔ s < 256 ∧ ls.getD s 0 = l := by
  simp [withLength]

theorem nodup_withLength (l : Nat) : (withLength ls l).Nodup :=
  List.nodup_range.filter _

theorem toList_eq_map_getD (hsize : ls.size = 256) :
    ls.toList = (List.range 256).map fun s => ls.getD s 0 := by
  apply List.ext_getElem
  · simp [hsize]
  · intro i h1 h2
    simp [Array.getD, show i < ls.size by simpa using h1]

/-! ## The longest code -/

theorem le_foldl_max (l : List Nat) (a : Nat) : a ≤ l.foldl max a ∧ ∀ x ∈ l, x ≤ l.foldl max a := by
  induction l generalizing a with
  | nil => simp
  | cons y l ih =>
    obtain ⟨h1, h2⟩ := ih (max a y)
    refine ⟨le_trans (le_max_left a y) h1, ?_⟩
    intro x hx
    rcases List.mem_cons.1 hx with rfl | hx
    · exact le_trans (le_max_right a x) h1
    · exact h2 x hx

theorem foldl_max_le {l : List Nat} {a k : Nat} (ha : a ≤ k) (h : ∀ x ∈ l, x ≤ k) :
    l.foldl max a ≤ k := by
  induction l generalizing a with
  | nil => exact ha
  | cons y l ih =>
    exact ih (max_le ha (h y List.mem_cons_self)) fun x hx => h x (List.mem_cons_of_mem y hx)

theorem getD_le_longestLength (hsize : ls.size = 256) (s : Nat) :
    ls.getD s 0 ≤ longestLength ls := by
  rw [longestLength, ← Array.foldl_toList]
  by_cases hs : s < 256
  · refine (le_foldl_max _ 0).2 _ ?_
    rw [toList_eq_map_getD hsize]
    exact List.mem_map.2 ⟨s, List.mem_range.2 hs, rfl⟩
  · have : ls.getD s 0 = 0 := by simp [Array.getD, hsize, hs]
    omega

theorem longestLength_le (hsize : ls.size = 256) {k : Nat} (h : ∀ s < 256, ls.getD s 0 ≤ k) :
    longestLength ls ≤ k := by
  rw [longestLength, ← Array.foldl_toList, toList_eq_map_getD hsize]
  refine foldl_max_le (Nat.zero_le k) ?_
  intro x hx
  obtain ⟨s, hs, rfl⟩ := List.mem_map.1 hx
  exact h s (List.mem_range.1 hs)

/-! ## Counts, Kraft's sum and first codes -/

theorem getElem?_foldl_count (l : Nat) (hl : 0 < l) (lens : List Nat) (acc : Array Nat) :
    (lens.foldl (fun c l => if l > 0 then c.modify l (· + 1) else c) acc)[l]? =
      acc[l]?.map (· + lens.count l) := by
  induction lens generalizing acc with
  | nil => cases h : acc[l]? <;> simp [h]
  | cons x lens ih =>
    rw [List.foldl_cons, ih]
    by_cases hx : x = l
    · subst hx
      simp only [if_pos hl, Array.getElem?_modify, if_pos, List.count_cons_self]
      cases acc[x]? <;> simp [Nat.add_assoc, Nat.add_comm 1]
    · have hc : (if x > 0 then acc.modify x (· + 1) else acc)[l]? = acc[l]? := by
        split <;> simp [Array.getElem?_modify, hx]
      rw [hc, List.count_cons_of_ne hx]

/-- The values of length `l` are as many as the entries `l` of the table. -/
theorem length_withLength (hsize : ls.size = 256) (l : Nat) :
    (withLength ls l).length = ls.toList.count l := by
  rw [toList_eq_map_getD hsize, List.count_eq_countP, List.countP_map,
    List.countP_eq_length_filter, withLength]
  congr 2

theorem getD_lengthCounts (hsize : ls.size = 256) {l : Nat} (hl : 0 < l) :
    (lengthCounts ls (longestLength ls)).getD l 0 = (withLength ls l).length := by
  have hcount : ls.toList.count l = (withLength ls l).length := (length_withLength hsize l).symm
  rw [lengthCounts, ← Array.foldl_toList, Array.getD_eq_getD_getElem?,
    getElem?_foldl_count l hl, Array.getElem?_replicate, hcount]
  split
  · simp
  · -- a length past the longest has no values
    have : withLength ls l = [] := by
      rw [List.eq_nil_iff_forall_not_mem]
      intro s hs
      have h1 := (mem_withLength.1 hs).2
      have h2 := getD_le_longestLength hsize s
      omega
    simp [this]

theorem getD_set!_self {a : Array Nat} {i : Nat} (h : i < a.size) (v : Nat) :
    (a.set! i v).getD i 0 = v := by
  simp [Array.getD_eq_getD_getElem?, Array.set!_eq_setIfInBounds, h]

theorem getD_set!_of_ne (a : Array Nat) {i j : Nat} (h : i ≠ j) (v : Nat) :
    (a.set! i v).getD j 0 = a.getD j 0 := by
  simp [Array.getD_eq_getD_getElem?, Array.set!_eq_setIfInBounds, h]

theorem kraftSum_eq {count : Array Nat} {M : Nat}
    (hcount : ∀ l, 0 < l → count.getD l 0 = (withLength ls l).length) :
    kraftSum count M = kraftUpTo ls M := by
  -- the loop's sum over the lengths below `n`, each weighted for length `M`
  have hpartial : ∀ n ≤ M, (List.range n).foldl
      (fun k i => k + count.getD (i + 1) 0 * Nat.pow 2 (M - (i + 1))) 0 =
        kraftUpTo ls n * 2 ^ (M - n) := by
    intro n hn
    induction n with
    | zero => simp [kraftUpTo]
    | succ n ih =>
      have hp : 2 ^ (M - n) = 2 * 2 ^ (M - (n + 1)) := by
        rw [← Nat.pow_succ']
        congr 1
        omega
      rw [List.range_succ, List.foldl_append, ih (by omega), List.foldl_cons, List.foldl_nil,
        hcount (n + 1) (Nat.succ_pos n), Nat.pow_eq, hp, kraftUpTo]
      ring
  have h := hpartial M le_rfl
  rw [Nat.sub_self, Nat.pow_zero, Nat.mul_one] at h
  exact h

/-- What the first-code loop holds after the lengths `1` to `n`. -/
theorem foldl_firstCodeStep {count : Array Nat} {M : Nat}
    (hcount : ∀ l, 0 < l → count.getD l 0 = (withLength ls l).length) {n : Nat} (hn : n ≤ M) :
    let st := ((List.range n).map (· + 1)).foldl (firstCodeStep count)
      (Array.replicate (M + 1) 0, Array.replicate (M + 1) 0, 0, 0)
    st.1.size = M + 1 ∧ st.2.1.size = M + 1 ∧ st.2.2.1 = kraftUpTo ls n ∧
      st.2.2.2 = countUpTo ls n ∧ ∀ l, 0 < l → l ≤ n →
        st.1.getD l 0 = 2 * kraftUpTo ls (l - 1) ∧ st.2.1.getD l 0 = countUpTo ls (l - 1) := by
  induction n with
  | zero => simp [kraftUpTo, countUpTo]; omega
  | succ n ih =>
    obtain ⟨hs1, hs2, hcode, hindex, hprev⟩ := ih (by omega)
    simp only [List.range_succ, List.map_append, List.map_cons, List.map_nil, List.foldl_append,
      List.foldl_cons, List.foldl_nil]
    generalize ((List.range n).map (· + 1)).foldl (firstCodeStep count)
      (Array.replicate (M + 1) 0, Array.replicate (M + 1) 0, 0, 0) = st at *
    obtain ⟨first, offset, code, index⟩ := st
    simp only at hs1 hs2 hcode hindex hprev
    simp only [firstCodeStep_eq, Array.size_set!, hs1, hs2, true_and]
    refine ⟨?_, ?_, ?_⟩
    · rw [hcode, hcount (n + 1) (Nat.succ_pos n), kraftUpTo]
      ring
    · rw [hindex, hcount (n + 1) (Nat.succ_pos n), countUpTo]
    · intro l hl hln
      by_cases hl' : l = n + 1
      · subst hl'
        rw [getD_set!_self (by omega), getD_set!_self (by omega), hcode, hindex]
        exact ⟨by simp; ring, by simp⟩
      · rw [getD_set!_of_ne _ (Ne.symm hl'), getD_set!_of_ne _ (Ne.symm hl')]
        exact hprev l hl (by omega)

theorem firstCodes_getD {count : Array Nat} {M : Nat}
    (hcount : ∀ l, 0 < l → count.getD l 0 = (withLength ls l).length) {l : Nat} (hl : 0 < l)
    (hlM : l ≤ M) :
    (firstCodes count M).1.getD l 0 = 2 * kraftUpTo ls (l - 1) ∧
      (firstCodes count M).2.getD l 0 = countUpTo ls (l - 1) := by
  have h := (foldl_firstCodeStep hcount (le_refl M)).2.2.2.2 l hl hlM
  unfold firstCodes
  generalize ((List.range M).map (· + 1)).foldl (firstCodeStep count)
    (Array.replicate (M + 1) 0, Array.replicate (M + 1) 0, 0, 0) = st at *
  obtain ⟨first, offset, code, index⟩ := st
  exact h

/-! ## The canonical order -/

/-- The used values in canonical order are the values of each length in turn, shortest first. -/
theorem canonicalOrder_eq (hsize : ls.size = 256) :
    canonicalOrder ls = (List.range' 1 (longestLength ls)).flatMap (withLength ls) := by
  have hle := getD_le_longestLength hsize
  unfold canonicalOrder
  apply List.Perm.eq_of_pairwise _ (List.pairwise_mergeSort ?trans ?total _) ?sorted ?perm
  case trans =>
    intro a b c hab hbc
    simp only [Bool.or_eq_true, Bool.and_eq_true, decide_eq_true_eq, beq_iff_eq] at *
    omega
  case total =>
    intro a b
    simp only [Bool.or_eq_true, Bool.and_eq_true, decide_eq_true_eq, beq_iff_eq]
    omega
  · intro a b _ _ hab hba
    simp only [Bool.or_eq_true, Bool.and_eq_true, decide_eq_true_eq, beq_iff_eq] at hab hba
    omega
  case sorted =>
    refine List.pairwise_flatMap.2 ⟨fun l _ => ?_, ?_⟩
    · -- within a length, values come in increasing order
      refine (List.pairwise_filter.2 ((List.pairwise_lt_range (n := 256)).imp ?_))
      intro a b hab ha hb
      simp only [decide_eq_true_eq] at ha hb
      simp only [ha, hb, Bool.or_eq_true, Bool.and_eq_true, decide_eq_true_eq, beq_iff_eq, true_and]
      omega
    · -- shorter lengths come first
      refine (List.pairwise_lt_range' (s := 1) (n := longestLength ls)).imp ?_
      intro l₁ l₂ hl a ha b hb
      rw [mem_withLength] at ha hb
      simp only [ha.2, hb.2, Bool.or_eq_true, Bool.and_eq_true, decide_eq_true_eq, beq_iff_eq]
      omega
  case perm =>
    refine (List.mergeSort_perm _ _).trans ((List.perm_ext_iff_of_nodup
      (List.nodup_range.filter _) ?_).2 fun s => ?_)
    · refine List.nodup_flatMap.2 ⟨fun l _ => nodup_withLength l, ?_⟩
      refine (List.pairwise_lt_range' (s := 1) (n := longestLength ls)).imp ?_
      intro l₁ l₂ hl a ha hb
      rw [mem_withLength] at ha hb
      omega
    · simp only [List.mem_filter, List.mem_range, List.mem_flatMap, List.mem_range'_1,
        mem_withLength, decide_eq_true_eq]
      have := hle s
      constructor
      · rintro ⟨hs, hpos⟩
        exact ⟨ls.getD s 0, ⟨hpos, by omega⟩, hs, rfl⟩
      · rintro ⟨l, ⟨hl1, _⟩, hs, rfl⟩
        exact ⟨hs, hl1⟩

theorem length_flatMap_withLength (n : Nat) :
    ((List.range' 1 n).flatMap (withLength ls)).length = countUpTo ls n := by
  induction n with
  | zero => rfl
  | succ n ih =>
    rw [List.range'_1_concat, List.flatMap_append, List.length_append, ih, Nat.add_comm 1 n,
      List.flatMap_singleton, countUpTo]

/-- The values of length `l` start after those of the shorter lengths. -/
theorem getElem?_flatMap_withLength {M l i : Nat} (hl : 0 < l) (hlM : l ≤ M)
    (hi : i < (withLength ls l).length) :
    ((List.range' 1 M).flatMap (withLength ls))[countUpTo ls (l - 1) + i]? =
      (withLength ls l)[i]? := by
  have hsplit : List.range' 1 (l - 1) ++ List.range' (1 + (l - 1)) (M - l + 1) =
      List.range' 1 M := by
    rw [List.range'_append_1]
    congr 1
    omega
  rw [show 1 + (l - 1) = l by omega, List.range'_succ] at hsplit
  rw [← hsplit, List.flatMap_append, List.flatMap_cons, List.getElem?_append_right
    (by rw [length_flatMap_withLength]; omega), length_flatMap_withLength, Nat.add_sub_cancel_left,
    List.getElem?_append_left hi]

/-! ## The canonical-code loop -/

theorem idxOf_append_cons {pre bs : List Nat} {s : Nat} (hs : s ∉ pre) :
    (pre ++ s :: bs).idxOf s = pre.length := by
  induction pre with
  | nil => exact List.idxOf_cons_self
  | cons p pre ih =>
    have hps : (p == s) = false := beq_false_of_ne fun h => hs (h ▸ List.mem_cons_self)
    rw [List.cons_append, List.idxOf_cons, hps, cond_false,
      ih fun h => hs (List.mem_cons_of_mem p h), List.length_cons]

/-- The loop over the values of length `n + 1`: those before `bs` have their codes, the running
code stands `pre.length` past the first code of the length, and every other entry is kept. -/
theorem foldl_canonicalStep_withLength {n : Nat} (pre bs : List Nat)
    (hW : withLength ls (n + 1) = pre ++ bs) (codes : Array Nat) (code prev : Nat)
    (hcs : codes.size = 256) (hprev : prev ≤ n + 1)
    (hcode : code * 2 ^ (n + 1 - prev) = 2 * kraftUpTo ls n + pre.length)
    (hdone : ∀ s ∈ pre, codes.getD s 0 = canonicalCode ls s) :
    let st := bs.foldl (canonicalStep ls) (codes, code, prev)
    st.1.size = 256 ∧ st.2.2 ≤ n + 1 ∧ st.2.1 * 2 ^ (n + 1 - st.2.2) = kraftUpTo ls (n + 1) ∧
      (∀ s ∈ withLength ls (n + 1), st.1.getD s 0 = canonicalCode ls s) ∧
      ∀ s, s ∉ bs → st.1.getD s 0 = codes.getD s 0 := by
  induction bs generalizing pre codes code prev with
  | nil =>
    rw [List.append_nil] at hW
    refine ⟨hcs, hprev, ?_, fun s hs => hdone s (hW ▸ hs), fun _ _ => rfl⟩
    rw [List.foldl_nil, hcode, kraftUpTo, hW]
  | cons s bs ih =>
    have hsW : s ∈ withLength ls (n + 1) := by rw [hW]; simp
    have hlen : ls.getD s 0 = n + 1 := (mem_withLength.1 hsW).2
    have hnodup : (pre ++ s :: bs).Nodup := hW ▸ nodup_withLength (n + 1)
    have hspre : s ∉ pre := fun h => (List.nodup_append.1 hnodup).2.2 s h s List.mem_cons_self rfl
    -- the code of `s` is the first code of its length plus its place among those values
    have hcodeS : code <<< (ls.getD s 0 - prev) = canonicalCode ls s := by
      rw [Nat.shiftLeft_eq, hlen, hcode, canonicalCode, hlen, Nat.add_sub_cancel, hW,
        idxOf_append_cons hspre]
    obtain ⟨h1, h2, h3, h4, h5⟩ := ih (pre ++ [s]) (by rw [hW]; simp)
      (codes.set! s (code <<< (ls.getD s 0 - prev))) (code <<< (ls.getD s 0 - prev) + 1)
      (ls.getD s 0) (by simp [hcs]) (by omega)
      (by rw [hcodeS, hlen, Nat.sub_self, Nat.pow_zero, Nat.mul_one, canonicalCode, hlen,
        Nat.add_sub_cancel, hW, idxOf_append_cons hspre, List.length_append, List.length_singleton,
        Nat.add_assoc])
      (by
        intro t ht
        rcases List.mem_append.1 ht with ht | ht
        · have hts : s ≠ t := fun h => hspre (h ▸ ht)
          rw [getD_set!_of_ne _ hts, hdone t ht]
        · rw [List.mem_singleton.1 ht, getD_set!_self (by rw [hcs]; exact (mem_withLength.1 hsW).1),
            hcodeS])
    refine ⟨h1, h2, h3, h4, fun t ht => ?_⟩
    have hts : s ≠ t := fun h => ht (h ▸ List.mem_cons_self)
    rw [List.foldl_cons, canonicalStep_eq, h5 t (fun h => ht (List.mem_cons_of_mem s h)),
      getD_set!_of_ne _ hts]

/-- The canonical-code loop after the values of lengths `1` to `n`. -/
theorem foldl_canonicalStep {n : Nat} :
    let st := ((List.range' 1 n).flatMap (withLength ls)).foldl (canonicalStep ls)
      (Array.replicate 256 0, 0, 0)
    st.1.size = 256 ∧ st.2.2 ≤ n ∧ st.2.1 * 2 ^ (n - st.2.2) = kraftUpTo ls n ∧
      ∀ s, 0 < ls.getD s 0 → ls.getD s 0 ≤ n → s < 256 → st.1.getD s 0 = canonicalCode ls s := by
  induction n with
  | zero => simp [kraftUpTo]; omega
  | succ n ih =>
    obtain ⟨h1, h2, h3, h4⟩ := ih
    rw [List.range'_1_concat, List.flatMap_append, List.foldl_append, Nat.add_comm 1 n,
      List.flatMap_singleton]
    generalize ((List.range' 1 n).flatMap (withLength ls)).foldl (canonicalStep ls)
      (Array.replicate 256 0, 0, 0) = st at *
    obtain ⟨codes, code, prev⟩ := st
    simp only at h1 h2 h3 h4
    -- the block of length `n + 1` starts at twice Kraft's sum of the shorter lengths
    have hstart : code * 2 ^ (n + 1 - prev) = 2 * kraftUpTo ls n + ([] : List Nat).length := by
      rw [List.length_nil, Nat.add_zero, ← h3, show n + 1 - prev = n - prev + 1 by omega,
        Nat.pow_succ]
      ring
    obtain ⟨g1, g2, g3, g4, g5⟩ := foldl_canonicalStep_withLength [] (withLength ls (n + 1)) rfl
      codes code prev h1 (by omega) hstart (by simp)
    refine ⟨g1, g2, g3, fun s hpos hle hs => ?_⟩
    by_cases hsn : ls.getD s 0 = n + 1
    · exact g4 s (mem_withLength.2 ⟨hs, hsn⟩)
    · rw [g5 s (fun h => hsn (mem_withLength.1 h).2), h4 s hpos (by omega) hs]

theorem canonicalCodes_getD (hsize : ls.size = 256) {s : Nat} (hs : s < 256)
    (hpos : 0 < ls.getD s 0) : (canonicalCodes ls).getD s 0 = canonicalCode ls s := by
  rw [canonicalCodes, canonicalOrder_eq hsize]
  exact (foldl_canonicalStep (n := longestLength ls)).2.2.2 s hpos
    (getD_le_longestLength hsize s) hs

/-! ## Kraft's inequality -/

/-- Kraft's sum only grows with the length it is counted in. -/
theorem kraftUpTo_mul_le {j l : Nat} (h : j ≤ l) : kraftUpTo ls j * 2 ^ (l - j) ≤ kraftUpTo ls l := by
  induction l, h using Nat.le_induction with
  | base => simp
  | succ l hjl ih =>
    calc kraftUpTo ls j * 2 ^ (l + 1 - j)
        = 2 * (kraftUpTo ls j * 2 ^ (l - j)) := by
          rw [show l + 1 - j = l - j + 1 by omega, Nat.pow_succ]; ring
      _ ≤ 2 * kraftUpTo ls l := Nat.mul_le_mul_left 2 ih
      _ ≤ kraftUpTo ls (l + 1) := by rw [kraftUpTo]; omega

/-- Under Kraft's inequality the codes of lengths up to `l` fit in `l` bits. -/
theorem kraftUpTo_le_pow {M l : Nat} (hk : kraftUpTo ls M ≤ 2 ^ M) (hl : l ≤ M) :
    kraftUpTo ls l ≤ 2 ^ l := by
  have h : kraftUpTo ls l * 2 ^ (M - l) ≤ 2 ^ M := le_trans (kraftUpTo_mul_le hl) hk
  rw [show 2 ^ M = 2 ^ l * 2 ^ (M - l) by rw [← Nat.pow_add]; congr 1; omega] at h
  exact Nat.le_of_mul_le_mul_right h (Nat.two_pow_pos _)

/-! ## The decode table -/

/-- The decode table of code lengths that pass the checks of `DecodeTable.build`. -/
def canonicalTable (ls : Array Nat) : DecodeTable :=
  let count := lengthCounts ls (longestLength ls)
  ⟨longestLength ls, count, (firstCodes count (longestLength ls)).1,
    (firstCodes count (longestLength ls)).2, (canonicalOrder ls).toArray⟩

theorem build_eq (hsize : ls.size = 256) (hpos : 0 < longestLength ls)
    (hmax : longestLength ls ≤ maxCodeLength)
    (hkraft : kraftUpTo ls (longestLength ls) ≤ 2 ^ longestLength ls) :
    DecodeTable.build ls = .ok (canonicalTable ls) := by
  have hk : ¬kraftSum (lengthCounts ls (longestLength ls)) (longestLength ls) >
      Nat.pow 2 (longestLength ls) := by
    rw [kraftSum_eq fun l hl => getD_lengthCounts hsize hl, Nat.pow_eq]
    omega
  unfold DecodeTable.build
  rw [if_neg (by omega), if_neg hk]
  rfl

/-- Looking a code of length `l` up: the codes of that length run from the first code, twice
Kraft's sum of the shorter lengths, up to Kraft's sum with that length, and name the values of
that length in order. -/
theorem lookup_canonicalTable (hsize : ls.size = 256) {code l : Nat} (hl : 0 < l)
    (hlM : l ≤ longestLength ls) :
    (canonicalTable ls).lookup code l =
      if 2 * kraftUpTo ls (l - 1) ≤ code ∧ code < kraftUpTo ls l then
        (withLength ls l)[code - 2 * kraftUpTo ls (l - 1)]?
      else none := by
  have hcount : ∀ j, 0 < j → (lengthCounts ls (longestLength ls)).getD j 0 =
      (withLength ls j).length := fun j hj => getD_lengthCounts hsize hj
  obtain ⟨hfirst, hoffset⟩ := firstCodes_getD hcount hl hlM
  have hk : kraftUpTo ls l = 2 * kraftUpTo ls (l - 1) + (withLength ls l).length := by
    conv_lhs => rw [show l = l - 1 + 1 by omega, kraftUpTo]
    rw [show l - 1 + 1 = l by omega]
  simp only [DecodeTable.lookup, canonicalTable, hcount l hl, hfirst, hoffset, List.getElem?_toArray]
  by_cases hn : (withLength ls l).length = 0
  · rw [if_pos (Or.inr hn), if_neg (by omega)]
  rw [if_neg (by omega)]
  by_cases hlow : code < 2 * kraftUpTo ls (l - 1)
  · rw [if_pos hlow, if_neg (by omega)]
  · rw [if_neg hlow]
    by_cases hhigh : code - 2 * kraftUpTo ls (l - 1) < (withLength ls l).length
    · rw [if_pos hhigh, if_pos ⟨by omega, by omega⟩, canonicalOrder_eq hsize,
        getElem?_flatMap_withLength hl hlM hhigh]
    · rw [if_neg hhigh, if_neg (by omega)]

/-- Code lengths that pass the checks of `DecodeTable.build` give a table that reads every
value's canonical code back. -/
theorem reads_canonicalCodes (hsize : ls.size = 256)
    (hkraft : kraftUpTo ls (longestLength ls) ≤ 2 ^ longestLength ls) {s : Nat} (hs : s < 256)
    (hpos : 0 < ls.getD s 0) :
    (canonicalTable ls).Reads s ((canonicalCodes ls).getD s 0) (ls.getD s 0) := by
  set l := ls.getD s 0 with hl
  have hlM : l ≤ longestLength ls := getD_le_longestLength hsize s
  have hsW : s ∈ withLength ls l := mem_withLength.2 ⟨hs, rfl⟩
  have hidx : (withLength ls l).idxOf s < (withLength ls l).length :=
    List.idxOf_lt_length_of_mem hsW
  have hk : kraftUpTo ls l = 2 * kraftUpTo ls (l - 1) + (withLength ls l).length := by
    conv_lhs => rw [show l = l - 1 + 1 by omega, kraftUpTo]
    rw [show l - 1 + 1 = l by omega]
  have hcode : (canonicalCodes ls).getD s 0 =
      2 * kraftUpTo ls (l - 1) + (withLength ls l).idxOf s := canonicalCodes_getD hsize hs hpos
  have hfit : kraftUpTo ls l ≤ 2 ^ l := kraftUpTo_le_pow hkraft hlM
  refine ⟨hpos, hlM, by omega, ?_, ?_⟩
  · rw [lookup_canonicalTable hsize hpos hlM, if_pos ⟨by omega, by omega⟩, hcode,
      Nat.add_sub_cancel_left, List.getElem?_idxOf hsW]
  · intro j hj hjl
    -- a prefix of `j` bits lies past every code of length `j`
    have hpast : kraftUpTo ls j ≤ (canonicalCodes ls).getD s 0 / 2 ^ (l - j) := by
      have h : kraftUpTo ls j * 2 ^ (l - 1 - j) ≤ kraftUpTo ls (l - 1) :=
        kraftUpTo_mul_le (by omega)
      rw [Nat.le_div_iff_mul_le (Nat.two_pow_pos _), hcode,
        show l - j = l - 1 - j + 1 by omega, Nat.pow_succ]
      nlinarith
    rw [lookup_canonicalTable hsize hj (by omega), if_neg (by omega)]

end

end Tftp.Huffman
