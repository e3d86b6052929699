import Tftp.Proofs.Huffman.Canonical
import Mathlib

/-!
# Code lengths of byte frequencies

The code lengths `codeLengths` gives are the depths of the leaves of the merge tree. Merging
keeps the leaves of the queue (`mergeQueue_spec`), so the tree has one leaf per value that occurs,
and below a node every leaf is at depth one or more. A full binary tree meets Kraft's inequality
with equality (`CodeTree.sum_depths`), and the length table of its leaves has the same Kraft's sum
(`kraftUpTo_lengthTable`). Hence the lengths are refused exactly when a leaf is too deep
(`TooDeep`), and are `ValidLengths` otherwise (`codeLengths_spec`); a lone value gets a one-bit
code, and no value gives no codes.
-/

namespace Tftp.Huffman

/-! ## Byte frequencies -/

theorem getElem?_foldl_frequencies (x : List UInt8) (acc : Array Nat) (i : Nat) :
    (x.foldl (fun f b => f.modify b.toNat (· + 1)) acc)[i]? =
      acc[i]?.map (· + x.countP (·.toNat = i)) := by
  induction x generalizing acc with
  | nil => cases h : acc[i]? <;> simp [h]
  | cons b x ih =>
    rw [List.foldl_cons, ih, Array.getElem?_modify, List.countP_cons]
    by_cases hb : b.toNat = i
    · cases h : acc[i]? <;> simp [hb, Nat.add_assoc, Nat.add_comm 1]
    · simp [hb]

theorem getD_frequencies (x : List UInt8) {i : Nat} (hi : i < 256) :
    (frequencies x).getD i 0 = x.countP (·.toNat = i) := by
  rw [frequencies, Array.getD_eq_getD_getElem?, getElem?_foldl_frequencies,
    Array.getElem?_replicate, if_pos hi]
  simp

theorem size_frequencies (x : List UInt8) : (frequencies x).size = 256 := by
  have h : ∀ acc : Array Nat,
      (x.foldl (fun f b => f.modify b.toNat (· + 1)) acc).size = acc.size := by
    induction x with
    | nil => intro acc; rfl
    | cons b x ih => intro acc; rw [List.foldl_cons, ih, Array.size_modify]
  rw [frequencies, h, Array.size_replicate]

theorem frequencies_pos_of_mem {x : List UInt8} {b : UInt8} (hb : b ∈ x) :
    0 < (frequencies x).getD b.toNat 0 := by
  rw [getD_frequencies x b.toNat_lt, List.countP_pos_iff]
  exact ⟨b, hb, by simp⟩

/-! ## Merge trees -/

namespace CodeTree

theorem map_fst_depths (t : CodeTree) (k k' : Nat) :
    (t.depths k).map Prod.fst = (t.depths k').map Prod.fst := by
  induction t generalizing k k' with
  | leaf s => rfl
  | node l r ihl ihr => simp only [depths, List.map_append, ihl (k + 1) (k' + 1), ihr (k + 1) (k' + 1)]

theorem le_of_mem_depths {t : CodeTree} {k : Nat} {p : Nat × Nat} (h : p ∈ t.depths k) :
    k ≤ p.2 := by
  induction t generalizing k with
  | leaf s => simp [depths] at h; simp [h]
  | node l r ihl ihr =>
    rcases List.mem_append.1 h with h | h
    · have := ihl h; omega
    · have := ihr h; omega

theorem depths_ne_nil (t : CodeTree) (k : Nat) : t.depths k ≠ [] := by
  induction t generalizing k with
  | leaf s => simp [depths]
  | node l r ihl _ => simp [depths, ihl]

/-- Kraft's equality: the leaves of a tree whose root is at depth `k` take all of the
`2 ^ (n - k)` strings of `n` bits below it. -/
theorem sum_depths (t : CodeTree) (k n : Nat) (h : ∀ p ∈ t.depths k, p.2 ≤ n) :
    ((t.depths k).map fun p => 2 ^ (n - p.2)).sum = 2 ^ (n - k) := by
  induction t generalizing k with
  | leaf s => simp [depths]
  | node l r ihl ihr =>
    have hl : ∀ p ∈ l.depths (k + 1), p.2 ≤ n := fun p hp => h p (List.mem_append_left _ hp)
    have hr : ∀ p ∈ r.depths (k + 1), p.2 ≤ n := fun p hp => h p (List.mem_append_right _ hp)
    -- a leaf below the root lies at depth `k + 1` or deeper, and at most `n`
    have hk : k + 1 ≤ n := by
      obtain ⟨p, hp⟩ := List.exists_mem_of_ne_nil _ (depths_ne_nil l (k + 1))
      have := le_of_mem_depths hp
      have := hl p hp
      omega
    rw [depths, List.map_append, List.sum_append, ihl (k + 1) hl, ihr (k + 1) hr,
      ← Nat.two_mul, ← Nat.pow_succ']
    congr 1
    omega

end CodeTree

/-! ## The merge queue -/

/-- The byte values at the leaves of the trees of a queue. -/
def queueLeaves (q : List Pending) : List Nat := q.flatMap fun x => (x.tree.depths 0).map Prod.fst

theorem insertPending_perm (x : Pending) (q : List Pending) : (insertPending x q).Perm (x :: q) := by
  induction q with
  | nil => rfl
  | cons y ys ih =>
    simp only [insertPending]
    split
    · rfl
    · exact (ih.cons y).trans (List.Perm.swap x y ys)

/-- Merging a nonempty queue gives a tree with the queue's leaves, and a node when at least two
trees were merged. -/
theorem mergeQueue_spec (m : Nat) (q : List Pending) (hq : q ≠ []) :
    ∃ t, mergeQueue m q = some t ∧ ((t.depths 0).map Prod.fst).Perm (queueLeaves q) ∧
      (2 ≤ q.length → ∃ l r, t = .node l r) := by
  fun_induction mergeQueue m q with
  | case1 => exact absurd rfl hq
  | case2 merged x => exact ⟨x.tree, rfl, by simp [queueLeaves], by simp⟩
  | case3 merged a b rest ih =>
    set x : Pending := ⟨a.weight + b.weight, 256 + merged, .node a.tree b.tree⟩
    have hperm := insertPending_perm x rest
    obtain ⟨t, ht, hleaves, hnode⟩ := ih (fun h => by simpa [h] using hperm.length_eq)
    refine ⟨t, ht, hleaves.trans ?_, fun _ => ?_⟩
    · -- the merged node carries the leaves of the two trees it joins
      refine (hperm.flatMap_right _).trans ?_
      simp only [queueLeaves, List.flatMap_cons, x, CodeTree.depths, List.map_append,
        CodeTree.map_fst_depths a.tree 1 0, CodeTree.map_fst_depths b.tree 1 0, List.append_assoc]
      rfl
    · by_cases hrest : rest = []
      · subst hrest
        have : mergeQueue (merged + 1) [x] = some x.tree := by rw [mergeQueue]
        rw [show insertPending x [] = [x] from rfl, this] at ht
        exact ⟨a.tree, b.tree, (Option.some.inj ht).symm⟩
      · apply hnode
        rw [hperm.length_eq, List.length_cons]
        have := List.length_pos_of_ne_nil hrest
        omega

theorem queueOf_perm (nodes : List Pending) : (queueOf nodes).Perm nodes := by
  induction nodes with
  | nil => rfl
  | cons x xs ih => exact (insertPending_perm x _).trans (ih.cons x)

/-- The values that occur, in increasing order. -/
theorem map_fst_usedSymbols (freq : Array Nat) :
    (usedSymbols freq).map Prod.fst = (List.range 256).filter fun s => 0 < freq.getD s 0 := by
  simp [usedSymbols, List.filter_map, Function.comp_def]

theorem mergeTree_spec (freq : Array Nat) (h : usedSymbols freq ≠ []) :
    ∃ t, mergeTree freq = some t ∧
      ((t.depths 0).map Prod.fst).Perm ((List.range 256).filter fun s => 0 < freq.getD s 0) ∧
      (2 ≤ (usedSymbols freq).length → ∃ l r, t = .node l r) := by
  set nodes := (usedSymbols freq).map leafNode
  have hq := queueOf_perm nodes
  have hne : queueOf nodes ≠ [] := fun h' => by
    have := hq.length_eq
    simp [h', nodes] at this
    exact h (List.eq_nil_of_length_eq_zero this.symm)
  obtain ⟨t, ht, hleaves, hnode⟩ := mergeQueue_spec 0 (queueOf nodes) hne
  refine ⟨t, ht, hleaves.trans ?_, fun h2 => hnode ?_⟩
  · refine (hq.flatMap_right _).trans ?_
    rw [← map_fst_usedSymbols]
    simp [nodes, leafNode, CodeTree.depths, List.flatMap_map, ← List.map_eq_flatMap]
  · rw [hq.length_eq, List.length_map]
    exact h2

/-! ## Length tables -/

theorem lookup_of_mem {D : List (Nat × Nat)} (hnd : (D.map Prod.fst).Nodup) {s d : Nat}
    (h : (s, d) ∈ D) : D.lookup s = some d := by
  induction D with
  | nil => simp at h
  | cons p D ih =>
    obtain ⟨k, e⟩ := p
    rw [List.map_cons, List.nodup_cons] at hnd
    rcases List.mem_cons.1 h with h | h
    · obtain ⟨rfl, rfl⟩ := Prod.mk.inj h
      simp only [List.lookup_cons, beq_self_eq_true]
    · have hsk : (s == k) = false := beq_false_of_ne fun hsk =>
        hnd.1 (hsk ▸ List.mem_map.2 ⟨(s, d), h, rfl⟩)
      simp only [List.lookup_cons, hsk]
      exact ih hnd.2 h

theorem lookup_of_not_mem {D : List (Nat × Nat)} {s : Nat} (h : s ∉ D.map Prod.fst) :
    D.lookup s = none := by
  induction D with
  | nil => rfl
  | cons p D ih =>
    obtain ⟨k, e⟩ := p
    rw [List.map_cons, List.mem_cons, not_or] at h
    have hsk : (s == k) = false := beq_false_of_ne h.1
    simp only [List.lookup_cons, hsk]
    exact ih h.2

theorem size_lengthTable (D : List (Nat × Nat)) : (lengthTable D).size = 256 := by
  have h : ∀ acc : Array Nat,
      (D.foldl (fun t (p : Nat × Nat) => t.set! p.1 p.2) acc).size = acc.size := by
    induction D with
    | nil => intro acc; rfl
    | cons p D ih => intro acc; rw [List.foldl_cons, ih, Array.size_set!]
  exact (h _).trans (Array.size_replicate ..)

/-- Setting the entries of an array from pairs with distinct first components: each entry
named ends up with its value. -/
theorem getD_foldl_set! {f : Array Nat → Nat × Nat → Array Nat}
    (hf : ∀ t p, f t p = t.set! p.1 p.2) {D : List (Nat × Nat)} (hnd : (D.map Prod.fst).Nodup)
    (hlt : ∀ p ∈ D, p.1 < 256) {acc : Array Nat} (hacc : acc.size = 256) (s : Nat) :
    (D.foldl f acc).getD s 0 = (D.lookup s).getD (acc.getD s 0) := by
  induction D generalizing acc with
  | nil => rfl
  | cons p D ih =>
    obtain ⟨k, e⟩ := p
    rw [List.map_cons, List.nodup_cons] at hnd
    rw [List.foldl_cons, hf, ih hnd.2 (fun q hq => hlt q (List.mem_cons_of_mem _ hq))
      (by simp [hacc])]
    by_cases hks : k = s
    · subst hks
      rw [lookup_of_not_mem hnd.1, Option.getD_none,
        getD_set!_self (by rw [hacc]; exact hlt _ List.mem_cons_self)]
      simp only [List.lookup_cons, beq_self_eq_true, Option.getD_some]
    · have hsk : (s == k) = false := beq_false_of_ne (Ne.symm hks)
      rw [getD_set!_of_ne _ hks]
      simp only [List.lookup_cons, hsk]

/-- A length table holds the depth of every value at a leaf, and 0 for the others. -/
theorem getD_lengthTable {D : List (Nat × Nat)} (hnd : (D.map Prod.fst).Nodup)
    (hlt : ∀ p ∈ D, p.1 < 256) (s : Nat) :
    (lengthTable D).getD s 0 = (D.lookup s).getD 0 := by
  unfold lengthTable
  refine (getD_foldl_set! ?_ hnd hlt (Array.size_replicate ..) s).trans ?_
  · intro t p
    rfl
  · have h0 : (Array.replicate 256 0).getD s 0 = 0 := by
      simp only [Array.getD_eq_getD_getElem?, Array.getElem?_replicate]
      split <;> rfl
    rw [h0]

/-- Kraft's sum of the depths in `D` that are at most `n`, counted in `n`-bit strings. -/
def kraftOf (D : List (Nat × Nat)) (n : Nat) : Nat :=
  (D.map fun p => if p.2 ≤ n then 2 ^ (n - p.2) else 0).sum

theorem kraftOf_succ {D : List (Nat × Nat)} (hpos : ∀ p ∈ D, 0 < p.2) (n : Nat) :
    kraftOf D (n + 1) = 2 * kraftOf D n + D.countP (fun p => p.2 = n + 1) := by
  induction D with
  | nil => rfl
  | cons p D ih =>
    have hp := hpos p List.mem_cons_self
    simp only [kraftOf, List.map_cons, List.sum_cons, List.countP_cons] at ih ⊢
    rw [ih fun q hq => hpos q (List.mem_cons_of_mem p hq)]
    -- a depth up to `n` doubles, the depth `n + 1` counts once, and deeper ones not at all
    have hterm : (if p.2 ≤ n + 1 then 2 ^ (n + 1 - p.2) else 0) =
        2 * (if p.2 ≤ n then 2 ^ (n - p.2) else 0) + (if p.2 = n + 1 then 1 else 0) := by
      by_cases h1 : p.2 ≤ n
      · rw [if_pos (by omega), if_pos h1, if_neg (by omega),
          show n + 1 - p.2 = n - p.2 + 1 by omega, Nat.pow_succ]
        ring
      · by_cases h2 : p.2 = n + 1
        · rw [if_pos (by omega), if_neg h1, if_pos h2, h2, Nat.sub_self]
          rfl
        · rw [if_neg (by omega), if_neg h1, if_neg h2]
    rw [hterm]
    simp only [decide_eq_true_eq]
    ring

/-- A length table with every depth positive has, of each length, the values of that depth. -/
theorem length_withLength_lengthTable {D : List (Nat × Nat)} (hnd : (D.map Prod.fst).Nodup)
    (hlt : ∀ p ∈ D, p.1 < 256) {l : Nat} (hl : 0 < l) :
    (withLength (lengthTable D) l).length = D.countP (fun p => p.2 = l) := by
  have hperm : (withLength (lengthTable D) l).Perm ((D.filter fun p => p.2 = l).map Prod.fst) := by
    refine (List.perm_ext_iff_of_nodup (nodup_withLength l)
      (hnd.sublist ((List.filter_sublist).map _))).2 fun s => ?_
    rw [mem_withLength, getD_lengthTable hnd hlt]
    simp only [List.mem_map, List.mem_filter, decide_eq_true_eq]
    constructor
    · rintro ⟨hs, hd⟩
      by_cases hk : s ∈ D.map Prod.fst
      · obtain ⟨⟨k, d⟩, hmem, rfl⟩ := List.mem_map.1 hk
        rw [lookup_of_mem hnd hmem, Option.getD_some] at hd
        exact ⟨(k, d), ⟨hmem, hd⟩, rfl⟩
      · rw [lookup_of_not_mem hk, Option.getD_none] at hd
        omega
    · rintro ⟨⟨k, d⟩, ⟨hmem, hd⟩, rfl⟩
      exact ⟨hlt _ hmem, by rw [lookup_of_mem hnd hmem]; exact hd⟩
  rw [hperm.length_eq, List.length_map, List.countP_eq_length_filter]

theorem kraftUpTo_lengthTable {D : List (Nat × Nat)} (hnd : (D.map Prod.fst).Nodup)
    (hlt : ∀ p ∈ D, p.1 < 256) (hpos : ∀ p ∈ D, 0 < p.2) (n : Nat) :
    kraftUpTo (lengthTable D) n = kraftOf D n := by
  induction n with
  | zero =>
    symm
    refine List.sum_eq_zero fun x hx => ?_
    obtain ⟨p, hp, rfl⟩ := List.mem_map.1 hx
    have := hpos p hp
    simp
    omega
  | succ n ih =>
    rw [kraftUpTo, ih, kraftOf_succ hpos, length_withLength_lengthTable hnd hlt (Nat.succ_pos n)]

/-! ## Valid code lengths -/

/-- Code lengths fit for byte frequencies: one per byte value, positive exactly for the values
that occur, none longer than the container allows, and within Kraft's inequality. -/
structure ValidLengths (freq ls : Array Nat) : Prop where
  size_eq : ls.size = 256
  pos_iff : ∀ s < 256, 0 < ls.getD s 0 ↔ 0 < freq.getD s 0
  longest_le : longestLength ls ≤ maxCodeLength
  kraft : kraftUpTo ls (longestLength ls) ≤ 2 ^ longestLength ls

/-- The length table of leaves at positive depths, one per value that occurs, none deeper than
the container allows, and within Kraft's inequality at every depth that covers them. -/
theorem validLengths_lengthTable {freq : Array Nat} {D : List (Nat × Nat)}
    (hkeys : (D.map Prod.fst).Perm ((List.range 256).filter fun s => 0 < freq.getD s 0))
    (hpos : ∀ p ∈ D, 0 < p.2) (hmax : ∀ p ∈ D, p.2 ≤ maxCodeLength)
    (hkraft : ∀ n, (∀ p ∈ D, p.2 ≤ n) → kraftOf D n ≤ 2 ^ n) :
    ValidLengths freq (lengthTable D) := by
  have hnd : (D.map Prod.fst).Nodup := hkeys.nodup_iff.2 (List.nodup_range.filter _)
  have hmem : ∀ s, s ∈ D.map Prod.fst ↔ s < 256 ∧ 0 < freq.getD s 0 := fun s => by
    rw [hkeys.mem_iff]
    simp
  have hlt : ∀ p ∈ D, p.1 < 256 := fun p hp => ((hmem p.1).1 (List.mem_map_of_mem hp)).1
  have hsize := size_lengthTable D
  -- every entry is the depth of its value's leaf, or 0 for a value that does not occur
  have hentry : ∀ s, (∃ p ∈ D, p.1 = s ∧ (lengthTable D).getD s 0 = p.2) ∨
      (s ∉ D.map Prod.fst ∧ (lengthTable D).getD s 0 = 0) := by
    intro s
    rw [getD_lengthTable hnd hlt]
    by_cases hk : s ∈ D.map Prod.fst
    · obtain ⟨⟨k, d⟩, hkd, rfl⟩ := List.mem_map.1 hk
      exact .inl ⟨(k, d), hkd, rfl, by rw [lookup_of_mem hnd hkd]; rfl⟩
    · exact .inr ⟨hk, by rw [lookup_of_not_mem hk]; rfl⟩
  refine ⟨hsize, fun s hs => ?_, ?_, ?_⟩
  · rcases hentry s with ⟨p, hp, rfl, he⟩ | ⟨hk, he⟩
    · rw [he]
      exact ⟨fun _ => ((hmem p.1).1 (List.mem_map_of_mem hp)).2, fun _ => hpos p hp⟩
    · rw [he]
      exact ⟨fun h => absurd h (Nat.lt_irrefl 0), fun h => absurd ((hmem s).2 ⟨hs, h⟩) hk⟩
  · refine longestLength_le hsize fun s _ => ?_
    rcases hentry s with ⟨p, hp, _, he⟩ | ⟨_, he⟩
    · rw [he]; exact hmax p hp
    · rw [he]; exact Nat.zero_le _
  · rw [kraftUpTo_lengthTable hnd hlt hpos]
    refine hkraft _ fun p hp => ?_
    rcases hentry p.1 with ⟨q, hq, hqp, he⟩ | ⟨hk, _⟩
    · -- the two pairs name the same value, so they are the same leaf
      have : q = p := by
        have h1 := lookup_of_mem hnd hq
        have h2 := lookup_of_mem hnd hp
        rw [hqp] at h1
        rw [h1] at h2
        exact Prod.ext hqp (Option.some.inj h2)
      subst this
      rw [← he]
      exact getD_le_longestLength hsize q.1
    · exact absurd (List.mem_map_of_mem hp) hk

/-! ## Code lengths of byte frequencies -/

/-- Some value would get a code longer than the container allows: a leaf of the merge tree lies
deeper than `maxCodeLength`. -/
def TooDeep (freq : Array Nat) : Prop :=
  ∃ t, mergeTree freq = some t ∧ ∃ p ∈ t.depths 0, maxCodeLength < p.2

instance (freq : Array Nat) : Decidable (TooDeep freq) :=
  decidable_of_iff ((mergeTree freq).any fun t => (t.depths 0).any fun p => maxCodeLength < p.2)
    (by cases h : mergeTree freq <;> simp [TooDeep, h])

/-- Kraft's sum of the leaves of a tree, all within `n`, is all of the `2 ^ n` strings. -/
theorem kraftOf_depths (t : CodeTree) {n : Nat} (h : ∀ p ∈ t.depths 0, p.2 ≤ n) :
    kraftOf (t.depths 0) n = 2 ^ n := by
  rw [kraftOf, List.map_congr_left fun p hp => if_pos (h p hp), CodeTree.sum_depths t 0 n h,
    Nat.sub_zero]

/-- The code lengths of byte frequencies: refused exactly when a leaf of the merge tree is too
deep, and valid lengths otherwise. -/
theorem codeLengths_spec (freq : Array Nat) :
    (TooDeep freq → codeLengths freq = .error .invalidCodeTable) ∧
      (¬TooDeep freq → ∃ ls, codeLengths freq = .ok ls ∧ ValidLengths freq ls) := by
  have hused := map_fst_usedSymbols freq
  unfold codeLengths
  split
  · -- no value occurs: there is no tree, and every length is 0
    rename_i h
    refine ⟨?_, fun _ => ⟨lengthTable [], rfl, ?_⟩⟩
    · rintro ⟨t, ht, _⟩
      simp [mergeTree, h, queueOf, mergeQueue] at ht
    · exact validLengths_lengthTable (by rw [← hused, h]) (by simp) (by simp)
        fun n _ => by simp [kraftOf]
  · -- one value occurs: its tree is a lone leaf, and it gets a one-bit code
    rename_i s w h
    have hleaf : mergeTree freq = some (.leaf s) := by
      rw [mergeTree, h]
      simp only [List.map_cons, List.map_nil, queueOf, List.foldr_cons, List.foldr_nil,
        insertPending, leafNode]
      rw [mergeQueue]
    have htable : lengthTable [(s, 1)] = (Array.replicate 256 0).set! s 1 := by
      simp only [lengthTable, List.foldl_cons, List.foldl_nil]
    refine ⟨?_, fun _ => ⟨lengthTable [(s, 1)], by rw [htable], ?_⟩⟩
    · rintro ⟨t, ht, p, hp, hdeep⟩
      rw [hleaf, Option.some.injEq] at ht
      subst ht
      simp only [CodeTree.depths, List.mem_singleton] at hp
      subst hp
      exact absurd hdeep (Nat.not_lt_zero _)
    · refine validLengths_lengthTable (by rw [← hused, h]; exact .refl _) (by simp)
        (by simp [maxCodeLength])
        fun n hn => ?_
      have h1 : 1 ≤ n := hn (s, 1) List.mem_cons_self
      simp only [kraftOf, List.map_cons, List.map_nil, List.sum_cons, List.sum_nil, if_pos h1,
        Nat.add_zero]
      exact Nat.pow_le_pow_right (by decide) (Nat.sub_le n 1)
  · -- several values occur: the merge tree is a node, and its leaves give the lengths
    rename_i hnil hone
    have hne : usedSymbols freq ≠ [] := fun h => hnil h
    have htwo : 2 ≤ (usedSymbols freq).length := by
      rcases hu : usedSymbols freq with _ | ⟨⟨s, w⟩, _ | ⟨p, rest⟩⟩
      · exact absurd hu hne
      · exact absurd hu (hone s w)
      · simp
    obtain ⟨t, ht, hleaves, hnode⟩ := mergeTree_spec freq hne
    obtain ⟨l, r, rfl⟩ := hnode htwo
    have hdeep : TooDeep freq ↔ ((l.node r).depths 0).any (fun p => p.2 > maxCodeLength) = true := by
      simp [TooDeep, ht]
    simp only [ht]
    refine ⟨?_, ?_⟩
    · intro h
      rw [if_pos (hdeep.1 h)]
    intro h
    rw [if_neg (fun h' => h (hdeep.2 h'))]
    refine ⟨_, rfl, validLengths_lengthTable hleaves ?_ ?_ fun n hn => ?_⟩
    · -- below a node every leaf lies at depth 1 or deeper
      intro p hp
      rcases List.mem_append.1 hp with hp | hp
      · have := CodeTree.le_of_mem_depths hp; omega
      · have := CodeTree.le_of_mem_depths hp; omega
    · intro p hp
      by_contra hgt
      exact h ⟨_, ht, p, hp, by omega⟩
    · exact le_of_eq (kraftOf_depths _ hn)

end Tftp.Huffman
