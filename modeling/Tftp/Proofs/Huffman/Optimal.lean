import Tftp.Proofs.Huffman.Untrusted
import Mathlib

/-!
# Huffman code lengths are optimal

The code lengths of the merge tree give each value that occurs a positive length and no other
value one, meet Kraft's inequality with equality once two values occur, and write the input in
the fewest bits any positive lengths within Kraft's inequality can (`codeLengths_optimal`). The
container is then the header and those bits in whole bytes, never more than the header and the
input itself (`compress_optimal`).

The bound is proved against lengths, not trees. Lengths for weights are pairs of a weight and a
length (`pairCost` is the bits they take). A lightest weight may be given the longest length at
no cost (`exchange_lightest`); doing so for the two lightest, they can be merged into one weight
with the second longest length less one, which Kraft's sum still allows and which saves their
total weight (`merge_bound`). Merging the queue does just that at every step, and a merged node
adds its weight to the cost of its tree (`CodeTree.cost_node`), so the tree costs no more than
any lengths for the queue's weights (`mergeQueue_cost_le`).
-/

namespace Tftp.Huffman

/-! ## Lengths for weights -/

/-- The bits that lengths take for weights, each pair a weight and its length. -/
def pairCost (P : List (Nat × Nat)) : Nat := (P.map fun p => p.1 * p.2).sum

theorem pairCost_cons (p : Nat × Nat) (P : List (Nat × Nat)) :
    pairCost (p :: P) = p.1 * p.2 + pairCost P := by
  simp [pairCost]

theorem pairCost_perm {P P' : List (Nat × Nat)} (h : P.Perm P') : pairCost P = pairCost P' :=
  (h.map _).sum_eq

theorem kraftOf_perm {P P' : List (Nat × Nat)} (h : (P.map Prod.snd).Perm (P'.map Prod.snd))
    (n : Nat) : kraftOf P n = kraftOf P' n := by
  have hP : ∀ Q : List (Nat × Nat), kraftOf Q n =
      ((Q.map Prod.snd).map fun l => if l ≤ n then 2 ^ (n - l) else 0).sum := by
    intro Q
    simp [kraftOf, Function.comp_def]
  rw [hP, hP]
  exact (h.map _).sum_eq

theorem kraftOf_cons {p : Nat × Nat} {n : Nat} (h : p.2 ≤ n) (P : List (Nat × Nat)) :
    kraftOf (p :: P) n = 2 ^ (n - p.2) + kraftOf P n := by
  simp [kraftOf, h]

/-- Counted in longer strings, Kraft's sum of lengths up to `m` scales by the extra strings. -/
theorem kraftOf_scale {R : List (Nat × Nat)} {m n : Nat} (hR : ∀ p ∈ R, p.2 ≤ m) (hmn : m ≤ n) :
    kraftOf R n = 2 ^ (n - m) * kraftOf R m := by
  induction R with
  | nil => simp [kraftOf]
  | cons p R ih =>
    have hp := hR p List.mem_cons_self
    rw [kraftOf_cons (by omega), kraftOf_cons hp, ih fun q hq => hR q (List.mem_cons_of_mem p hq),
      Nat.mul_add, ← Nat.pow_add]
    congr 2
    omega

theorem length_le_kraftOf {R : List (Nat × Nat)} {m : Nat} (hR : ∀ p ∈ R, p.2 ≤ m) :
    R.length ≤ kraftOf R m := by
  induction R with
  | nil => simp
  | cons p R ih =>
    have hp := hR p List.mem_cons_self
    rw [kraftOf_cons hp, List.length_cons]
    have := ih fun q hq => hR q (List.mem_cons_of_mem p hq)
    have := Nat.one_le_two_pow (n := m - p.2)
    omega

/-- A lightest weight may take the longest length: the weights and the lengths stay the same
and the bits do not grow. -/
theorem exchange_lightest {P : List (Nat × Nat)} {w : Nat} (hw : w ∈ P.map Prod.fst)
    (hmin : ∀ p ∈ P, w ≤ p.1) :
    ∃ M R, (((w, M) :: R).map Prod.fst).Perm (P.map Prod.fst) ∧
      (((w, M) :: R).map Prod.snd).Perm (P.map Prod.snd) ∧ (∀ p ∈ R, p.2 ≤ M) ∧
      pairCost ((w, M) :: R) ≤ pairCost P := by
  obtain ⟨⟨w, l⟩, hx, rfl⟩ := List.mem_map.1 hw
  -- the pair with the longest length
  obtain ⟨⟨v, M⟩, hy, hmax⟩ : ∃ y ∈ P, ∀ p ∈ P, p.2 ≤ y.2 := by
    cases h : List.argmax Prod.snd P with
    | none => simp [List.argmax_eq_none] at h; simp [h] at hx
    | some y => exact ⟨y, List.argmax_mem h, fun p hp => List.le_of_mem_argmax hp h⟩
  by_cases hxy : (w, l) = (v, M)
  · -- the lightest pair is already the longest
    obtain ⟨rfl, rfl⟩ := Prod.mk.inj hxy
    have hperm := List.perm_cons_erase hx
    exact ⟨l, P.erase (w, l), (hperm.map _).symm, (hperm.map _).symm,
      fun p hp => hmax p (List.mem_of_mem_erase hp), (pairCost_perm hperm).ge⟩
  · -- swap the two lengths
    have hy' : (v, M) ∈ P.erase (w, l) := (List.mem_erase_of_ne (Ne.symm hxy)).2 hy
    have hperm : P.Perm ((w, l) :: (v, M) :: (P.erase (w, l)).erase (v, M)) :=
      (List.perm_cons_erase hx).trans ((List.perm_cons_erase hy').cons _)
    set R₀ := (P.erase (w, l)).erase (v, M)
    have hR₀ : ∀ p ∈ R₀, p ∈ P := fun p hp => List.mem_of_mem_erase (List.mem_of_mem_erase hp)
    refine ⟨M, (v, l) :: R₀, ?_, ?_, ?_, ?_⟩
    · simpa using (hperm.map Prod.fst).symm
    · have h := (hperm.map Prod.snd).symm
      simp only [List.map_cons] at h ⊢
      exact (List.Perm.swap l M _).trans h
    · intro p hp
      rcases List.mem_cons.1 hp with rfl | hp
      · exact hmax (w, l) hx
      · exact hmax p (hR₀ p hp)
    · rw [pairCost_perm hperm]
      -- the lighter weight takes the longer length: the rearrangement inequality
      have h : w * M + v * l ≤ w * l + v * M := mul_add_mul_le_mul_add_mul (hmin _ hy) (hmax _ hx)
      simp only [pairCost_cons]
      omega

/-- The two lightest weights, given the two longest lengths, merge into one weight with the
second longest length less one: Kraft's sum allows it, and it saves their total weight. -/
theorem merge_bound {P : List (Nat × Nat)} {a b n : Nat} {ws : List Nat}
    (hP : (P.map Prod.fst).Perm (a :: b :: ws)) (hab : a ≤ b) (hmin : ∀ w ∈ ws, b ≤ w)
    (hlen : ∀ l ∈ P.map Prod.snd, 0 < l ∧ l ≤ n) (hk : kraftOf P n ≤ 2 ^ n) (hws : ws ≠ []) :
    ∃ P', (P'.map Prod.fst).Perm ((a + b) :: ws) ∧ (∀ l ∈ P'.map Prod.snd, 0 < l ∧ l ≤ n) ∧
      kraftOf P' n ≤ 2 ^ n ∧ pairCost P' + (a + b) ≤ pairCost P := by
  -- the lightest weight takes the longest length, the next lightest the next longest
  obtain ⟨M, R₁, hw₁, hl₁, hM, hc₁⟩ := exchange_lightest (hP.symm.subset List.mem_cons_self)
    fun p hp => by
      rcases List.mem_cons.1 (hP.subset (List.mem_map_of_mem hp)) with h | h
      · omega
      rcases List.mem_cons.1 h with h | h
      · omega
      · have := hmin _ h
        omega
  have hw₁' : (R₁.map Prod.fst).Perm (b :: ws) := List.Perm.cons_inv (hw₁.trans hP)
  obtain ⟨M₂, R₂, hw₂, hl₂, hM₂, hc₂⟩ := exchange_lightest (hw₁'.symm.subset List.mem_cons_self)
    fun p hp => by
      rcases List.mem_cons.1 (hw₁'.subset (List.mem_map_of_mem hp)) with h | h
      · omega
      · exact hmin _ h
  have hw₂' : (R₂.map Prod.fst).Perm ws := List.Perm.cons_inv (hw₂.trans hw₁')
  have hsnd : (((a, M) :: (b, M₂) :: R₂).map Prod.snd).Perm (P.map Prod.snd) := by
    simp only [List.map_cons] at hl₂ ⊢
    exact (hl₂.cons M).trans hl₁
  have hlen' : ∀ l ∈ ((a, M) :: (b, M₂) :: R₂).map Prod.snd, 0 < l ∧ l ≤ n :=
    fun l hl => hlen l (hsnd.subset hl)
  have hMn : 0 < M ∧ M ≤ n := hlen' M (by simp)
  have hM₂n : 0 < M₂ ∧ M₂ ≤ n := hlen' M₂ (by simp)
  have hR₂n : ∀ p ∈ R₂, p.2 ≤ n := fun p hp => (hlen' p.2 (by simp [List.mem_map_of_mem hp])).2
  have hM₂M : M₂ ≤ M := by
    obtain ⟨q, hq, hqM⟩ := List.mem_map.1 (hl₂.subset (List.mem_cons_self (a := M₂)))
    rw [← hqM]
    exact hM q hq
  -- Kraft's sum of the rest is a whole number of strings of the second longest length
  set K := kraftOf R₂ M₂
  have hscale : kraftOf R₂ n = 2 ^ (n - M₂) * K := kraftOf_scale hM₂ hM₂n.2
  have hK : 1 ≤ K := by
    have h1 := length_le_kraftOf hM₂
    have h2 : R₂ ≠ [] := fun h => hws (List.Perm.eq_nil (by simpa [h] using hw₂'.symm))
    have := List.length_pos_of_ne_nil h2
    omega
  have hpow : 2 ^ n = 2 ^ (n - M₂) * 2 ^ M₂ := by rw [← Nat.pow_add, Nat.sub_add_cancel hM₂n.2]
  have hkP : 2 ^ (n - M) + 2 ^ (n - M₂) * (1 + K) ≤ 2 ^ (n - M₂) * 2 ^ M₂ := by
    rw [kraftOf_perm hsnd.symm, kraftOf_cons hMn.2, kraftOf_cons hM₂n.2, hscale] at hk
    simp only at hk
    linarith
  have hroom : 2 + K ≤ 2 ^ M₂ := by
    have h1 : 2 ^ (n - M₂) * (1 + K) < 2 ^ (n - M₂) * 2 ^ M₂ := by
      have := Nat.one_le_two_pow (n := n - M)
      omega
    have := Nat.lt_of_mul_lt_mul_left h1
    omega
  -- the second longest length is at least 2, since the rest takes at least one string
  have hM₂2 : 2 ≤ M₂ := by
    by_contra h
    have h1 : M₂ = 1 := by omega
    rw [h1] at hroom
    simp at hroom
    omega
  refine ⟨(a + b, M₂ - 1) :: R₂, by simpa using hw₂'.cons (a + b), ?_, ?_, ?_⟩
  · intro l hl
    rcases List.mem_cons.1 hl with rfl | hl
    · omega
    · exact hlen' l (by simp [hl])
  · rw [kraftOf_cons (by simp; omega), hscale]
    have h2 : 2 ^ (n - (M₂ - 1)) = 2 * 2 ^ (n - M₂) := by
      rw [show n - (M₂ - 1) = n - M₂ + 1 by omega, Nat.pow_succ, Nat.mul_comm]
    simp only
    rw [h2, hpow]
    calc 2 * 2 ^ (n - M₂) + 2 ^ (n - M₂) * K = 2 ^ (n - M₂) * (2 + K) := by ring
      _ ≤ 2 ^ (n - M₂) * 2 ^ M₂ := Nat.mul_le_mul_left _ hroom
  · simp only [pairCost_cons] at hc₁ hc₂ ⊢
    obtain ⟨k, hk⟩ : ∃ k, M₂ = k + 1 := ⟨M₂ - 1, by omega⟩
    subst hk
    simp only [Nat.add_sub_cancel]
    have h1 : a * (k + 1) ≤ a * M := Nat.mul_le_mul_left a hM₂M
    have h2 : (a + b) * k + (a + b) = a * (k + 1) + b * (k + 1) := by ring
    omega

theorem sum_fst_le_pairCost {P : List (Nat × Nat)} (hlen : ∀ l ∈ P.map Prod.snd, 0 < l) :
    (P.map Prod.fst).sum ≤ pairCost P := by
  induction P with
  | nil => simp [pairCost]
  | cons p P ih =>
    have hp : 0 < p.2 := hlen p.2 List.mem_cons_self
    rw [List.map_cons, List.sum_cons, pairCost_cons]
    have := ih fun l hl => hlen l (List.mem_cons_of_mem _ hl)
    have : p.1 ≤ p.1 * p.2 := Nat.le_mul_of_pos_right _ hp
    omega

/-! ## The cost of a merge tree -/

namespace CodeTree

/-- The bits a tree's codes take when each leaf `s` is written `f s` times. -/
def cost (f : Nat → Nat) (t : CodeTree) : Nat := ((t.depths 0).map fun p => f p.1 * p.2).sum

/-- How often the leaves of a tree are written in all. -/
def weight (f : Nat → Nat) (t : CodeTree) : Nat := ((t.depths 0).map fun p => f p.1).sum

theorem depths_succ (t : CodeTree) (k : Nat) :
    t.depths (k + 1) = (t.depths k).map fun p => (p.1, p.2 + 1) := by
  induction t generalizing k with
  | leaf s => rfl
  | node l r ihl ihr => simp [depths, ihl, ihr]

@[simp] theorem cost_leaf (f : Nat → Nat) (s : Nat) : (leaf s).cost f = 0 := by
  simp [cost, depths]

@[simp] theorem weight_leaf (f : Nat → Nat) (s : Nat) : (leaf s).weight f = f s := by
  simp [weight, depths]

theorem weight_node (f : Nat → Nat) (l r : CodeTree) :
    (node l r).weight f = l.weight f + r.weight f := by
  simp [weight, depths, depths_succ, Function.comp_def]

/-- Joining two trees puts each of their leaves one level deeper, so every use of a leaf takes
one more bit. -/
theorem cost_node (f : Nat → Nat) (l r : CodeTree) :
    (node l r).cost f = l.cost f + l.weight f + (r.cost f + r.weight f) := by
  simp only [cost, weight, depths, depths_succ, List.map_append, List.map_map, Function.comp_def,
    Nat.mul_add, Nat.mul_one, List.sum_append, List.sum_map_add]

end CodeTree

/-! ## Merging the queue -/

/-- Weights never decrease along a queue. -/
def WeightSorted (q : List Pending) : Prop := q.Pairwise fun a b => a.weight ≤ b.weight

theorem weightSorted_insertPending (x : Pending) {q : List Pending} (hq : WeightSorted q) :
    WeightSorted (insertPending x q) := by
  induction q with
  | nil => simp [WeightSorted, insertPending]
  | cons y ys ih =>
    rw [WeightSorted, List.pairwise_cons] at hq
    simp only [insertPending]
    split
    · -- `x` goes first: it is no heavier than `y`, nor than anything after it
      rename_i h
      have hxy : x.weight ≤ y.weight := by simp [Pending.before] at h; omega
      refine List.pairwise_cons.2 ⟨fun z hz => ?_, List.pairwise_cons.2 hq⟩
      rcases List.mem_cons.1 hz with rfl | hz
      · exact hxy
      · exact hxy.trans (hq.1 z hz)
    · rename_i h
      have hyx : y.weight ≤ x.weight := by simp [Pending.before] at h; omega
      refine List.pairwise_cons.2 ⟨fun z hz => ?_, ih hq.2⟩
      rcases List.mem_cons.1 ((insertPending_perm x ys).subset hz) with rfl | hz
      · exact hyx
      · exact hq.1 z hz

theorem weightSorted_queueOf (nodes : List Pending) : WeightSorted (queueOf nodes) := by
  induction nodes with
  | nil => simp [WeightSorted, queueOf]
  | cons x xs ih => exact weightSorted_insertPending x ih

/-- Merging a queue sorted by weight, whose nodes weigh what their trees do, gives a tree that
costs no more than the queue's trees and any positive lengths within Kraft's inequality for
the queue's weights. -/
theorem mergeQueue_cost_le (f : Nat → Nat) (m : Nat) (Q : List Pending) (hsort : WeightSorted Q)
    (hw : ∀ x ∈ Q, x.weight = x.tree.weight f) (P : List (Nat × Nat)) (n : Nat)
    (hP : (P.map Prod.fst).Perm (Q.map Pending.weight)) (hlen : ∀ l ∈ P.map Prod.snd, 0 < l ∧ l ≤ n)
    (hk : kraftOf P n ≤ 2 ^ n) {T : CodeTree} (hT : mergeQueue m Q = some T) :
    T.cost f ≤ (Q.map fun x => x.tree.cost f).sum + pairCost P := by
  fun_induction mergeQueue m Q generalizing P with
  | case1 => cases hT
  | case2 merged x =>
    cases hT
    simp
  | case3 merged a b rest ih =>
    set x : Pending := ⟨a.weight + b.weight, 256 + merged, .node a.tree b.tree⟩
    rw [WeightSorted, List.pairwise_cons, List.pairwise_cons] at hsort
    have hab : a.weight ≤ b.weight := hsort.1 b List.mem_cons_self
    have hwa := hw a List.mem_cons_self
    have hwb := hw b (List.mem_cons_of_mem _ List.mem_cons_self)
    have hperm := insertPending_perm x rest
    have hcost : x.tree.cost f = a.tree.cost f + a.weight + (b.tree.cost f + b.weight) := by
      rw [hwa, hwb]
      exact CodeTree.cost_node f a.tree b.tree
    by_cases hrest : rest = []
    · -- the last merge: its tree is the result, and positive lengths pay both weights
      subst hrest
      have hT' : x.tree = T := by
        rw [show insertPending x [] = [x] from rfl, mergeQueue] at hT
        exact Option.some.inj hT
      have hpay := sum_fst_le_pairCost fun l hl => (hlen l hl).1
      rw [hP.sum_eq] at hpay
      rw [← hT', hcost]
      simp only [List.map_cons, List.map_nil, List.sum_cons, List.sum_nil] at hpay ⊢
      omega
    · -- merge the two lightest weights in the lengths too, and carry on with the new queue
      obtain ⟨P', hP', hlen', hk', hc'⟩ := merge_bound hP hab
        (fun w hw' => by
          obtain ⟨y, hy, rfl⟩ := List.mem_map.1 hw'
          exact hsort.2.1 y hy)
        hlen hk (by simpa using hrest)
      have hsort' := weightSorted_insertPending x hsort.2.2
      have hw' : ∀ y ∈ insertPending x rest, y.weight = y.tree.weight f := by
        intro y hy
        rcases List.mem_cons.1 (hperm.subset hy) with rfl | hy
        · simp only [x, CodeTree.weight_node, ← hwa, ← hwb]
        · exact hw y (List.mem_cons_of_mem _ (List.mem_cons_of_mem _ hy))
      have hP'' : (P'.map Prod.fst).Perm ((insertPending x rest).map Pending.weight) :=
        hP'.trans (by simpa using (hperm.map Pending.weight).symm)
      have h := ih hsort' hw' P' hP'' hlen' hk' hT
      rw [(hperm.map _).sum_eq, List.map_cons, List.sum_cons, hcost] at h
      simp only [List.map_cons, List.sum_cons]
      omega

/-! ## Lengths for the values that occur -/

/-- The share `∑ 2 ^ -L s` of the code space that lengths `L` take over the values that occur:
lengths of a prefix code keep it at most 1 (Kraft's inequality). -/
def codeSpace (freq : Array Nat) (L : Nat → Nat) : ℚ :=
  ((usedSymbols freq).map fun p => (2 : ℚ)⁻¹ ^ L p.1).sum

/-- The bits that lengths `L` take to write every value as often as it occurs. -/
def weightedLength (freq : Array Nat) (L : Nat → Nat) : Nat :=
  ((List.range 256).map fun s => freq.getD s 0 * L s).sum

theorem snd_of_mem_usedSymbols {freq : Array Nat} {p : Nat × Nat} (h : p ∈ usedSymbols freq) :
    p.2 = freq.getD p.1 0 := by
  obtain ⟨s, -, rfl⟩ := List.mem_map.1 (List.mem_filter.1 h).1
  rfl

theorem sum_filter_pos (l : List Nat) (f g : Nat → Nat) :
    ((l.filter fun s => 0 < f s).map fun s => f s * g s).sum = (l.map fun s => f s * g s).sum := by
  induction l with
  | nil => rfl
  | cons s l ih =>
    by_cases h : 0 < f s
    · simp [h, ih]
    · simp [ih, Nat.eq_zero_of_not_pos h]

/-- A sum over the values that occur is one over the keys of any table of them. -/
theorem sum_keys {α : Type} [AddCommMonoid α] {freq : Array Nat} {D : List (Nat × Nat)}
    (hkeys : (D.map Prod.fst).Perm ((List.range 256).filter fun s => 0 < freq.getD s 0))
    (g : Nat → α) :
    ((((List.range 256).filter fun s => 0 < freq.getD s 0)).map g).sum =
      (D.map fun q => g q.1).sum := by
  rw [← (hkeys.map g).sum_eq, List.map_map]
  rfl

/-- Lengths `L` for the values that occur, as lengths for their weights. -/
def usedLengths (freq : Array Nat) (L : Nat → Nat) : List (Nat × Nat) :=
  (usedSymbols freq).map fun p => (p.2, L p.1)

@[simp] theorem map_fst_usedLengths (freq : Array Nat) (L : Nat → Nat) :
    (usedLengths freq L).map Prod.fst = (usedSymbols freq).map Prod.snd := by
  simp [usedLengths, Function.comp_def]

@[simp] theorem map_snd_usedLengths (freq : Array Nat) (L : Nat → Nat) :
    (usedLengths freq L).map Prod.snd = (usedSymbols freq).map fun p => L p.1 := by
  simp [usedLengths, Function.comp_def]

theorem usedLengths_bounded {freq : Array Nat} {L : Nat → Nat}
    (hL : ∀ p ∈ usedSymbols freq, 0 < L p.1) :
    ∀ l ∈ (usedLengths freq L).map Prod.snd,
      0 < l ∧ l ≤ ((usedSymbols freq).map fun p => L p.1).sum := by
  intro l hl
  rw [map_snd_usedLengths] at hl
  obtain ⟨p, hp, rfl⟩ := List.mem_map.1 hl
  exact ⟨hL p hp, List.le_sum_of_mem hl⟩

/-- Lengths `L` write the values in the bits they take for the values' weights. -/
theorem weightedLength_eq_pairCost (freq : Array Nat) (L : Nat → Nat) :
    weightedLength freq L = pairCost (usedLengths freq L) := by
  have h := sum_keys (List.Perm.of_eq (map_fst_usedSymbols freq)) fun s => freq.getD s 0 * L s
  rw [weightedLength, ← sum_filter_pos, h, pairCost, usedLengths, List.map_map]
  exact congrArg List.sum (List.map_congr_left fun p hp => by
    simp [snd_of_mem_usedSymbols hp])

/-- Kraft's sum counted in `n`-bit strings is `2 ^ n` times the share of the code space. -/
theorem kraftOf_eq_mul {P : List (Nat × Nat)} {n : Nat} (h : ∀ p ∈ P, p.2 ≤ n) :
    (kraftOf P n : ℚ) = 2 ^ n * (P.map fun p => (2 : ℚ)⁻¹ ^ p.2).sum := by
  induction P with
  | nil => simp [kraftOf]
  | cons p P ih =>
    have hp := h p List.mem_cons_self
    have hpow : (2 : ℚ) ^ n = 2 ^ (n - p.2) * 2 ^ p.2 := by
      rw [← pow_add, Nat.sub_add_cancel hp]
    rw [kraftOf_cons hp, Nat.cast_add, ih fun q hq => h q (List.mem_cons_of_mem _ hq),
      List.map_cons, List.sum_cons, mul_add]
    congr 1
    rw [hpow, mul_assoc, ← mul_pow, mul_inv_cancel₀ two_ne_zero, one_pow, mul_one]
    norm_cast

theorem kraftOf_usedLengths {freq : Array Nat} {L : Nat → Nat} {n : Nat}
    (hn : ∀ l ∈ (usedLengths freq L).map Prod.snd, l ≤ n) (hL : codeSpace freq L ≤ 1) :
    kraftOf (usedLengths freq L) n ≤ 2 ^ n := by
  have h := kraftOf_eq_mul (P := usedLengths freq L) fun q hq => hn q.2 (List.mem_map_of_mem hq)
  have hspace : ((usedLengths freq L).map fun p => (2 : ℚ)⁻¹ ^ p.2).sum = codeSpace freq L := by
    simp [usedLengths, codeSpace, Function.comp_def]
  rw [hspace] at h
  have h' : (kraftOf (usedLengths freq L) n : ℚ) ≤ 2 ^ n := by
    rw [h]
    exact mul_le_of_le_one_right (by positivity) hL
  exact_mod_cast h'

theorem getD_lengthTable_of_mem {D : List (Nat × Nat)} (hnd : (D.map Prod.fst).Nodup)
    (hlt : ∀ p ∈ D, p.1 < 256) {q : Nat × Nat} (hq : q ∈ D) : (lengthTable D).getD q.1 0 = q.2 := by
  rw [getD_lengthTable hnd hlt, lookup_of_mem hnd hq]
  rfl

section Table

variable {freq : Array Nat} {D : List (Nat × Nat)}
  (hkeys : (D.map Prod.fst).Perm ((List.range 256).filter fun s => 0 < freq.getD s 0))

include hkeys in
theorem nodup_keys : (D.map Prod.fst).Nodup := hkeys.nodup_iff.2 (List.nodup_range.filter _)

include hkeys in
theorem keys_lt {q : Nat × Nat} (hq : q ∈ D) : q.1 < 256 := by
  have := hkeys.subset (List.mem_map_of_mem hq)
  simp only [List.mem_filter, List.mem_range] at this
  exact this.1

include hkeys in
/-- A table of depths, one per value that occurs, writes each value at its depth. -/
theorem weightedLength_lengthTable :
    weightedLength freq ((lengthTable D).getD · 0) = (D.map fun q => freq.getD q.1 0 * q.2).sum := by
  rw [weightedLength, ← sum_filter_pos, sum_keys hkeys]
  exact congrArg List.sum (List.map_congr_left fun q hq => by
    rw [getD_lengthTable_of_mem (nodup_keys hkeys) (fun p hp => keys_lt hkeys hp) hq])

include hkeys in
theorem codeSpace_lengthTable :
    codeSpace freq ((lengthTable D).getD · 0) = (D.map fun q => (2 : ℚ)⁻¹ ^ q.2).sum := by
  have h := sum_keys hkeys fun s => (2 : ℚ)⁻¹ ^ (lengthTable D).getD s 0
  rw [← map_fst_usedSymbols, List.map_map] at h
  refine h.trans (congrArg List.sum (List.map_congr_left fun q hq => ?_))
  rw [getD_lengthTable_of_mem (nodup_keys hkeys) (fun p hp => keys_lt hkeys hp) hq]

end Table

/-! ## Optimal code lengths -/

/-- The merge tree of byte frequencies costs no more than any positive lengths within Kraft's
inequality: its queue starts from the leaves, which cost nothing, sorted by weight. -/
theorem mergeTree_cost_le {freq : Array Nat} {t : CodeTree} (ht : mergeTree freq = some t)
    {L : Nat → Nat} (hL : ∀ p ∈ usedSymbols freq, 0 < L p.1) (hK : codeSpace freq L ≤ 1) :
    t.cost (freq.getD · 0) ≤ weightedLength freq L := by
  set Q := queueOf ((usedSymbols freq).map leafNode)
  have hQ : ∀ x ∈ Q, ∃ p ∈ usedSymbols freq, x = leafNode p := fun x hx => by
    obtain ⟨p, hp, rfl⟩ := List.mem_map.1 ((queueOf_perm _).subset hx)
    exact ⟨p, hp, rfl⟩
  have hw : ∀ x ∈ Q, x.weight = x.tree.weight (freq.getD · 0) := fun x hx => by
    obtain ⟨p, hp, rfl⟩ := hQ x hx
    simp [leafNode, snd_of_mem_usedSymbols hp]
  have hleafCost : (Q.map fun x => x.tree.cost (freq.getD · 0)).sum = 0 :=
    List.sum_eq_zero fun c hc => by
      obtain ⟨x, hx, rfl⟩ := List.mem_map.1 hc
      obtain ⟨p, -, rfl⟩ := hQ x hx
      simp [leafNode]
  have hP : ((usedLengths freq L).map Prod.fst).Perm (Q.map Pending.weight) := by
    rw [map_fst_usedLengths]
    simpa [Function.comp_def, leafNode] using
      ((queueOf_perm ((usedSymbols freq).map leafNode)).map Pending.weight).symm
  have hbound := usedLengths_bounded hL
  have hk := kraftOf_usedLengths (fun l hl => (hbound l hl).2) hK
  have hcost := mergeQueue_cost_le _ 0 Q (weightSorted_queueOf _) hw (usedLengths freq L) _ hP
    hbound hk ht
  rw [hleafCost, Nat.zero_add] at hcost
  rw [weightedLength_eq_pairCost]
  exact hcost

/-- Code lengths, when given, are optimal for the frequencies: they fill the code space once two
values occur, and no positive lengths within Kraft's inequality write the values in fewer bits. -/
theorem codeLengths_optimal {freq ls : Array Nat} (hls : codeLengths freq = .ok ls) :
    (2 ≤ (usedSymbols freq).length → codeSpace freq (ls.getD · 0) = 1) ∧
      ∀ L : Nat → Nat, (∀ p ∈ usedSymbols freq, 0 < L p.1) → codeSpace freq L ≤ 1 →
        weightedLength freq (ls.getD · 0) ≤ weightedLength freq L := by
  have hused := map_fst_usedSymbols freq
  unfold codeLengths at hls
  split at hls
  · -- no value occurs: nothing is written
    rename_i h
    cases hls
    refine ⟨fun h2 => by simp [h] at h2, fun L _ _ => ?_⟩
    rw [show Array.replicate 256 0 = lengthTable [] from rfl,
      weightedLength_lengthTable (by rw [← hused, h])]
    simp
  · -- one value occurs: a one-bit code, and every positive length takes at least one bit
    rename_i s w h
    rw [Except.ok.injEq] at hls
    subst hls
    refine ⟨fun h2 => by simp [h] at h2, fun L hL _ => ?_⟩
    have htable : (Array.replicate 256 0).set! s 1 = lengthTable [(s, 1)] := by
      simp only [lengthTable, List.foldl_cons, List.foldl_nil]
    have hw : w = freq.getD s 0 := snd_of_mem_usedSymbols (p := (s, w)) (by simp [h])
    have hpay := sum_fst_le_pairCost fun l hl => (usedLengths_bounded hL l hl).1
    rw [htable, weightedLength_lengthTable (by rw [← hused, h]; exact .refl _),
      weightedLength_eq_pairCost]
    simp only [map_fst_usedLengths, h] at hpay
    simp only [List.map_cons, List.map_nil, List.sum_cons, List.sum_nil] at hpay ⊢
    omega
  · -- several values occur: the lengths are the depths of the merge tree's leaves
    rename_i hnil _
    obtain ⟨t, ht, hleaves, -⟩ := mergeTree_spec freq hnil
    rw [ht] at hls
    dsimp only at hls
    split at hls
    · cases hls
    rename_i hshallow
    cases hls
    have hdepth : ∀ p ∈ t.depths 0, p.2 ≤ maxCodeLength := fun p hp => by
      by_contra hp'
      exact hshallow (List.any_eq_true.2 ⟨p, hp, by simp; omega⟩)
    refine ⟨fun _ => ?_, fun L hL hK => ?_⟩
    · -- the leaves of a tree fill the code space
      have h := kraftOf_eq_mul hdepth
      rw [kraftOf_depths t hdepth] at h
      push_cast at h
      rw [codeSpace_lengthTable hleaves]
      exact mul_left_cancel₀ (by positivity) (h.symm.trans (mul_one _).symm)
    · rw [weightedLength_lengthTable hleaves]
      exact mergeTree_cost_le ht hL hK

/-! ## The size of the container -/

namespace BitWriter

/-- A writer holds its whole bytes and its pending bits; pushing a code adds its length. -/
theorem bitCount_push (w : BitWriter) (code len : Nat) :
    8 * (w.push code len).bytes.size + (w.push code len).pending =
      8 * w.bytes.size + w.pending + len := by
  simp only [push, List.foldl_push_eq_append, Array.size_append, List.size_toArray,
    List.length_map, List.length_range]
  omega

theorem length_finish {w : BitWriter} (hw : w.pending < 8) :
    w.finish.length = (8 * w.bytes.size + w.pending + 7) / 8 := by
  unfold finish
  split
  · simp only [Array.toList_push, List.length_append, Array.length_toList, List.length_singleton]
    omega
  · simp only [Array.length_toList]
    omega

end BitWriter

theorem bitCount_bodyWriter (ls : Array Nat) (x : List UInt8) :
    8 * (bodyWriter ls x).bytes.size + (bodyWriter ls x).pending =
      (x.map fun b => ls.getD b.toNat 0).sum := by
  have h : ∀ w : BitWriter, 8 * (x.foldl (fun w b =>
      w.push ((canonicalCodes ls).getD b.toNat 0) (ls.getD b.toNat 0)) w).bytes.size +
      (x.foldl (fun w b => w.push ((canonicalCodes ls).getD b.toNat 0) (ls.getD b.toNat 0))
        w).pending = 8 * w.bytes.size + w.pending + (x.map fun b => ls.getD b.toNat 0).sum := by
    induction x with
    | nil => simp
    | cons b x ih =>
      intro w
      rw [List.foldl_cons, ih, BitWriter.bitCount_push, List.map_cons, List.sum_cons]
      omega
  rw [bodyWriter, h]
  simp

/-- Counting each value of `0, …, 255` in `x`, weighed by `g`, adds up `g` over the bytes. -/
theorem sum_range_countP (x : List UInt8) (g : Nat → Nat) :
    ((List.range 256).map fun s => x.countP (·.toNat = s) * g s).sum =
      (x.map fun b => g b.toNat).sum := by
  induction x with
  | nil => simp only [List.countP_nil, Nat.zero_mul, List.map_const', List.sum_replicate,
      smul_zero, List.map_nil, List.sum_nil]
  | cons b x ih =>
    -- of the values `0, …, 255`, only `b` itself counts the new byte
    have hb : ((List.range 256).map fun s => if b.toNat = s then g s else 0).sum = g b.toNat := by
      rw [← List.sum_toFinset _ List.nodup_range, Finset.sum_ite_eq]
      simp [b.toNat_lt]
    simp only [List.countP_cons, Nat.add_mul, List.sum_map_add, ih, List.map_cons, List.sum_cons,
      decide_eq_true_eq, ite_mul, one_mul, zero_mul, hb]
    omega

/-- The bits lengths take for the byte frequencies of `x` are the lengths of its bytes. -/
theorem weightedLength_frequencies (x : List UInt8) (L : Nat → Nat) :
    weightedLength (frequencies x) L = (x.map fun b => L b.toNat).sum := by
  rw [weightedLength, ← sum_range_countP]
  exact congrArg List.sum (List.map_congr_left fun s hs => by
    rw [getD_frequencies x (List.mem_range.1 hs)])

theorem validLengths_of_codeLengths {freq ls : Array Nat} (h : codeLengths freq = .ok ls) :
    ValidLengths freq ls := by
  obtain ⟨hdeep, hvalid⟩ := codeLengths_spec freq
  by_cases hd : TooDeep freq
  · rw [hdeep hd] at h
    cases h
  · obtain ⟨ls', h', hv⟩ := hvalid hd
    rw [h', Except.ok.injEq] at h
    exact h ▸ hv

/-- The values that occur in the frequencies of `x` are those of its bytes. -/
theorem mem_usedSymbols_frequencies {x : List UInt8} {s : Nat} :
    s ∈ (usedSymbols (frequencies x)).map Prod.fst ↔ ∃ b ∈ x, b.toNat = s := by
  rw [map_fst_usedSymbols, List.mem_filter, List.mem_range, decide_eq_true_iff]
  constructor
  · rintro ⟨hs, hpos⟩
    rw [getD_frequencies x hs, List.countP_pos_iff] at hpos
    simpa using hpos
  · rintro ⟨b, hb, rfl⟩
    exact ⟨b.toNat_lt, frequencies_pos_of_mem hb⟩

theorem two_le_length_usedSymbols {x : List UInt8} {b₁ b₂ : UInt8} (hb₁ : b₁ ∈ x) (hb₂ : b₂ ∈ x)
    (hne : b₁ ≠ b₂) : 2 ≤ (usedSymbols (frequencies x)).length := by
  have h₁ := mem_usedSymbols_frequencies.2 ⟨b₁, hb₁, rfl⟩
  have h₂ := mem_usedSymbols_frequencies.2 ⟨b₂, hb₂, rfl⟩
  have hne' : b₁.toNat ≠ b₂.toNat := fun h => hne (UInt8.toNat_inj.1 h)
  -- a list with two distinct members has two entries
  rw [← List.length_map (f := Prod.fst)]
  rcases hu : (usedSymbols (frequencies x)).map Prod.fst with _ | ⟨a, _ | ⟨a', rest⟩⟩
  · simp [hu] at h₁
  · simp only [hu, List.mem_singleton] at h₁ h₂
    exact absurd (h₁.trans h₂.symm) hne'
  · simp

/-- Eight bits for each value is a prefix code for all 256 values. -/
theorem codeSpace_eight_le_one (freq : Array Nat) : codeSpace freq (fun _ => 8) ≤ 1 := by
  have hcount : ((usedSymbols freq).length : ℚ) ≤ 256 := by
    have := List.length_filter_le (fun p : Nat × Nat => p.2 > 0)
      ((List.range 256).map fun s => (s, freq.getD s 0))
    simp only [List.length_map, List.length_range] at this
    exact_mod_cast this
  simp only [codeSpace, List.map_const', List.sum_replicate, nsmul_eq_mul]
  linarith

/-- The container is the header and the code bits of every byte, padded to whole bytes. -/
theorem length_compress {x : List UInt8} {ls : Array Nat} (hls : codeLengths (frequencies x) = .ok ls)
    {c : List UInt8} (hc : compress x = .ok c) :
    c.length = headerLength + (weightedLength (frequencies x) (ls.getD · 0) + 7) / 8 := by
  rw [compress_of_codeLengths hls, Except.ok.injEq] at hc
  subst hc
  simp only [List.length_append, List.length_map, Array.length_toList, length_u64Bytes,
    (validLengths_of_codeLengths hls).size_eq, BitWriter.length_finish (pending_bodyWriter_lt ls x),
    bitCount_bodyWriter, weightedLength_frequencies, headerLength, magic, List.length_cons,
    List.length_nil]

/-- The container of a byte string, when it is made, uses code lengths that give a code exactly
to the values that occur, fill the code space once two values occur, and write the input in the
fewest bits any positive lengths within Kraft's inequality can. The container is the header and
those bits in whole bytes, so never longer than the header and the input itself. -/
theorem compress_optimal (x : List UInt8) {c : List UInt8} (hc : compress x = .ok c) :
    ∃ ls, codeLengths (frequencies x) = .ok ls ∧
      (∀ s < 256, 0 < ls.getD s 0 ↔ ∃ b ∈ x, b.toNat = s) ∧
      ((∃ b₁ ∈ x, ∃ b₂ ∈ x, b₁ ≠ b₂) → codeSpace (frequencies x) (ls.getD · 0) = 1) ∧
      (∀ L : Nat → Nat, (∀ b ∈ x, 0 < L b.toNat) → codeSpace (frequencies x) L ≤ 1 →
        weightedLength (frequencies x) (ls.getD · 0) ≤ weightedLength (frequencies x) L) ∧
      c.length = headerLength + (weightedLength (frequencies x) (ls.getD · 0) + 7) / 8 ∧
      c.length ≤ headerLength + x.length := by
  cases hls : codeLengths (frequencies x) with
  | error e =>
    simp only [compress, hls, Bind.bind, Except.bind] at hc
    cases hc
  | ok ls =>
  obtain ⟨hfull, hmin⟩ := codeLengths_optimal hls
  have hmin' : ∀ L : Nat → Nat, (∀ b ∈ x, 0 < L b.toNat) → codeSpace (frequencies x) L ≤ 1 →
      weightedLength (frequencies x) (ls.getD · 0) ≤ weightedLength (frequencies x) L :=
    fun L hL hK => hmin L (fun p hp => by
      obtain ⟨b, hb, hbp⟩ := mem_usedSymbols_frequencies.1 (List.mem_map_of_mem hp)
      exact hbp ▸ hL b hb) hK
  have hlen := length_compress hls hc
  refine ⟨ls, rfl, fun s hs => ?_, fun htwo => hfull ?_, hmin', hlen, ?_⟩
  · rw [(validLengths_of_codeLengths hls).pos_iff s hs, getD_frequencies x hs,
      List.countP_pos_iff]
    simp
  · obtain ⟨b₁, hb₁, b₂, hb₂, hne⟩ := htwo
    exact two_le_length_usedSymbols hb₁ hb₂ hne
  · -- no shorter than eight bits a byte, the lengths every value may take
    have h8 := hmin' (fun _ => 8) (fun _ _ => by decide) (codeSpace_eight_le_one _)
    rw [weightedLength_frequencies x (fun _ => 8)] at h8
    simp only [List.map_const', List.sum_replicate, smul_eq_mul] at h8
    rw [hlen]
    omega

/-- Two `a`s and a `b` get one-bit codes, so their three bits take one byte of body. -/
theorem compress_aab_one_byte :
    ∃ c, compress [97, 97, 98] = .ok c ∧ c.length = headerLength + 1 := by
  -- count the bytes rather than read the table of frequencies
  have hcount : ((List.range 256).map fun s => (s, (frequencies [97, 97, 98]).getD s 0)) =
      (List.range 256).map fun s => (s, ([97, 97, 98] : List UInt8).countP (·.toNat = s)) :=
    List.map_congr_left fun s hs => by rw [getD_frequencies _ (List.mem_range.1 hs)]
  have hused : usedSymbols (frequencies [97, 97, 98]) = [(97, 2), (98, 1)] := by
    rw [usedSymbols, hcount]
    decide +kernel
  have hls : codeLengths (frequencies [97, 97, 98]) = .ok (lengthTable [(98, 1), (97, 1)]) := by
    -- the rest reads the frequencies only through the values that occur
    obtain ⟨freq, hfreq⟩ : ∃ freq, frequencies [97, 97, 98] = freq := ⟨_, rfl⟩
    rw [hfreq] at hused ⊢
    have htree : mergeTree freq = some (.node (.leaf 98) (.leaf 97)) := by
      rw [mergeTree, hused]
      simp only [List.map_cons, List.map_nil, queueOf, List.foldr_cons, List.foldr_nil,
        insertPending, leafNode]
      rw [if_neg (by decide), mergeQueue]
      simp only [insertPending]
      rw [mergeQueue]
    rw [codeLengths, hused]
    simp only [htree]
    rfl
  obtain ⟨ls, hls', -, -, -, hlen, -⟩ := compress_optimal [97, 97, 98] (compress_of_codeLengths hls)
  rw [hls, Except.ok.injEq] at hls'
  subst hls'
  have h97 : (lengthTable [(98, 1), (97, 1)]).getD 97 0 = 1 :=
    getD_lengthTable_of_mem (q := (97, 1)) (by decide) (by decide) (by simp)
  have h98 : (lengthTable [(98, 1), (97, 1)]).getD 98 0 = 1 :=
    getD_lengthTable_of_mem (q := (98, 1)) (by decide) (by decide) (by simp)
  refine ⟨_, compress_of_codeLengths hls, ?_⟩
  rw [hlen, weightedLength_frequencies]
  simp only [List.map_cons, List.map_nil, List.sum_cons, List.sum_nil, UInt8.reduceToNat, h97, h98,
    Nat.reduceAdd, Nat.reduceDiv]

end Tftp.Huffman
