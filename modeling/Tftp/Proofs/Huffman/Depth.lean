import Tftp.Proofs.Huffman.Optimal
import Mathlib

/-!
# Huffman codes stay within 56 bits

A merge tree of height `h` weighs at least the Fibonacci number `fib (h + 2)`
(`mergeTree_fib_height_le`). Its taller child weighs at least `fib (h + 1)`; the other child was
still waiting when the children of the taller one were merged, and the queue hands out weights in
increasing order, so it weighs at least what the heavier of those does, `fib h` or more. The order
in which the queue hands out weights is all the argument needs: how ties are broken plays no part.

The bound is carried by the merge queue (`FibBound`): the heaviest weight handed out so far is a
floor under every weight still waiting and above the height bound of every tree still waiting.

So an input shorter than `fib 59` bytes, about 9.6 · 10¹¹, gets codes of at most 56 bits and is
always compressed (`compress_within_code_limit`).
-/

namespace Tftp.Huffman

open Nat (fib)

namespace CodeTree

/-- The longest path from the root to a leaf. -/
def height : CodeTree → Nat
  | leaf _ => 0
  | node l r => max l.height r.height + 1

@[simp] theorem height_leaf (s : Nat) : (leaf s).height = 0 := rfl

@[simp] theorem height_node (l r : CodeTree) : (node l r).height = max l.height r.height + 1 := rfl

theorem le_height_of_mem_depths {t : CodeTree} {k : Nat} {p : Nat × Nat} (h : p ∈ t.depths k) :
    p.2 ≤ k + t.height := by
  induction t generalizing k with
  | leaf s =>
    simp only [depths, List.mem_singleton] at h
    simp [h]
  | node l r ihl ihr =>
    rcases List.mem_append.1 h with h | h
    · have := ihl h
      simp only [height_node]
      omega
    · have := ihr h
      simp only [height_node]
      omega

/-- Two trees whose heights are paid for as the queue pays for them make a tree paid for too: each
weighs `fib` of its height plus two, and their weights lie above `fib` of either height plus one. -/
theorem fib_height_node_le {l r : CodeTree} {wl wr floor : Nat}
    (hl : fib (l.height + 2) ≤ wl) (hr : fib (r.height + 2) ≤ wr)
    (hl' : fib (l.height + 1) ≤ floor) (hr' : fib (r.height + 1) ≤ floor)
    (hfl : floor ≤ wl) (hfr : floor ≤ wr) :
    fib ((node l r).height + 2) ≤ wl + wr := by
  rw [height_node]
  rcases le_total l.height r.height with h | h
  · -- the right child is the taller: its own weight and a floor under the left one
    rw [max_eq_right h]
    calc fib (r.height + 1 + 2) = fib (r.height + 1) + fib (r.height + 2) := Nat.fib_add_two
      _ ≤ wl + wr := by omega
  · rw [max_eq_left h]
    calc fib (l.height + 1 + 2) = fib (l.height + 1) + fib (l.height + 2) := Nat.fib_add_two
      _ ≤ wl + wr := by omega

end CodeTree

/-! ## The merge queue -/

/-- What a merge queue keeps, where `floor` is the heaviest weight handed out so far (1 at the
start): the queue is sorted by weight, nothing in it weighs less than `floor`, a tree of height
`h` weighs at least `fib (h + 2)`, and `fib (h + 1)` is within `floor`. -/
structure FibBound (floor : Nat) (q : List Pending) : Prop where
  sorted : WeightSorted q
  above : ∀ x ∈ q, floor ≤ x.weight
  heavy : ∀ x ∈ q, fib (x.tree.height + 2) ≤ x.weight
  paid : ∀ x ∈ q, fib (x.tree.height + 1) ≤ floor

/-- Merging the two lightest trees keeps the bound, with the heavier of them as the new floor. -/
theorem FibBound.merge {floor : Nat} {a b : Pending} {rest : List Pending}
    (hq : FibBound floor (a :: b :: rest)) (id : Nat) :
    FibBound b.weight
      (insertPending ⟨a.weight + b.weight, id, .node a.tree b.tree⟩ rest) := by
  set x : Pending := ⟨a.weight + b.weight, id, .node a.tree b.tree⟩
  have hsort := hq.sorted
  rw [WeightSorted, List.pairwise_cons, List.pairwise_cons] at hsort
  have hab : a.weight ≤ b.weight := hsort.1 b List.mem_cons_self
  have ha : a ∈ a :: b :: rest := List.mem_cons_self
  have hb : b ∈ a :: b :: rest := List.mem_cons_of_mem _ List.mem_cons_self
  have hrest {y : Pending} (hy : y ∈ rest) : y ∈ a :: b :: rest :=
    List.mem_cons_of_mem _ (List.mem_cons_of_mem _ hy)
  have hfa := hq.above a ha
  have hfb := hq.above b hb
  -- every member of the new queue is the merged node or was waiting after `b`
  have hmem {y : Pending} (hy : y ∈ insertPending x rest) : y = x ∨ y ∈ rest :=
    List.mem_cons.1 ((insertPending_perm x rest).subset hy)
  refine ⟨weightSorted_insertPending x hsort.2.2, fun y hy => ?_, fun y hy => ?_,
    fun y hy => ?_⟩
  · rcases hmem hy with rfl | hy
    · exact Nat.le_add_left _ _
    · exact hsort.2.1 y hy
  · rcases hmem hy with rfl | hy
    · exact CodeTree.fib_height_node_le (hq.heavy a ha) (hq.heavy b hb) (hq.paid a ha)
        (hq.paid b hb) hfa hfb
    · exact hq.heavy y (hrest hy)
  · rcases hmem hy with rfl | hy
    · -- the taller child's own bound, within the heavier weight
      have hfa' := hq.heavy a ha
      have hfb' := hq.heavy b hb
      show fib (max a.tree.height b.tree.height + 1 + 1) ≤ b.weight
      rcases le_total a.tree.height b.tree.height with h | h
      · rw [max_eq_right h]
        exact hfb'
      · rw [max_eq_left h]
        exact hfa'.trans hab
    · exact (hq.paid y (hrest hy)).trans (hfa.trans hab)

/-- The tree a queue merges into weighs at least `fib` of its height plus two. -/
theorem FibBound.fib_height_le {floor m : Nat} {q : List Pending} (hq : FibBound floor q)
    {t : CodeTree} (ht : mergeQueue m q = some t) :
    fib (t.height + 2) ≤ (q.map Pending.weight).sum := by
  fun_induction mergeQueue m q generalizing floor with
  | case1 => cases ht
  | case2 merged x =>
    cases ht
    simpa using hq.heavy x List.mem_cons_self
  | case3 merged a b rest ih =>
    have h := ih (hq.merge (256 + merged)) ht
    rw [((insertPending_perm _ rest).map Pending.weight).sum_eq] at h
    simpa [Nat.add_assoc] using h

/-- The leaves of the values that occur start the queue: each weighs at least 1. -/
theorem fibBound_leaves (freq : Array Nat) :
    FibBound 1 (queueOf ((usedSymbols freq).map leafNode)) := by
  have hleaf {x : Pending} (hx : x ∈ queueOf ((usedSymbols freq).map leafNode)) :
      x.tree.height = 0 ∧ 1 ≤ x.weight := by
    obtain ⟨p, hp, rfl⟩ := List.mem_map.1 ((queueOf_perm _).subset hx)
    exact ⟨rfl, (List.mem_filter.1 hp).2 |> of_decide_eq_true⟩
  refine ⟨weightSorted_queueOf _, fun x hx => (hleaf hx).2, fun x hx => ?_, fun x hx => ?_⟩
  · rw [(hleaf hx).1]
    exact (hleaf hx).2
  · rw [(hleaf hx).1]
    rfl

/-- The weights of the values that occur add up to every value counted once per occurrence. -/
theorem sum_usedSymbols (freq : Array Nat) :
    ((usedSymbols freq).map Prod.snd).sum = weightedLength freq fun _ => 1 := by
  have h := sum_filter_pos (List.range 256) (freq.getD · 0) fun _ => 1
  simp only [Nat.mul_one] at h
  simp only [usedSymbols, weightedLength, List.filter_map, List.map_map, Nat.mul_one, ← h]
  rfl

/-- The merge tree of byte frequencies weighs what the input does, which is at least `fib` of its
height plus two. -/
theorem mergeTree_fib_height_le {freq : Array Nat} {t : CodeTree} (ht : mergeTree freq = some t) :
    fib (t.height + 2) ≤ weightedLength freq fun _ => 1 := by
  have h := (fibBound_leaves freq).fib_height_le ht
  rwa [((queueOf_perm _).map Pending.weight).sum_eq, List.map_map,
    show Pending.weight ∘ leafNode = Prod.snd from rfl, sum_usedSymbols] at h

/-- The merge tree of an input shorter than `fib 59` bytes is at most 56 high: a tree 57 high
would weigh `fib 59` or more. -/
theorem height_le_of_length_lt {x : List UInt8} (hx : x.length < fib 59) {t : CodeTree}
    (ht : mergeTree (frequencies x) = some t) : t.height ≤ maxCodeLength := by
  have hw := mergeTree_fib_height_le ht
  rw [weightedLength_frequencies] at hw
  simp only [List.map_const', List.sum_replicate, smul_eq_mul, Nat.mul_one] at hw
  by_contra hdeep
  have : fib 59 ≤ fib (t.height + 2) := Nat.fib_mono (by simp only [maxCodeLength] at hdeep; omega)
  omega

/-- No leaf of the merge tree of an input shorter than `fib 59` bytes lies deeper than a code may
be long. -/
theorem not_tooDeep_of_length_lt {x : List UInt8} (hx : x.length < fib 59) :
    ¬TooDeep (frequencies x) := by
  rintro ⟨t, ht, p, hp, hdeep⟩
  have := CodeTree.le_height_of_mem_depths hp
  have := height_le_of_length_lt hx ht
  omega

/-- For every byte string shorter than `fib 59` bytes the merge tree is at most 56 deep, so no
node on the way to a leaf lies deeper than a code may be long: the code lengths are made and the
input is compressed. -/
theorem compress_within_code_limit (x : List UInt8) (hx : x.length < fib 59) :
    (∀ t, mergeTree (frequencies x) = some t → t.height ≤ maxCodeLength) ∧
      (∃ ls, codeLengths (frequencies x) = .ok ls) ∧ ∃ c, compress x = .ok c := by
  obtain ⟨ls, hls, -⟩ := (codeLengths_spec (frequencies x)).2 (not_tooDeep_of_length_lt hx)
  exact ⟨fun _ => height_le_of_length_lt hx, ⟨ls, hls⟩, ⟨_, compress_of_codeLengths hls⟩⟩

theorem aab_within_code_limit :
    [97, 97, 98].length < fib 59 ∧
      ((∀ t, mergeTree (frequencies [97, 97, 98]) = some t → t.height ≤ maxCodeLength) ∧
        (∃ ls, codeLengths (frequencies [97, 97, 98]) = .ok ls) ∧
        ∃ c, compress [97, 97, 98] = .ok c) :=
  ⟨by decide, compress_within_code_limit [97, 97, 98] (by decide)⟩

end Tftp.Huffman
