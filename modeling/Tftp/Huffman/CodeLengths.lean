import Tftp.Huffman.Error

/-!
# Huffman code lengths

The code length of every byte value, from the byte frequencies of the input. The tree is built
by repeatedly merging the two lightest nodes. Ties are broken by node id: the leaves are the byte
values 0 to 255 and the `k`-th merged node gets id `256 + k`, so the lightest node is the least
pair `(weight, id)` and the tree is determined by the frequencies alone. A value's code length is
the depth of its leaf. No value occurring gives no codes; a single value gets a one-bit code; a
depth above 56 is refused.
-/

namespace Tftp.Huffman

/-- Longest code the container allows. -/
def maxCodeLength : Nat := 56

/-- A merge tree: byte values at the leaves. -/
inductive CodeTree where
  | leaf (symbol : Nat)
  | node (left right : CodeTree)
  deriving Repr, Inhabited

/-- Every leaf with its depth, left to right. -/
def CodeTree.depths : CodeTree → Nat → List (Nat × Nat)
  | leaf s, d => [(s, d)]
  | node l r, d => l.depths (d + 1) ++ r.depths (d + 1)

/-- A node waiting to be merged: its weight, its id and its tree. -/
structure Pending where
  weight : Nat
  id : Nat
  tree : CodeTree
  deriving Repr, Inhabited

/-- The order of the merge queue: lighter first, then lower id. -/
def Pending.before (a b : Pending) : Bool :=
  a.weight < b.weight || (a.weight == b.weight && a.id < b.id)

/-- Inserts a node into a queue sorted by `Pending.before`. -/
def insertPending (x : Pending) : List Pending → List Pending
  | [] => [x]
  | y :: ys => if x.before y then x :: y :: ys else y :: insertPending x ys

theorem length_insertPending (x : Pending) (q : List Pending) :
    (insertPending x q).length = q.length + 1 := by
  induction q with
  | nil => rfl
  | cons y ys ih =>
    simp only [insertPending]
    split <;> simp [ih]

/-- Merges the two lightest nodes until one is left; `merged` counts the merges so far, which
numbers the ids of new nodes. -/
def mergeQueue (merged : Nat) : List Pending → Option CodeTree
  | [] => none
  | [x] => some x.tree
  | a :: b :: rest =>
    mergeQueue (merged + 1)
      (insertPending ⟨a.weight + b.weight, 256 + merged, .node a.tree b.tree⟩ rest)
termination_by q => q.length
decreasing_by simp [length_insertPending]

/-- The byte values that occur, each with its frequency, by increasing value. -/
def usedSymbols (freq : Array Nat) : List (Nat × Nat) :=
  ((List.range 256).map fun s => (s, freq.getD s 0)).filter fun p => p.2 > 0

/-- Sorts a list of pending nodes into queue order. -/
def queueOf (nodes : List Pending) : List Pending :=
  nodes.foldr insertPending []

/-- The leaf of a value with its frequency, waiting to be merged; its id is the value. -/
def leafNode (used : Nat × Nat) : Pending := ⟨used.2, used.1, .leaf used.1⟩

/-- The merge tree of the byte frequencies, when at least one value occurs. -/
def mergeTree (freq : Array Nat) : Option CodeTree :=
  mergeQueue 0 (queueOf ((usedSymbols freq).map leafNode))

/-- Writes the depth of every leaf into a table of 256 lengths. -/
def lengthTable (depths : List (Nat × Nat)) : Array Nat :=
  depths.foldl (fun t (s, d) => t.set! s d) (Array.replicate 256 0)

/-- The code length of every byte value. -/
def codeLengths (freq : Array Nat) : Except CompressionError (Array Nat) :=
  match usedSymbols freq with
  | [] => .ok (Array.replicate 256 0)
  | [(s, _)] => .ok ((Array.replicate 256 0).set! s 1)
  | _ =>
    match mergeTree freq with
    | none => .ok (Array.replicate 256 0)
    | some tree =>
      let depths := tree.depths 0
      if depths.any (fun p => p.2 > maxCodeLength) then .error .invalidCodeTable
      else .ok (lengthTable depths)

/-- How often each byte value occurs. -/
def frequencies (input : List UInt8) : Array Nat :=
  input.foldl (fun f b => f.modify b.toNat (· + 1)) (Array.replicate 256 0)

end Tftp.Huffman
