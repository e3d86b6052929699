/-!
# Shortest decimal text of a binary64 value

The decimal with the fewest significant digits that reads back as the given double, found by
exact arithmetic: the reals that round to the double form an interval (from halfway to the
neighbour below to halfway to the neighbour above, ends included when the significand is even),
and on the coarsest grid `10^k` that has a point in it the point nearest the value is taken, a
tie going to the point with an even last digit.

The layout writes the digits positionally when the leading digit's decimal exponent lies in
`-5 .. 15`, an integral value keeping `.0`, and otherwise in scientific form with a signed
exponent, as in `1.8446744073709552e+19`.
-/

namespace Tftp.Decimal

/-- A finite non-negative binary64 value `m * 2^q`. -/
structure Binary where
  m : Nat
  q : Int
  /-- The gap to the value below is half the gap to the value above. -/
  narrowBelow : Bool

/-- The magnitude of a finite double. -/
def Binary.ofBits (b : UInt64) : Binary :=
  let e := ((b >>> 52) &&& 0x7FF).toNat
  let f := (b &&& 0xFFFFFFFFFFFFF).toNat
  if e == 0 then ⟨f, -1074, false⟩ else ⟨Nat.pow 2 52 + f, (e : Int) - 1075, f == 0 && e > 1⟩

/-- `digits * 10^exp`. -/
structure Dec where
  digits : Nat
  exp : Int
  deriving Repr, DecidableEq

/-- Compares `a * 10^i` with `n * 2^j`, exactly. -/
def cmpScaled (a : Nat) (i : Int) (n : Nat) (j : Int) : Ordering :=
  compare (a * Nat.pow 10 i.toNat * Nat.pow 2 (-j).toNat) (n * Nat.pow 2 j.toNat * Nat.pow 10 (-i).toNat)

/-- Whether `d` lies among the reals that round to `x`. -/
def Binary.readsBack (x : Binary) (d : Dec) : Bool :=
  let lo := if x.narrowBelow then 4 * x.m - 1 else 4 * x.m - 2
  let hi := 4 * x.m + 2
  let incl := x.m % 2 == 0
  let cl := cmpScaled d.digits d.exp lo (x.q - 2)
  let ch := cmpScaled d.digits d.exp hi (x.q - 2)
  (cl == .gt || (incl && cl == .eq)) && (ch == .lt || (incl && ch == .eq))

/-- `⌊m * 2^q / 10^k⌋` and how the remainder compares with half the grid. -/
def Binary.onGrid (x : Binary) (k : Int) : Nat × Ordering :=
  let num := x.m * Nat.pow 2 x.q.toNat * Nat.pow 10 (-k).toNat
  let den := Nat.pow 2 (-x.q).toNat * Nat.pow 10 k.toNat
  (num / den, compare (2 * (num % den)) den)

/-- The least `k` with `m * 2^q < 10^k`, searched upward from a lower bound. -/
def Binary.scale (x : Binary) : Int :=
  let below (k : Int) : Bool := cmpScaled 1 k x.m x.q == .gt
  -- m * 2^q lies between 10^-324 and 10^309
  match (List.range 700).find? (fun (i : Nat) => below ((i : Int) - 340)) with
  | some i => (i : Int) - 340
  | none => 309

/-- The decimal a grid `10^k` offers: the nearer of the value's two neighbours that reads back,
and of two at the same distance the one with an even last digit. -/
def Binary.hitOn (x : Binary) (k : Int) : Option Dec :=
  let (f, half) := x.onGrid k
  let upper := half == .gt || (half == .eq && f % 2 == 1)
  let lo : Dec := ⟨f, k⟩
  let hi : Dec := ⟨f + 1, k⟩
  match x.readsBack lo, x.readsBack hi with
  | true, true => some (if upper then hi else lo)
  | true, false => some lo
  | false, true => some hi
  | false, false => none

/-- Moves trailing zeros of the digits into the exponent. -/
def Dec.strip (d : Dec) : Dec :=
  let rec go (digits : Nat) (exp : Int) (fuel : Nat) : Dec :=
    match fuel with
    | 0 => ⟨digits, exp⟩
    | fuel + 1 =>
      if digits ≠ 0 ∧ digits % 10 = 0 then go (digits / 10) (exp + 1) fuel
      else ⟨digits, exp⟩
  go d.digits d.exp d.digits

/-- The shortest decimal that reads back as a positive value. -/
def Binary.shortest (x : Binary) : Dec :=
  let k := x.scale
  match ((List.range 18).map (fun (n : Nat) => k - (n : Int))).findSome? x.hitOn with
  | some d => d.strip
  | none => (⟨x.m * Nat.pow 5 (-x.q).toNat * Nat.pow 2 x.q.toNat, min x.q 0⟩ : Dec).strip

/-- The decimal digits of a natural number. -/
def digitString (n : Nat) : String := toString n

/-- Lays out digits `ds` whose leading digit has decimal exponent `e`. -/
def layout (ds : String) (e : Int) : String :=
  let n := ds.length
  if 0 ≤ e ∧ e < 16 then
    if n ≤ e.toNat + 1 then ds ++ String.ofList (List.replicate (e.toNat + 1 - n) '0') ++ ".0"
    else String.ofList (ds.toList.take (e.toNat + 1)) ++ "." ++
      String.ofList (ds.toList.drop (e.toNat + 1))
  else if -5 ≤ e ∧ e < 0 then
    "0." ++ String.ofList (List.replicate ((-e).toNat - 1) '0') ++ ds
  else
    let mant := match ds.toList with
      | c :: rest@(_ :: _) => String.ofList (c :: '.' :: rest)
      | cs => String.ofList cs
    mant ++ "e" ++ (if e < 0 then "-" else "+") ++ toString e.natAbs

/-- The text of a finite double. -/
def floatText (x : Float) : String :=
  let bits := x.toBits
  let sign := if bits >>> 63 == 1 then "-" else ""
  let b := Binary.ofBits bits
  if b.m = 0 then sign ++ "0.0"
  else
    let d := b.shortest
    let ds := digitString d.digits
    sign ++ layout ds (d.exp + ds.length - 1)

end Tftp.Decimal
