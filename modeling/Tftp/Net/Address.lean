/-!
# IP and socket addresses

IPv4 and IPv6 addresses and socket addresses, their text and how it is read.

Reading follows the usual strict grammar. An IPv4 address is four decimal parts of one to three
digits, each at most 255 and without a leading zero. An IPv6 address is up to eight groups of one
to four hex digits, where one `::` stands for a run of zero groups and the last two groups may be
written as an IPv4 address. A socket address is `ip:port` for IPv4 and `[ip]:port` or
`[ip%scope]:port` for IPv6; ports and scopes are decimal and may have leading zeros. The whole
text must be used.

An IPv6 address is written with lowercase hex groups, its longest run of two or more zero groups
(the first, among equal runs) as `::`, and an IPv4-mapped address as `::ffff:a.b.c.d`.
-/

namespace Tftp.Net

/-- An IPv4 or IPv6 address. -/
inductive IpAddr where
  | v4 (a b c d : UInt8)
  /-- Eight 16-bit groups, most significant first. -/
  | v6 (groups : List UInt16)
  deriving DecidableEq, Repr, Inhabited

/-- An address and a port; an IPv6 one also has a scope. -/
inductive SocketAddr where
  | v4 (ip : IpAddr) (port : UInt16)
  | v6 (ip : IpAddr) (port : UInt16) (scope : UInt32)
  deriving DecidableEq, Repr, Inhabited

/-- `0.0.0.0`. -/
def IpAddr.unspecified : IpAddr := .v4 0 0 0 0

/-- `127.0.0.1`. -/
def IpAddr.localhost : IpAddr := .v4 127 0 0 1

/-- The socket address of an IP address and a port. -/
def SocketAddr.ofIp (ip : IpAddr) (port : UInt16) : SocketAddr :=
  match ip with
  | .v4 .. => .v4 ip port
  | .v6 _ => .v6 ip port 0

/-- The address part of a socket address. -/
def SocketAddr.ip : SocketAddr → IpAddr
  | .v4 ip _ => ip
  | .v6 ip _ _ => ip

/-- The port of a socket address. -/
def SocketAddr.port : SocketAddr → UInt16
  | .v4 _ p => p
  | .v6 _ p _ => p

/-! ## Text -/

/-- Lowercase hex digits of a group, without leading zeros. -/
def groupText (g : UInt16) : String := String.ofList (Nat.toDigits 16 g.toNat)

/-- The longest run of zero groups: its start and length (the first of equal runs). -/
def longestZeroRun (gs : List UInt16) : Nat × Nat :=
  let step (acc : (Nat × Nat) × (Nat × Nat) × Nat) (g : UInt16) :=
    let (best, cur, i) := acc
    if g == 0 then
      let cur := if cur.2 == 0 then (i, 1) else (cur.1, cur.2 + 1)
      (if cur.2 > best.2 then cur else best, cur, i + 1)
    else (best, (0, 0), i + 1)
  (gs.foldl step ((0, 0), (0, 0), 0)).1

/-- Groups joined by colons. -/
def joinGroups (gs : List UInt16) : String := ":".intercalate (gs.map groupText)

namespace IpAddr

/-- The text of an address. -/
def toText : IpAddr → String
  | v4 a b c d => ".".intercalate ([a, b, c, d].map fun x => toString x.toNat)
  | v6 gs =>
    match gs with
    | [0, 0, 0, 0, 0, 0xFFFF, hi, lo] =>
      "::ffff:" ++ (v4 (hi / 256).toUInt8 (hi % 256).toUInt8 (lo / 256).toUInt8
        (lo % 256).toUInt8).toText
    | _ =>
      let (start, len) := longestZeroRun gs
      if len > 1 then joinGroups (gs.take start) ++ "::" ++ joinGroups (gs.drop (start + len))
      else joinGroups gs

instance : ToString IpAddr := ⟨toText⟩

end IpAddr

/-- The text of a socket address. -/
def SocketAddr.toText : SocketAddr → String
  | .v4 ip port => ip.toText ++ ":" ++ toString port.toNat
  | .v6 ip port scope =>
    "[" ++ ip.toText ++ (if scope == 0 then "" else "%" ++ toString scope.toNat) ++ "]:" ++
      toString port.toNat

instance : ToString SocketAddr := ⟨SocketAddr.toText⟩

/-! ## Reading -/

/-- A reader of a prefix of the characters: the value and the rest, or nothing. -/
abbrev Scan (α : Type) := List Char → Option (α × List Char)

/-- Reads one given character. -/
def char (c : Char) : Scan Unit
  | d :: rest => if c == d then some ((), rest) else none
  | [] => none

/-- The value of a digit in a radix up to 16. -/
def digitValue (radix : Nat) (c : Char) : Option Nat :=
  let v := if '0' ≤ c ∧ c ≤ '9' then some (c.toNat - '0'.toNat)
    else if 'a' ≤ c ∧ c ≤ 'f' then some (c.toNat - 'a'.toNat + 10)
    else if 'A' ≤ c ∧ c ≤ 'F' then some (c.toNat - 'A'.toNat + 10)
    else none
  v.filter (· < radix)

/-- Reads a number: the longest run of digits, at most `maxDigits` of them if given, with a
value at most `bound`; a leading zero only if allowed or alone. -/
def number (radix : Nat) (maxDigits : Option Nat) (allowZeroPrefix : Bool) (bound : Nat) :
    Scan Nat := fun cs =>
  let ds := cs.takeWhile fun c => (digitValue radix c).isSome
  let value := ds.foldl (fun acc c => acc * radix + (digitValue radix c).getD 0) 0
  if ds.isEmpty then none
  else if maxDigits.any (ds.length > ·) then none
  else if !allowZeroPrefix && ds.head? == some '0' && ds.length > 1 then none
  else if value > bound then none
  else some (value, cs.drop ds.length)

/-- Reads `inner`, preceded by `sep` unless it is the first part. -/
def separated {α : Type} (sep : Char) (first : Bool) (inner : Scan α) : Scan α := fun cs =>
  if first then inner cs else (char sep cs).bind fun (_, rest) => inner rest

/-- Reads an IPv4 address. -/
def ipv4 : Scan (UInt8 × UInt8 × UInt8 × UInt8) := fun cs => do
  let part (first : Bool) : Scan Nat := separated '.' first (number 10 (some 3) false 255)
  let (a, cs) ← part true cs
  let (b, cs) ← part false cs
  let (c, cs) ← part false cs
  let (d, cs) ← part false cs
  return ((a.toUInt8, b.toUInt8, c.toUInt8, d.toUInt8), cs)

/-- Reads up to `limit` colon-separated groups, the last two possibly as an IPv4 address: the
groups and whether an IPv4 address ended them. -/
def groups (limit : Nat) (cs : List Char) : List Nat × Bool × List Char :=
  let rec go : Nat → Nat → List Nat → List Char → List Nat × Bool × List Char
    | 0, _, acc, cs => (acc, false, cs)
    | fuel + 1, i, acc, cs =>
      let v4 := if i + 1 < limit then separated ':' (i == 0) ipv4 cs else none
      match v4 with
      | some ((a, b, c, d), rest) =>
        (acc ++ [a.toNat * 256 + b.toNat, c.toNat * 256 + d.toNat], true, rest)
      | none =>
        match separated ':' (i == 0) (number 16 (some 4) true 0xFFFF) cs with
        | some (g, rest) => go fuel (i + 1) (acc ++ [g]) rest
        | none => (acc, false, cs)
  go limit 0 [] cs

/-- Reads an IPv6 address. -/
def ipv6 : Scan (List UInt16) := fun cs =>
  let (head, headV4, cs) := groups 8 cs
  let finish (gs : List Nat) := gs.map Nat.toUInt16
  if head.length == 8 then some (finish head, cs)
  else if headV4 then none
  else do
    let (_, cs) ← char ':' cs
    let (_, cs) ← char ':' cs
    let (tail, _, cs) := groups (8 - (head.length + 1)) cs
    let zeros := List.replicate (8 - head.length - tail.length) 0
    return (finish (head ++ zeros ++ tail), cs)

/-- Reads an IP address, trying IPv4 first. -/
def ipAddr : Scan IpAddr := fun cs =>
  match ipv4 cs with
  | some ((a, b, c, d), rest) => some (.v4 a b c d, rest)
  | none => (ipv6 cs).map fun (gs, rest) => (.v6 gs, rest)

/-- Reads `:port`. -/
def port : Scan UInt16 := fun cs => do
  let (_, cs) ← char ':' cs
  let (p, cs) ← number 10 none true 0xFFFF cs
  return (p.toUInt16, cs)

/-- Reads a socket address, trying IPv4 first. -/
def socketAddr : Scan SocketAddr := fun cs =>
  let v4 : Option (SocketAddr × List Char) := do
    let ((a, b, c, d), cs) ← ipv4 cs
    let (p, cs) ← port cs
    return (.v4 (.v4 a b c d) p, cs)
  let v6 : Option (SocketAddr × List Char) := do
    let (_, cs) ← char '[' cs
    let (gs, cs) ← ipv6 cs
    let (scope, cs) := match char '%' cs with
      | some (_, rest) => match number 10 none true 0xFFFFFFFF rest with
        | some (s, rest) => (s, rest)
        | none => (0, cs)
      | none => (0, cs)
    let (_, cs) ← char ']' cs
    let (p, cs) ← port cs
    return (.v6 (.v6 gs) p scope.toUInt32, cs)
  v4 <|> v6

/-- Reads a whole text with a scanner. -/
def parseAll {α : Type} (s : Scan α) (text : String) : Option α :=
  match s text.toList with
  | some (a, []) => some a
  | _ => none

/-- The IP address a text spells. -/
def IpAddr.parse? (text : String) : Option IpAddr := parseAll ipAddr text

/-- The socket address a text spells. -/
def SocketAddr.parse? (text : String) : Option SocketAddr := parseAll socketAddr text

end Tftp.Net
