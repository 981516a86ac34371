/-! Numbers in decimal.  A finite double is written with the fewest digits that tell it from its
neighbours, and of two such numbers with the nearer one; there is never an exponent. -/

namespace DocumentLink.Text

/-- `digits * 10 ^ exponent`. -/
structure Decimal where
  digits : Nat
  exponent : Int

/-- A number without an exponent: zeros are added at the end, or a point is put in. -/
def Decimal.positional (d : Decimal) : String :=
  let digits := toString d.digits
  if 0 ≤ d.exponent then digits ++ String.ofList (List.replicate d.exponent.toNat '0')
  else
    let places := (-d.exponent).toNat
    let padded := List.replicate (places + 1 - digits.length) '0' ++ digits.toList
    let whole := padded.length - places
    String.ofList (padded.take whole) ++ "." ++ String.ofList (padded.drop whole)

/-- The numbers that round to one double: those between `low` and `high`, both over `scale`, with
the bounds themselves if `closed`.  The double is `value`, over the same scale. -/
structure Rounding where
  value : Nat
  low : Nat
  high : Nat
  scale : Nat
  closed : Bool

/-- The rounding to `m * 2 ^ q`.  Below a power of two the neighbour is only half as far away. -/
def Rounding.ofBinary (m : Nat) (q : Int) (isPower : Bool) : Rounding :=
  let up := 1 <<< q.toNat
  { value := 4 * m * up
    low := (4 * m - if isPower then 1 else 2) * up
    high := (4 * m + 2) * up
    scale := 4 <<< (-q).toNat
    closed := m % 2 = 0 }

/-- The multiple of `10 ^ e` next to the value that rounds to it, if there is one; of two the
nearer, and of two equally near the greater. -/
def Rounding.onGrid? (r : Rounding) (e : Int) : Option Nat :=
  let factor := Nat.pow 10 (-e).toNat
  let unit := r.scale * Nat.pow 10 e.toNat
  let below := r.value * factor / unit
  let rest := r.value * factor % unit
  let fits (n : Nat) : Bool :=
    let lower := r.low * factor
    let upper := r.high * factor
    if r.closed then lower ≤ n * unit && n * unit ≤ upper
    else lower < n * unit && n * unit < upper
  if fits below && (2 * rest < unit || !fits (below + 1)) then some below
  else if fits (below + 1) then some (below + 1)
  else none

/-- The first of the grids `e`, `e - 1`, … that has a hit. -/
def Rounding.search (r : Rounding) : Nat → Int → Decimal
  | 0, e => ⟨0, e⟩
  | n + 1, e =>
    match r.onGrid? e with
    | some digits => ⟨digits, e⟩
    | none => search r n (e - 1)

/-- The text of the double with the given bits. -/
def double (bits : UInt64) : String :=
  let sign := if bits < 0x8000000000000000 then "" else "-"
  let exponent := (bits >>> 52 &&& 0x7ff).toNat
  let fraction := (bits &&& 0xfffffffffffff).toNat
  if exponent = 2047 then if fraction = 0 then sign ++ "inf" else "NaN"
  else if exponent = 0 ∧ fraction = 0 then sign ++ "0"
  else
    let rounding :=
      if exponent = 0 then Rounding.ofBinary fraction (-1074) false
      else
        Rounding.ofBinary (0x10000000000000 + fraction) (Int.ofNat exponent - 1075)
          (fraction = 0 ∧ 1 < exponent)
    sign ++ (rounding.search 640 309).positional

end DocumentLink.Text
