/-! ## Shortest decimal text of a double

A finite double is `m · 2^q` for a natural `m` and an integer `q`. The reals that round to it
form an interval around it, whose ends belong to it exactly when `m` is even. Its shortest
decimal is found on the decimal grids with 1, 2, … 17 significant digits: on each grid the
two neighbours of the value are tested against the interval in exact natural arithmetic, and
the first grid with a neighbour inside wins; of two neighbours inside, the nearer one, and of
two at the same distance, the one with the even last digit.

The text then follows one layout (`render`): positional when the decimal exponent of the
leading digit is between -5 and 15 (with `.0` after a whole number), otherwise one digit, a
point and the other digits if any, `e` and the signed exponent (`1e+30`, `1.5e-7`).

The other way, `ofRatio` rounds a positive fraction to the nearest double, ties to even.
-/

namespace LineScript.Decimal

/-- The number of decimal digits of `a` minus one: the exponent of its leading digit. -/
def leadExponent (a : Nat) : Nat :=
  if h : a < 10 then 0 else leadExponent (a / 10) + 1
termination_by a
decreasing_by omega

/-- `a` without its trailing zero digits, and how many there were. -/
def stripZeros (a : Nat) : Nat × Nat :=
  if h : a ≠ 0 ∧ a % 10 = 0 then
    let r := stripZeros (a / 10)
    (r.1, r.2 + 1)
  else (a, 0)
termination_by a
decreasing_by omega

/-- The fraction `num / den` rounded to the nearest double (ties to even); both positive and
the result below the largest double. -/
def ofRatio (num den : Nat) : Float :=
  if num = 0 then 0.0 else
  -- the binary exponent `e` with 2^52 ≤ num / den / 2^e < 2^53, at least -1074
  let guess : Int := (Nat.log2 num : Int) - (Nat.log2 den : Int) - 52
  let scaled (e : Int) : Nat × Nat :=
    if e ≥ 0 then (num, den * Nat.pow 2 e.toNat) else (num * Nat.pow 2 (-e).toNat, den)
  let fits (e : Int) : Bool := let (a, b) := scaled e; a / b < Nat.pow 2 53
  let e0 := if fits guess then guess else guess + 1
  let e1 := if (let (a, b) := scaled e0; a / b < Nat.pow 2 52) then e0 - 1 else e0
  let e := max e1 (-1074)
  let (a, b) := scaled e
  let q := a / b
  let r := a % b
  let q := if 2 * r > b || (2 * r = b && q % 2 = 1) then q + 1 else q
  let (q, e) := if q = Nat.pow 2 53 then (Nat.pow 2 52, e + 1) else (q, e)
  let bits : Nat := if q < Nat.pow 2 52 then q else (e + 1075).toNat * Nat.pow 2 52 + (q - Nat.pow 2 52)
  Float.ofBits (UInt64.ofNat bits)

/-- Compares `d · 10^e` with `x · 2^s`. -/
def compareScaled (d : Nat) (e : Int) (x : Nat) (s : Int) : Ordering :=
  compare (d * Nat.pow 10 e.toNat * Nat.pow 2 (-s).toNat) (x * Nat.pow 2 s.toNat * Nat.pow 10 (-e).toNat)

/-- The shortest digits `d` and exponent `e` with `d · 10^e` rounding to `m · 2^q`; `lowerGap`
is `4m - 1` in place of `4m - 2` when the double below is closer (a power of two). -/
def shortestOf (m : Nat) (q : Int) (narrowBelow : Bool) : Nat × Int :=
  let s := q - 2
  let upper := 4 * m + 2
  let lower := if narrowBelow then 4 * m - 1 else 4 * m - 2
  let closed := m % 2 = 0
  let inside (d : Nat) (e : Int) : Bool :=
    let lo := compareScaled d e lower s
    let hi := compareScaled d e upper s
    (lo == .gt || (closed && lo == .eq)) && (hi == .lt || (closed && hi == .eq))
  -- the exponent of the leading decimal digit of the value
  let num0 := m * Nat.pow 2 q.toNat
  let den0 := Nat.pow 2 (-q).toNat
  let lead : Int :=
    if num0 ≥ den0 then leadExponent (num0 / den0)
    else -(((List.range 400).find? fun k => num0 * Nat.pow 10 (k + 1) ≥ den0).getD 0 + 1 : Nat)
  let pick (n : Nat) : Option (Nat × Int) :=
    let e := lead - n + 1
    let num := 4 * m * Nat.pow 2 s.toNat * Nat.pow 10 (-e).toNat
    let den := Nat.pow 2 (-s).toNat * Nat.pow 10 e.toNat
    let dLo := num / den
    let loIn := inside dLo e
    let hiIn := inside (dLo + 1) e
    if loIn && hiIn then
      let below := num - dLo * den
      let above := (dLo + 1) * den - num
      if below < above || (below = above && dLo % 2 = 0) then some (dLo, e) else some (dLo + 1, e)
    else if loIn then some (dLo, e)
    else if hiIn then some (dLo + 1, e)
    else none
  match (List.range 17).findSome? fun i => pick (i + 1) with
  | some r => r
  | none => (m, q)

/-- The text of digits `d` (without trailing zeros) times `10^e`: positional when the leading
digit's exponent is between -5 and 15, with `.0` after a whole number; otherwise one digit,
a point and the other digits if any, `e`, and the exponent with its sign. -/
def render (d : Nat) (e : Int) : String :=
  let ds := Nat.toDigits 10 d
  let kk : Int := ds.length + e
  if 0 ≤ e && kk ≤ 16 then
    String.ofList ds ++ String.ofList (List.replicate e.toNat '0') ++ ".0"
  else if 0 < kk && kk ≤ 16 then
    String.ofList (ds.take kk.toNat) ++ "." ++ String.ofList (ds.drop kk.toNat)
  else if -5 < kk && kk ≤ 0 then
    "0." ++ String.ofList (List.replicate (-kk).toNat '0') ++ String.ofList ds
  else
    let mant := match ds with
      | [c] => c.toString
      | c :: rest => c.toString ++ "." ++ String.ofList rest
      | [] => "0"
    let exp := kk - 1
    mant ++ "e" ++ (if exp < 0 then "-" else "+") ++ toString exp.natAbs

/-- The shortest text of a finite double that reads back as it. -/
def shortest (f : Float) : String :=
  let bits := f.toBits.toNat
  let sign := if bits ≥ Nat.pow 2 63 then "-" else ""
  let field : Nat := (bits / Nat.pow 2 52) % Nat.pow 2 11
  let frac : Nat := bits % Nat.pow 2 52
  if field = 0 && frac = 0 then sign ++ "0.0" else
  let (m, q) : Nat × Int :=
    if field = 0 then (frac, -1074) else (frac + Nat.pow 2 52, (field : Int) - 1075)
  let (d, e) := shortestOf m q (frac = 0 && field > 1)
  let (d, z) := stripZeros d
  sign ++ render d (e + z)

end LineScript.Decimal
