import OAuthGrant.Decimal.Binary64

/-!
# Shortest decimals

The fewest decimal digits that read back as a given binary number, and of these the nearest to it.
The reals that round to the number form an interval, closed when its mantissa is even. On the grid
of decimals with one digit, with two, and so on, the two neighbours of the number are tried; the
first grid with a neighbour in the interval gives the digits.
-/

namespace OAuthGrant.Decimal

/-- `digits · 10 ^ scale`. -/
structure Digits where
  digits : Nat
  scale : Int
  deriving DecidableEq, Repr

/-- The reals between `low` and `high` in units of `2 ^ unit`, with their ends if `closed`. -/
structure Interval where
  low : Nat
  high : Nat
  unit : Int
  closed : Bool

/-- The reals that round to `mantissa · 2 ^ exponent`. -/
def roundingInterval (mantissa : Nat) (exponent : Int) : Interval where
  low := 4 * mantissa - if mantissa = Nat.pow 2 52 ∧ -1074 < exponent then 1 else 2
  high := 4 * mantissa + 2
  unit := exponent - 2
  closed := mantissa % 2 == 0

/-- Compares `a · 2 ^ unit` with `d · 10 ^ scale` after clearing the negative powers. -/
def clear (a : Nat) (unit : Int) (d : Nat) (scale : Int) : Nat × Nat :=
  (a * Nat.pow 2 unit.toNat * Nat.pow 10 (-scale).toNat,
    d * Nat.pow 10 scale.toNat * Nat.pow 2 (-unit).toNat)

/-- Whether `d · 10 ^ scale` lies in the interval. -/
def Interval.contains (i : Interval) (d : Nat) (scale : Int) : Bool :=
  let (low, x) := clear i.low i.unit d scale
  let (high, x') := clear i.high i.unit d scale
  if i.closed then low ≤ x && x' ≤ high else low < x && x' < high

/-- Decimals are scaled up by this power of ten to find their order of magnitude. -/
def orderShift : Nat := 400

/-- The exponent of the first decimal digit of `mantissa · 2 ^ exponent`. -/
def decimalOrder (mantissa : Nat) (exponent : Int) : Int :=
  let whole := 
    mantissa * Nat.pow 2 exponent.toNat * Nat.pow 10 orderShift / Nat.pow 2 (-exponent).toNat
  (Nat.toDigits 10 whole).length - 1 - orderShift

/-- The decimal of the grid `10 ^ scale` for the number: the neighbour in the interval, the nearer
of two, the even of two equally near. -/
def onGrid (mantissa : Nat) (exponent : Int) (scale : Int) : Option Digits :=
  let i := roundingInterval mantissa exponent
  let (v, unit) := clear mantissa exponent 1 scale
  let below := v / unit
  let rest := v % unit
  match i.contains below scale, i.contains (below + 1) scale with
  | false, false => none
  | true, false => some ⟨below, scale⟩
  | false, true => some ⟨below + 1, scale⟩
  | true, true =>
    if 2 * rest < unit then some ⟨below, scale⟩
    else if unit < 2 * rest then some ⟨below + 1, scale⟩
    else some ⟨below + below % 2, scale⟩

/-- Tries the grids with `count`, `count + 1`, … digits, at most `tries` of them. -/
def searchGrids (mantissa : Nat) (exponent order : Int) (count : Nat) : (tries : Nat) → Digits
  | 0 => ⟨mantissa, 0⟩
  | tries + 1 =>
    match onGrid mantissa exponent (order + 1 - count) with
    | some d => d
    | none => searchGrids mantissa exponent order (count + 1) tries

/-- Drops final zeros, at most `tries` of them. -/
def dropZeros (d : Digits) : (tries : Nat) → Digits
  | 0 => d
  | tries + 1 =>
    if d.digits % 10 = 0 ∧ d.digits ≠ 0 then dropZeros ⟨d.digits / 10, d.scale + 1⟩ tries else d

/-- The shortest decimal of a number that is not zero; seventeen digits always suffice. -/
def shortest (mantissa : Nat) (exponent : Int) : Digits :=
  dropZeros (searchGrids mantissa exponent (decimalOrder mantissa exponent) 1 17) 17

/-- How a decimal is laid out: from which exponent up to below which it is written with a point and
no exponent, and how many digits an exponent has at least. -/
structure Layout where
  positionalFrom : Int
  positionalBelow : Int
  exponentDigits : Nat

/-- A text filled up on the left with zeros to a width. -/
def zeroPadded (width : Nat) (n : Nat) : List Char :=
  let ds := Nat.toDigits 10 n
  List.replicate (width - ds.length) '0' ++ ds

/-- Digits with a point before the digit at `point`, with zeros filled in and a fraction always. -/
def positional (ds : List Char) (point : Int) : List Char :=
  if point ≤ 0 then '0' :: '.' :: (List.replicate (-point).toNat '0' ++ ds)
  else if (ds.length : Int) ≤ point then
    ds ++ List.replicate (point.toNat - ds.length) '0' ++ ['.', '0']
  else ds.take point.toNat ++ '.' :: ds.drop point.toNat

/-- Digits with a point after the first one, and an exponent. -/
def scientific (layout : Layout) (ds : List Char) (exponent : Int) : List Char :=
  (match ds with
    | d :: [] => [d]
    | d :: rest => d :: '.' :: rest
    | [] => []) ++
    'e' :: (if exponent < 0 then '-' else '+') ::
      zeroPadded layout.exponentDigits exponent.natAbs

def Layout.write (layout : Layout) (d : Digits) : List Char :=
  let ds := Nat.toDigits 10 d.digits
  let exponent : Int := d.scale + ds.length - 1
  if layout.positionalFrom ≤ exponent && exponent < layout.positionalBelow then
    positional ds (exponent + 1)
  else scientific layout ds exponent

/-- The text of a finite number, its sign included. -/
def Layout.writeFinite (layout : Layout) (negative : Bool) (mantissa : Nat) (exponent : Int) :
    String :=
  let body := if mantissa = 0 then ['0', '.', '0'] else layout.write (shortest mantissa exponent)
  String.ofList (if negative then '-' :: body else body)

end OAuthGrant.Decimal
