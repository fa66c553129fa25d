import NCBlock.Text.Numeral

/-!
Single-precision numbers, and the decimals in which they are written.

A value is its 32-bit pattern: sign, eight exponent bits and 23 fraction bits. The pattern without
its sign is the `magnitude`; magnitudes are ordered as the values are, so rounding yields a
magnitude directly and a carry moves into the next binade by itself.

A value is written as the shortest decimal that rounds to it. The decimals with a given exponent
form a grid; only the two grid points around the value can be nearest to it. Grids are tried from
the coarsest to the finest, and the first point that rounds back to the value is taken. On the
finest grid the value itself is a point.
-/

namespace NCBlock

/-- A number `± digits · 10 ^ exponent`. -/
structure Decimal where
  negative : Bool
  digits : Nat
  exponent : Int
deriving DecidableEq, Repr

namespace Decimal

/-- Reads an optional sign and ASCII digits with at most one point among them or at an end. -/
def ofText? (t : Text) : Option Decimal :=
  let (negative, body) := Text.splitSign t
  let whole := body.takeWhile Char.isDigit
  match body.dropWhile Char.isDigit with
  | [] => if whole.isEmpty then none else some ⟨negative, Text.numeralValue whole, 0⟩
  | c :: fraction =>
    if c = '.' ∧ Text.isNumeral (whole ++ fraction) then
      some ⟨negative, Text.numeralValue (whole ++ fraction), -fraction.length⟩
    else none

def signed (negative : Bool) (body : Text) : Text := if negative then '-' :: body else body

/-- Digits around a point, with at least one digit on each side and no exponent. -/
def positional (d : Decimal) : Text :=
  let places := (-d.exponent).toNat
  let scaled := d.digits * Nat.pow 10 d.exponent.toNat
  let fraction :=
    if places = 0 then ['0'] else (Text.ofNat (scaled % Nat.pow 10 places)).leftpad places '0'
  signed d.negative (Text.ofNat (scaled / Nat.pow 10 places) ++ '.' :: fraction)

/-- The exponent of the first digit. -/
def order (d : Decimal) : Int := d.exponent + ((Text.ofNat d.digits).length - 1 : Nat)

/-- One digit, the others behind a point, and a signed exponent. -/
def scientific (d : Decimal) : Text :=
  let mantissa :=
    match Text.ofNat d.digits with
    | [] => []
    | [c] => [c]
    | c :: rest => c :: '.' :: rest
  let sign := if d.order < 0 then '-' else '+'
  signed d.negative (mantissa ++ 'e' :: sign :: Text.ofNat d.order.natAbs)

end Decimal

structure Binary32 where
  bits : UInt32
deriving DecidableEq

namespace Binary32

def negative (v : Binary32) : Bool := 0x80000000 ≤ v.bits.toNat

def magnitude (v : Binary32) : Nat := v.bits.toNat % 0x80000000

def infinity : Nat := 0x7F800000

def ofMagnitude (negative : Bool) (magnitude : Nat) : Binary32 :=
  ⟨UInt32.ofNat (if negative then 0x80000000 + magnitude else magnitude)⟩

def isFinite (v : Binary32) : Bool := v.magnitude < infinity

def isNaN (v : Binary32) : Bool := infinity < v.magnitude

/-- Equality of values: no value equals a NaN, and the two zeros are equal. -/
def sameValue (v w : Binary32) : Bool :=
  !v.isNaN && !w.isNaN && (v.bits == w.bits || v.magnitude == 0 && w.magnitude == 0)

/-- A finite value without its sign is `units · 2 ^ (-149)`. -/
def units (v : Binary32) : Nat :=
  let field := v.magnitude / 0x800000
  let fraction := v.magnitude % 0x800000
  if field = 0 then fraction else (0x800000 + fraction) * Nat.pow 2 (field - 1)

/-- The whole number nearest to `num / den`; a half goes to the even neighbour. -/
def roundToEven (num den : Nat) : Nat :=
  let quotient := num / den
  let rest := num % den
  if 2 * rest < den ∨ 2 * rest = den ∧ quotient % 2 = 0 then quotient else quotient + 1

/-- The magnitude nearest to `num / den`. Binade `i` holds the values below `2 ^ (i + 24)` units and
counts in steps of `2 ^ i` units; beyond binade 253 lies infinity. -/
def roundedMagnitude (num den : Nat) : Nat :=
  let binade := (num * Nat.pow 2 149 / den).log2 - 23
  if binade ≤ 253 then
    binade * 0x800000 + roundToEven (num * Nat.pow 2 149) (den * Nat.pow 2 binade)
  else infinity

def ofDecimal (d : Decimal) : Binary32 :=
  ofMagnitude d.negative
    (roundedMagnitude (d.digits * Nat.pow 10 d.exponent.toNat) (Nat.pow 10 (-d.exponent).toNat))

end Binary32

/-- Which of two equally near neighbours is taken. -/
inductive Tie
  | away
  | even
deriving DecidableEq, Repr

/-- How finite values are written: which neighbour a tie goes to, and the least and greatest order
of a nonzero value that is written without exponent. -/
structure FloatFormat where
  tie : Tie
  leastPositional : Option Int
  greatestPositional : Option Int

namespace Binary32

/-- The grid points around `units · 2 ^ (-149)`, the nearer one first. -/
def neighbours (tie : Tie) (units : Nat) (exponent : Int) : List Nat :=
  let num := units * Nat.pow 10 (-exponent).toNat
  let den := Nat.pow 2 149 * Nat.pow 10 exponent.toNat
  let below := num / den
  let rest := num % den
  let up := den < 2 * rest ∨ 2 * rest = den ∧ (tie = .away ∨ below % 2 = 1)
  if up then [below + 1, below] else [below, below + 1]

/-- Exponents of the grids, the coarsest first. -/
def gridExponents : List Int := (List.range 188).map fun i : Nat => (38 : Int) - i

/-- The value itself. -/
def exactDecimal (v : Binary32) : Decimal := ⟨v.negative, v.units * Nat.pow 5 149, -149⟩

/-- The first grid point that rounds to a finite value, or failing that the value itself. -/
def shortest (tie : Tie) (v : Binary32) : Decimal :=
  if v.magnitude = 0 then ⟨v.negative, 0, 0⟩
  else
    let points := gridExponents.flatMap fun e =>
      (neighbours tie v.units e).map fun digits => (⟨v.negative, digits, e⟩ : Decimal)
    (points.find? fun d => ofDecimal d = v).getD v.exactDecimal

/-- The text of a finite value. -/
def write (format : FloatFormat) (v : Binary32) : Text :=
  let d := v.shortest format.tie
  let small := format.leastPositional.any (d.order < ·)
  let large := format.greatestPositional.any (· < d.order)
  if d.digits ≠ 0 ∧ (small ∨ large) then d.scientific else d.positional

end Binary32

end NCBlock
