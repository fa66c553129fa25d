import NCBlock.Text.Basic

/-!
Whole numbers in decimal notation, with ASCII digits only. `ofNat` writes what `numeralValue`
reads, and the two fixed-width readers refuse a value that does not fit.
-/

namespace NCBlock.Text

def ofNat (n : Nat) : Text := Nat.toDigits 10 n

def ofInt (i : Int) : Text :=
  if i < 0 then '-' :: ofNat i.natAbs else ofNat i.natAbs

/-- At least one digit and nothing else. -/
def isNumeral (t : Text) : Bool := !t.isEmpty && t.all Char.isDigit

/-- The number that a run of digits stands for. -/
def numeralValue (t : Text) : Nat := Nat.ofDigitChars 10 t 0

/-- Splits a leading sign off; the first part is `true` for a minus. -/
def splitSign : Text → Bool × Text
  | '-' :: rest => (true, rest)
  | '+' :: rest => (false, rest)
  | t => (false, t)

def toUInt32? (t : Text) : Option UInt32 :=
  if isNumeral t ∧ numeralValue t < UInt32.size then some (UInt32.ofNat (numeralValue t)) else none

/-- The signed value of an optional sign and a numeral. -/
def toInt? (t : Text) : Option Int :=
  let (negative, digits) := splitSign t
  if isNumeral digits then
    some (if negative then -(numeralValue digits : Int) else numeralValue digits)
  else none

def toInt32? (t : Text) : Option Int32 :=
  match toInt? t with
  | some i => if -0x80000000 ≤ i ∧ i < 0x80000000 then some (Int32.ofInt i) else none
  | none => none

theorem numeralValue_ofNat (n : Nat) : numeralValue (ofNat n) = n :=
  Nat.ofDigitChars_toDigits (by decide) (by decide)

theorem isNumeral_ofNat (n : Nat) : isNumeral (ofNat n) = true := by
  have nonempty : ofNat n ≠ [] := Nat.toDigits_ne_nil
  have digits : (ofNat n).all Char.isDigit = true :=
    List.all_eq_true.2 fun _ member =>
      Nat.isDigit_of_mem_toDigits (by decide) (by decide) member
  simp [isNumeral, nonempty, digits]

end NCBlock.Text
