-- Doubles as exact numbers. `decode` reads a double as a sign, a whole
-- significand and a power of two; `nearest` goes back, from any fraction to
-- the double next to it. Every text and every rounding of this library goes
-- through these two, so none of them depends on how a machine prints.

namespace PenPlot.Number

/-! ## Fractions -/

/-- The whole number nearest to `num / den`; a half goes to the even one. -/
def roundHalfEven (num den : Nat) : Nat :=
  let q := num / den
  let twice := 2 * (num % den)
  if twice < den then q else if den < twice then q + 1 else q + q % 2

/-- The magnitude `num / den` of a number that is not negative. -/
structure Fraction where
  num : Nat
  den : Nat
  deriving DecidableEq, Repr

/-- The fraction times `base ^ e`, where `e` may be negative. -/
def Fraction.scale (f : Fraction) (base : Nat) : Int → Fraction
  | .ofNat e => ⟨f.num * Nat.pow base e, f.den⟩
  | .negSucc e => ⟨f.num, f.den * Nat.pow base (e + 1)⟩

/-- The nearest whole number, a half going to the even one. -/
def Fraction.round (f : Fraction) : Nat := roundHalfEven f.num f.den

/-- Whether the fraction is at least `base ^ e`. -/
def Fraction.reaches (f : Fraction) (base : Nat) (e : Int) : Bool :=
  let g := f.scale base (-e)
  g.den ≤ g.num

/-- The exponent of the largest power of two that a positive fraction reaches. -/
def Fraction.log2 (f : Fraction) : Int :=
  let guess : Int := (f.num.log2 : Int) - f.den.log2
  if f.reaches 2 guess then guess else guess - 1

/-! ## Reading a double -/

/-- A finite double: the sign, and the magnitude `significand * 2 ^ exponent`. -/
structure Dyadic where
  negative : Bool
  significand : Nat
  exponent : Int
  deriving DecidableEq, Repr

/-- The magnitude as a fraction. -/
def Dyadic.magnitude (d : Dyadic) : Fraction := Fraction.scale ⟨d.significand, 1⟩ 2 d.exponent

/-- What a double stands for. -/
inductive Reading where
  | nan
  | infinite (negative : Bool)
  | finite (value : Dyadic)
  deriving DecidableEq, Repr

/-- The bit of the sign. -/
def signBit : Nat := 0x8000000000000000

/-- The bit above the fifty-two bits of a significand: a normal number has it
without showing it. -/
def hiddenBit : Nat := 0x10000000000000

/-- The number of values of the exponent field, the last of which marks what is
not finite. -/
def exponentValues : Nat := 0x800

/-- Reads the fields of a double: one bit of sign, eleven of exponent and
fifty-two of significand, with the hidden bit added for a normal number. -/
def decode (x : Float) : Reading :=
  let bits := x.toBits.toNat
  let negative := signBit ≤ bits
  let field : Nat := bits / hiddenBit % exponentValues
  let tail : Nat := bits % hiddenBit
  if field + 1 = exponentValues then
    if tail = 0 then .infinite negative else .nan
  else if field = 0 then .finite ⟨negative, tail, -1074⟩
  else .finite ⟨negative, tail + hiddenBit, (field : Int) - 1075⟩

/-! ## Writing a double -/

/-- The bits of a double with the given sign and the given other 63 bits. -/
def ofFields (negative : Bool) (rest : Nat) : Float :=
  Float.ofBits (UInt64.ofNat (if negative then signBit + rest else rest))

/-- The fields of infinity, the sign apart. -/
def infinityFields : Nat := (exponentValues - 1) * hiddenBit

/-- The infinity of a sign. -/
def infinity (negative : Bool) : Float := ofFields negative infinityFields

/-- The double that is not a number. -/
def notANumber : Float := ofFields false (infinityFields + hiddenBit / 2)

/-- The double nearest to a signed fraction, ties to the even significand,
and infinity where the nearest one would lie past the largest double. The
significand and the exponent field are packed as one number, so that a
significand that rounds up to the next power of two carries into the exponent. -/
def nearest (negative : Bool) (f : Fraction) : Float :=
  if f.num = 0 then ofFields negative 0
  else
    let e := max (-1074) (f.log2 - 52)
    let m := (f.scale 2 (-e)).round
    let packed := (e + 1074).toNat * hiddenBit + m
    if infinityFields ≤ packed then infinity negative else ofFields negative packed

/-- The double nearest to a whole number, or nothing where that is infinite. -/
def ofInt? (n : Int) : Option Float :=
  let x := nearest (n < 0) ⟨n.natAbs, 1⟩
  if x.isFinite then some x else none

/-- The whole number that a double is, if it is one. -/
def toInt? (x : Float) : Option Int :=
  match decode x with
  | .finite d =>
    let m := d.magnitude
    if m.num % m.den = 0 then
      some (if d.negative then -(m.num / m.den : Int) else (m.num / m.den : Int))
    else none
  | _ => none

end PenPlot.Number
