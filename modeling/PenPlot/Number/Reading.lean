-- Reading decimal numbers. One grammar serves every place that takes a number
-- as text: an optional sign, then `inf`, `infinity`, `nan`, or digits with an
-- optional point and an optional exponent. The value is the nearest double.
import PenPlot.Number.Binary64

namespace PenPlot.Number

/-- The value of a digit of the ASCII range. -/
def digit? (c : Char) : Option Nat := if c.isDigit then some (c.toNat - '0'.toNat) else none

/-- The number that a row of digits stands for. -/
def ofDigits (cs : List Char) : Nat := cs.foldl (fun n c => 10 * n + (c.toNat - '0'.toNat)) 0

/-- Takes an optional sign off the front; `true` stands for a minus. -/
def takeSign : List Char → Bool × List Char
  | '-' :: rest => (true, rest)
  | '+' :: rest => (false, rest)
  | cs => (false, cs)

/-- The double nearest to `digits * 10 ^ exponent`. Exponents far outside the
range of a double are settled by the number of digits alone. -/
def ofDecimal (negative : Bool) (digits : Nat) (exponent : Int) : Float :=
  if digits = 0 then nearest negative ⟨0, 1⟩
  else
    let size : Int := (Nat.toDigits 10 digits).length + exponent
    if 400 < size then infinity negative
    else if size < -400 then nearest negative ⟨0, 1⟩
    else nearest negative (Fraction.scale ⟨digits, 1⟩ 10 exponent)

/-- What is left after a mantissa: nothing, or an exponent of one digit at least. -/
def exponent? : List Char → Option Int
  | [] => some 0
  | c :: rest =>
    if c = 'e' ∨ c = 'E' then
      let (negative, digits) := takeSign rest
      if digits ≠ [] ∧ digits.all Char.isDigit then
        some (if negative then -(ofDigits digits : Int) else (ofDigits digits : Int))
      else none
    else none

/-- A decimal number without its sign: digits, an optional point with digits,
an optional exponent, and one digit at least beside the point. -/
def unsigned? (negative : Bool) (cs : List Char) : Option Float :=
  let whole := cs.takeWhile Char.isDigit
  let rest := cs.dropWhile Char.isDigit
  let (tenths, rest) :=
    match rest with
    | '.' :: more => (more.takeWhile Char.isDigit, more.dropWhile Char.isDigit)
    | _ => ([], rest)
  if whole ++ tenths = [] then none
  else
    (exponent? rest).map fun e =>
      ofDecimal negative (ofDigits (whole ++ tenths)) (e - tenths.length)

/-- Reads a whole text as a decimal number. -/
def read? (cs : List Char) : Option Float :=
  let (negative, body) := takeSign cs
  let word := String.ofList (body.map Char.toLower)
  if word = "inf" ∨ word = "infinity" then some (infinity negative)
  else if word = "nan" then some notANumber
  else unsigned? negative body

/-- Reads a whole text as a whole number: a sign, then digits. -/
def readInt? (cs : List Char) : Option Int :=
  let (negative, digits) := takeSign cs
  if digits ≠ [] ∧ digits.all Char.isDigit then
    some (if negative then -(ofDigits digits : Int) else (ofDigits digits : Int))
  else none

end PenPlot.Number
