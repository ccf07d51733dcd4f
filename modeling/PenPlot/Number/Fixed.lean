-- Numbers with a fixed count of decimal places: the text that a machine
-- program prints, and the rounding that decides when two positions are the
-- same. Both round the exact value of the double, and a half goes to the even
-- digit.
import PenPlot.Number.Binary64

namespace PenPlot.Number

/-- The magnitude counted in units of the last of `places` decimal places. -/
def Dyadic.units (d : Dyadic) (places : Nat) : Nat := (d.magnitude.scale 10 places).round

/-- A count of units with the point put back: `1234` at two places is `12.34`,
and no point is written at no places. -/
def pointed (places units : Nat) : List Char :=
  if places = 0 then Nat.toDigits 10 units
  else
    let tail := Nat.toDigits 10 (units % Nat.pow 10 places)
    Nat.toDigits 10 (units / Nat.pow 10 places) ++
      '.' :: (List.replicate (places - tail.length) '0' ++ tail)

/-- The sign that is written: a minus also before a zero that is negative. -/
def signed (negative : Bool) (digits : List Char) : List Char :=
  if negative then '-' :: digits else digits

/-- The text of a double with `places` decimal places. -/
def fixed (places : Nat) (x : Float) : String :=
  String.ofList <|
    match decode x with
    | .nan => ['n', 'a', 'n']
    | .infinite negative => signed negative ['i', 'n', 'f']
    | .finite d => signed d.negative (pointed places (d.units places))

/-- The double nearest to the value rounded to `places` decimal places; what
is not finite rounds to itself. -/
def roundTo (places : Nat) (x : Float) : Float :=
  match decode x with
  | .finite d => nearest d.negative ⟨d.units places, Nat.pow 10 places⟩
  | _ => x

/-- Digits, the last one first, with a comma after each three that others follow. -/
def inGroups : List Char → List Char
  | a :: b :: c :: d :: rest => a :: b :: c :: ',' :: inGroups (d :: rest)
  | short => short

/-- Digits with a comma between their groups of three. -/
def groupedDigits (digits : List Char) : List Char := (inGroups digits.reverse).reverse

/-- A whole number with a comma between its groups of three digits. -/
def grouped (n : Int) : String :=
  String.ofList (signed (n < 0) (groupedDigits (Nat.toDigits 10 n.natAbs)))

end PenPlot.Number
