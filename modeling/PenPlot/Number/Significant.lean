-- Numbers with a count of significant digits: the general text with six of
-- them, and the shortest text that reads back as the same double.
import PenPlot.Number.Fixed

namespace PenPlot.Number

/-! ## Significant digits -/

/-- The exponent of the largest power of ten that a positive fraction reaches. -/
def Fraction.log10 (f : Fraction) : Int :=
  let guess : Int := ((Nat.toDigits 10 f.num).length : Int) - (Nat.toDigits 10 f.den).length
  if f.reaches 10 guess then guess else guess - 1

/-- The value `digits * 10 ^ (exponent + 1 - count)`, where `count` is the
number of digits: the first digit stands at `10 ^ exponent`. -/
structure Scientific where
  digits : Nat
  exponent : Int
  deriving DecidableEq, Repr

/-- A positive fraction rounded to `count` significant digits. -/
def Fraction.toScientific (f : Fraction) (count : Nat) : Scientific :=
  let e := f.log10
  let n := (f.scale 10 ((count : Int) - 1 - e)).round
  if n = Nat.pow 10 count then ⟨Nat.pow 10 (count - 1), e + 1⟩ else ⟨n, e⟩

/-- Digits without the zeros at their end; one digit at least is kept. -/
def withoutTrailingZeros (digits : List Char) : List Char :=
  match (digits.reverse.dropWhile (· == '0')).reverse with
  | [] => ['0']
  | kept => kept

/-- An exponent with its sign and two digits at least. -/
def exponentText (e : Int) : List Char :=
  let digits := Nat.toDigits 10 e.natAbs
  'e' :: (if e < 0 then '-' else '+') :: (List.replicate (2 - digits.length) '0' ++ digits)

/-! ## Layout of the text -/

/-- How a text of significant digits is laid out. -/
structure Style where
  /-- Positional notation is kept up to exponents below this one. -/
  positionalBelow : Int
  /-- Whether a whole number in positional notation ends in `.0`. -/
  wholeMarked : Bool

/-- The digits (no zeros at the end) of a number whose first digit stands at
`10 ^ e`: positional from `10 ^ -4` up to the bound of the style, and in
scientific notation outside. -/
def Style.layOut (style : Style) (digits : List Char) (e : Int) : List Char :=
  if -4 ≤ e ∧ e < style.positionalBelow then
    if e < 0 then '0' :: '.' :: (List.replicate (e.natAbs - 1) '0' ++ digits)
    else
      let whole := e.toNat + 1
      let front := digits.take whole
      let front := front ++ List.replicate (whole - front.length) '0'
      match digits.drop whole with
      | [] => if style.wholeMarked then front ++ ['.', '0'] else front
      | rest => front ++ '.' :: rest
  else
    match digits with
    | first :: second :: rest => first :: '.' :: second :: (rest ++ exponentText e)
    | short => short ++ exponentText e

/-- The text of a double, its positive magnitude written by `write`. -/
def Style.text (style : Style) (x : Float) (write : Dyadic → Scientific) : String :=
  String.ofList <|
    match decode x with
    | .nan => ['n', 'a', 'n']
    | .infinite negative => signed negative ['i', 'n', 'f']
    | .finite d =>
      if d.significand = 0 then signed d.negative (style.layOut ['0'] 0)
      else
        let s := write d
        signed d.negative (style.layOut (withoutTrailingZeros (Nat.toDigits 10 s.digits)) s.exponent)

/-- Six significant digits, no zeros at the end, positional below `10 ^ 6`. -/
def general (x : Float) : String := Style.text ⟨6, false⟩ x fun d => d.magnitude.toScientific 6

/-! ## The shortest text -/

/-- The two numbers of `count` significant digits on either side of a
fraction, the nearer one first. -/
def Fraction.neighbours (f : Fraction) (count : Nat) : List Scientific :=
  let e := f.log10
  let g := f.scale 10 ((count : Int) - 1 - e)
  let low := g.num / g.den
  let up : Scientific :=
    if low + 1 = Nat.pow 10 count then ⟨Nat.pow 10 (count - 1), e + 1⟩ else ⟨low + 1, e⟩
  let down : Scientific := ⟨low, e⟩
  if g.round = low then [down, up] else [up, down]

/-- The magnitude that the digits stand for, `count` of them. -/
def Scientific.toFraction (s : Scientific) (count : Nat) : Fraction :=
  Fraction.scale ⟨s.digits, 1⟩ 10 (s.exponent + 1 - count)

/-- The first of the numbers with `count`, `count + 1`, ... digits that reads
back as the double with this magnitude; seventeen digits always do. -/
def shortestFrom (f : Fraction) (target : Float) (count : Nat) : Nat → Scientific
  | 0 => f.toScientific 17
  | more + 1 =>
    match (f.neighbours count).find? (fun s => nearest false (s.toFraction count) == target) with
    | some s => s
    | none => shortestFrom f target (count + 1) more

/-- The fewest digits that read back as the same double, the nearest of those;
positional below `10 ^ 16`, and a whole number ends in `.0`. -/
def shortest (x : Float) : String :=
  Style.text ⟨16, true⟩ x fun d => shortestFrom d.magnitude (nearest false d.magnitude) 1 17

/-- The shortest text with commas between the groups of the digits before the
point. -/
def groupedReal (x : Float) : String :=
  let text := (shortest x).toList
  let unsigned := text.dropWhile (· == '-')
  let whole := unsigned.takeWhile Char.isDigit
  String.ofList
    (text.takeWhile (· == '-') ++ (groupedDigits whole ++ unsigned.drop whole.length))

end PenPlot.Number
