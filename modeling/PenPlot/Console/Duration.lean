-- Durations as they are shown: milliseconds below a second, seconds below a
-- minute, and minutes and seconds from there on.
import PenPlot.Number.Fixed

namespace PenPlot.Console

/-- A duration that cannot be counted in minutes, since it is not a finite
number. -/
structure NotFinite where
  deriving DecidableEq, Repr

/-- The wording of the error. -/
def NotFinite.message (_ : NotFinite) : String := "cannot convert float NaN to integer"

/-- The value of the double nearest to a fraction. -/
def rounded (f : Number.Fraction) : Number.Fraction :=
  match Number.decode (Number.nearest false f) with
  | .finite d => d.magnitude
  | _ => f

/-- The count that a double keeps of whole minutes: the seconds in them and
their sixtieth are each rounded to a double, and of the result a fraction of
more than a half counts as one minute more. Only past `2 ^ 53` seconds does it
differ from the number of minutes. -/
def countedMinutes (minutes : Nat) : Nat :=
  let seconds := rounded ⟨60 * minutes, 1⟩
  let sixtieth := rounded ⟨seconds.num, 60 * seconds.den⟩
  (2 * sixtieth.num + sixtieth.den - 1) / (2 * sixtieth.den)

/-- The whole minutes of a magnitude, and the seconds that are left over, in
tenths of a second. -/
def minutesAndTenths (d : Number.Dyadic) : Nat × Nat :=
  let f := d.magnitude
  let minute := 60 * f.den
  (countedMinutes (f.num / minute), Number.roundHalfEven (10 * (f.num % minute)) f.den)

/-- The text of a duration in seconds. -/
def duration (seconds : Float) : Except NotFinite String :=
  if seconds < 1 then .ok (Number.fixed 0 (seconds * 1000) ++ "ms")
  else if seconds < 60 then .ok (Number.fixed 1 seconds ++ "s")
  else
    match Number.decode seconds with
    | .finite d =>
      let (minutes, tenths) := minutesAndTenths d
      .ok (toString minutes ++ "m " ++ String.ofList (Number.pointed 1 tenths) ++ "s")
    | _ => .error ⟨⟩

end PenPlot.Console
