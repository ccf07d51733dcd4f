-- Reading single settings. A setting may be given as a number or as its text,
-- and a truth value as a word; each kind of setting says which spellings it
-- takes and what is wrong with the others.
import PenPlot.Files.Path
import PenPlot.Number.Reading
import PenPlot.Settings.Problem
import PenPlot.Settings.Quantity

namespace PenPlot.Settings

/-! ## Numbers -/

/-- The text without its underscores, if none of them is at an end or next to
another one. -/
def withoutSeparators? (cs : List Char) : Option (List Char) :=
  let rec doubled : List Char → Bool
    | '_' :: '_' :: _ => true
    | _ :: rest => doubled rest
    | [] => false
  if cs.head? = some '_' ∨ cs.getLast? = some '_' ∨ doubled cs then none
  else some (cs.filter (· ≠ '_'))

/-- The number that a text stands for: white space around it is dropped, and a
text that is no number as it stands may have underscores in it. -/
def realOfText? (s : String) : Option Float :=
  match Number.read? (Text.trimBy Text.isWhiteSpace s.toList) with
  | some x => some x
  | none => (withoutSeparators? s.toList).bind Number.read?

/-- A number. -/
def readReal : Json → Except Cause Float
  | .bool b => .ok (if b then 1 else 0)
  | .integer n =>
    match Number.ofInt? n with
    | some x => .ok x
    | none => .error .floatType
  | .real x => .ok x
  | .str s =>
    match realOfText? s with
    | some x => .ok x
    | none => .error .floatParsing
  | _ => .error .floatType

/-- A finite number. -/
def readFinite (j : Json) : Except Cause Finite :=
  match readReal j with
  | .error cause => .error cause
  | .ok x => if h : x.isFinite = true then .ok ⟨x, h⟩ else .error .notFinite

/-- A finite number above zero. -/
def readPositive (j : Json) : Except Cause Positive :=
  match readFinite j with
  | .error cause => .error cause
  | .ok x => if h : 0 < x.value then .ok ⟨x.value, x.isFinite, h⟩ else .error (.notAbove 0)

/-- A finite number above zero and up to one. -/
def readShare (j : Json) : Except Cause Share :=
  match readFinite j with
  | .error cause => .error cause
  | .ok x =>
    if atMost : x.value ≤ 1 then
      if above : 0 < x.value then .ok ⟨x.value, x.isFinite, above, atMost⟩
      else .error (.notAbove 0)
    else .error (.aboveGreatest 1)

/-- A number above zero, which may be infinite. -/
def readDuration (j : Json) : Except Cause Duration :=
  match readReal j with
  | .error cause => .error cause
  | .ok x => if h : 0 < x then .ok ⟨x, h⟩ else .error (.notAbove 0)

/-! ## Whole numbers -/

/-- Takes an optional minus off the front. -/
def takeMinus : List Char → Bool × List Char
  | '-' :: rest => (true, rest)
  | cs => (false, cs)

/-- A whole number in its plain form: an optional minus, then digits without
needless zeros in front. -/
def plainInteger? (cs : List Char) : Option Int :=
  let digits := (takeMinus cs).2
  if digits = ['0'] ∨ (digits.head?.any (· ≠ '0') ∧ digits.all Char.isDigit) then
    Number.readInt? cs
  else none

/-- What is left of the digits after a leading zero: further zeros and
underscores are dropped, a minus may follow them, and the zero before a point
is kept. -/
def afterZero (before : Char) : List Char → Option (List Char)
  | [] => some [before]
  | c :: rest =>
    if c = '0' ∨ c = '_' then afterZero c rest
    else if c.isDigit ∨ c = '-' then some (c :: rest)
    else if c = '.' then some (before :: c :: rest)
    else none

/-- The digits without needless zeros in front; a minus stays as it is. -/
def withoutLeadingZeros? : List Char → Option (List Char)
  | '0' :: rest => afterZero '0' rest
  | c :: rest => if c.isDigit ∨ c = '-' then some (c :: rest) else none
  | [] => none

/-- The digits before a point that only zeros follow, one of them at least. -/
def withoutDecimalZeros (cs : List Char) : List Char :=
  match cs.dropWhile (· ≠ '.') with
  | _ :: zeros => if zeros ≠ [] ∧ zeros.all (· = '0') then cs.takeWhile (· ≠ '.') else cs
  | [] => cs

/-- A whole number brought to its plain form: without white space around it, a
plus, zeros in front, zeros after a point, or underscores between digits. -/
def plainForm? (cs : List Char) : Option (List Char) :=
  let cs := Text.trimBy Text.isWhiteSpace cs
  let unsigned? :=
    match cs with
    | '+' :: '-' :: _ => none
    | '+' :: rest => some rest
    | _ => some cs
  unsigned?.bind fun cs =>
    let (negative, body) := takeMinus cs
    (withoutLeadingZeros? body).bind fun digits =>
      (withoutSeparators? (withoutDecimalZeros digits)).map fun plain =>
        if negative then '-' :: plain else plain

/-- The greatest number of digits of a whole number in its plain form. -/
def maxIntegerDigits : Nat := 4300

/-- Whether a text starts with a whole number in its plain form that has more
digits than it may have. -/
def startsTooLong (cs : List Char) : Bool :=
  let digits := (takeMinus cs).2.takeWhile Char.isDigit
  digits.head?.any (· ≠ '0') && decide (maxIntegerDigits < digits.length)

/-- The whole number that a text stands for. A text that is no whole number in
its plain form is brought to that form, and has to fit its length then. -/
def integerOfText (s : String) : Except Cause Int :=
  if startsTooLong s.toList then .error .intParsingSize
  else
    match plainInteger? s.toList with
    | some n => .ok n
    | none =>
      match plainForm? s.toList with
      | none => .error .intParsing
      | some form =>
        if startsTooLong form then .error .intParsing
        else
          match plainInteger? form with
          | some n => .ok n
          | none => .error .intParsing

/-- The number of whole numbers of 64 bits that are not negative. -/
def wordLimit : Nat := 0x8000000000000000

/-- A whole number. A double is one if it has no fraction and is less than
`2 ^ 63` in magnitude. -/
def readInteger : Json → Except Cause Int
  | .bool b => .ok (if b then 1 else 0)
  | .integer n => .ok n
  | .real x =>
    if x.isFinite then
      match Number.toInt? x with
      | none => .error .intFromFloat
      | some n => if n.natAbs < wordLimit then .ok n else .error .intParsingSize
    else .error .notFinite
  | .str s => integerOfText s
  | _ => .error .intType

/-- A whole number above zero. -/
def readCount (j : Json) : Except Cause Count :=
  match readInteger j with
  | .error cause => .error cause
  | .ok n => if h : 0 < n.toNat then .ok ⟨n.toNat, h⟩ else .error (.notAbove 0)

/-- A whole number between two bounds. -/
def readBetween (least greatest : Nat) (j : Json) : Except Cause (Between least greatest) :=
  match readInteger j with
  | .error cause => .error cause
  | .ok n =>
    if (greatest : Int) < n then .error (.aboveGreatest greatest)
    else if h : 0 ≤ n ∧ least ≤ n.toNat ∧ n.toNat ≤ greatest then .ok ⟨n.toNat, h.2.1, h.2.2⟩
    else .error (.belowLeast least)

/-! ## Truth values, texts and paths -/

/-- The words for the truth values. -/
def truthOfWord? (word : String) : Option Bool :=
  if ["0", "off", "f", "false", "n", "no"].contains word then some false
  else if ["1", "on", "t", "true", "y", "yes"].contains word then some true
  else none

/-- The truth value of a whole number. -/
def truthOfInteger (n : Int) : Except Cause Bool :=
  if n = 0 then .ok false
  else if n = 1 then .ok true
  else if -(wordLimit : Int) ≤ n ∧ n < wordLimit then .error .boolParsing
  else .error .boolType

/-- A truth value. A double has to be a whole number of less than `2 ^ 63` in
magnitude. -/
def readTruth : Json → Except Cause Bool
  | .bool b => .ok b
  | .integer n => truthOfInteger n
  | .real x =>
    match Number.toInt? x with
    | some n => if n.natAbs < wordLimit then truthOfInteger n else .error .boolType
    | none => .error .boolType
  | .str s =>
    match truthOfWord? (String.ofList (s.toList.map Char.toLower)) with
    | some b => .ok b
    | none => .error .boolParsing
  | _ => .error .boolType

/-- A text. -/
def readText : Json → Except Cause String
  | .str s => .ok s
  | _ => .error .stringType

/-- A path. -/
def readPath : Json → Except Cause Files.Path
  | .str s => .ok (Files.Path.ofString s)
  | _ => .error .pathType

end PenPlot.Settings
