-- Literals: values that are written out in a text. A literal is a number, a text
-- between quotes, a truth value, or a tuple, a set or a table of literals. How
-- deep these may be nested is limited, by the marks that are open at once and by
-- the steps that it takes to come down to a part. The only question here is
-- whether a text is a literal.
import PenPlot.Text.CharacterName
import PenPlot.Text.Lines

namespace PenPlot.Console.Literal

/-! ## Tokens -/

/-- A token of a literal. -/
inductive Token where
  | number (imaginary : Bool)
  | text (bytes : Bool)
  | constant
  | emptySet
  | sign
  | mark (c : Char)
  | lineEnd
  deriving DecidableEq, Repr

/-- Whether a character may go on a word. -/
def isWordPart (c : Char) : Bool := c.isAlphanum || c == '_' || 0x80 ≤ c.toNat

/-- Whether a character is a hexadecimal digit. -/
def isHexDigit (c : Char) : Bool := c.isDigit || ('a' ≤ c.toLower && c.toLower ≤ 'f')

/-- Digits with single underscores before some of them, and what follows. -/
def digitRun (isDigit : Char → Bool) : List Char → List Char × List Char
  | '_' :: d :: rest =>
    if isDigit d then
      let (digits, after) := digitRun isDigit rest
      (d :: digits, after)
    else ([], '_' :: d :: rest)
  | c :: rest =>
    if isDigit c then
      let (digits, after) := digitRun isDigit rest
      (c :: digits, after)
    else ([], c :: rest)
  | [] => ([], [])

/-- Decimal digits, the first without an underscore before it, and what follows. -/
def decimalRun (cs : List Char) : List Char × List Char :=
  if cs.head?.any Char.isDigit then digitRun Char.isDigit cs else ([], cs)

/-- The greatest number of decimal digits of a whole number that is not zero. -/
def maxDigits : Nat := 4300

/-- What follows an exponent, if one stands here. -/
def afterExponent? (cs : List Char) : Option (List Char) :=
  let after (digits : List Char) : Option (List Char) :=
    match decimalRun digits with
    | ([], _) => none
    | (_, rest) => some rest
  match cs with
  | 'e' :: '+' :: rest | 'E' :: '+' :: rest | 'e' :: '-' :: rest | 'E' :: '-' :: rest => after rest
  | 'e' :: rest | 'E' :: rest => after rest
  | _ => none

/-- Reads a decimal number: digits, a point, an exponent, and the letter of the
imaginary unit. A whole number has no needless zeros in front. -/
def readDecimal (cs : List Char) : Option (Token × List Char) :=
  let (whole, rest) := decimalRun cs
  let (point, rest) :=
    match rest with
    | '.' :: rest => (true, (decimalRun rest).2)
    | _ => (false, rest)
  let (scaled, rest) :=
    match afterExponent? rest with
    | some rest => (true, rest)
    | none => (false, rest)
  match rest with
  | 'j' :: rest | 'J' :: rest => some (.number true, rest)
  | _ =>
    let fits := whole.length ≤ maxDigits && whole.head? != some '0'
    if point || scaled || fits || whole.all (· == '0') then some (.number false, rest) else none

/-- Reads a number, which no word may follow. -/
def readNumber (cs : List Char) : Option (Token × List Char) :=
  let based (isDigit : Char → Bool) (rest : List Char) : Option (Token × List Char) :=
    match digitRun isDigit rest with
    | ([], _) => none
    | (_, rest) => some (.number false, rest)
  let found :=
    match cs with
    | '0' :: 'x' :: rest | '0' :: 'X' :: rest => based isHexDigit rest
    | '0' :: 'o' :: rest | '0' :: 'O' :: rest => based (fun c => '0' ≤ c && c ≤ '7') rest
    | '0' :: 'b' :: rest | '0' :: 'B' :: rest => based (fun c => c == '0' || c == '1') rest
    | _ => readDecimal cs
  found.filter fun f => !f.2.head?.any isWordPart

/-! ## Texts between quotes -/

/-- What stands before the closing quote, and what follows it. A backslash keeps
the character after it; a line ends only within three quotes. -/
def quotedBody (quote : Char) (triple : Bool) : List Char → Option (List Char × List Char)
  | [] => none
  | '\\' :: c :: rest => (quotedBody quote triple rest).map fun b => ('\\' :: c :: b.1, b.2)
  | c :: rest =>
    if c = quote ∧ (!triple ∨ [quote, quote].isPrefixOf rest) then
      some ([], if triple then rest.drop 2 else rest)
    else if c = '\n' ∧ !triple then none
    else (quotedBody quote triple rest).map fun b => (c :: b.1, b.2)

/-- Whether a text starts with so many hexadecimal digits, which stand for a
number up to `greatest`. -/
def startsHex (count greatest : Nat) (cs : List Char) : Bool :=
  let digits := cs.take count
  let value (c : Char) : Nat :=
    if c.isDigit then c.toNat - '0'.toNat else c.toLower.toNat - 'a'.toNat + 10
  digits.length == count && digits.all isHexDigit &&
    digits.foldl (fun n c => 16 * n + value c) 0 ≤ greatest

/-- Whether a text starts with the name of a character between braces. -/
def startsName : List Char → Bool
  | '\x7b' :: rest => rest.contains '\x7d' && Text.isCharacterName (rest.takeWhile (· ≠ '\x7d'))
  | _ => false

/-- Whether the escapes of a text are complete. -/
def escapesComplete (bytes : Bool) : List Char → Bool
  | '\\' :: c :: rest =>
    let complete :=
      if c = 'x' then startsHex 2 0xFF rest
      else if bytes then true
      else if c = 'u' then startsHex 4 0xFFFF rest
      else if c = 'U' then startsHex 8 0x10FFFF rest
      else if c = 'N' then startsName rest
      else true
    complete && escapesComplete bytes rest
  | _ :: rest => escapesComplete bytes rest
  | [] => true

/-- The letters that may stand before a text: whether it is one of bytes, and
whether its backslashes are plain. -/
def textPrefixes : List (String × Bool × Bool) := [
  ("", false, false), ("u", false, false), ("r", false, true), ("b", true, false),
  ("br", true, true), ("rb", true, true)]

/-- Reads a text between quotes, after the letters that stand before it. -/
def readText (letters : List Char) (quote : Char) (cs : List Char) :
    Option (Token × List Char) :=
  match textPrefixes.lookup (String.ofList (letters.map Char.toLower)) with
  | none => none
  | some (bytes, raw) =>
    let triple := [quote, quote].isPrefixOf cs
    let found :=
      if triple then quotedBody quote true (cs.drop 2) else quotedBody quote false cs
    match found with
    | none => none
    | some (body, rest) =>
      let allowed := (raw || escapesComplete bytes body) && (!bytes || body.all fun c => c.toNat < 0x80)
      if allowed then some (.text bytes, rest) else none

/-! ## Reading tokens -/

/-- The words that are values. -/
def constants : List String := ["None", "True", "False"]

/-- The letters of the empty set's word and the other forms of each: long,
raised, lowered, full-width and mathematical ones. -/
def setLetters : List (List Nat) := [
  [0x73, 0x17F, 0x2E2, 0x209B, 0xFF53, 0x1D42C, 0x1D460, 0x1D494, 0x1D4C8, 0x1D4FC, 0x1D530,
    0x1D564, 0x1D598, 0x1D5CC, 0x1D600, 0x1D634, 0x1D668, 0x1D69C],
  [0x65, 0x1D49, 0x2091, 0x212F, 0x2147, 0xFF45, 0x1D41E, 0x1D452, 0x1D486, 0x1D4EE, 0x1D522,
    0x1D556, 0x1D58A, 0x1D5BE, 0x1D5F2, 0x1D626, 0x1D65A, 0x1D68E],
  [0x74, 0x1D57, 0x209C, 0xFF54, 0x1D42D, 0x1D461, 0x1D495, 0x1D4C9, 0x1D4FD, 0x1D531, 0x1D565,
    0x1D599, 0x1D5CD, 0x1D601, 0x1D635, 0x1D669, 0x1D69D]]

/-- Whether a word is that of the empty set, in letters of any form. -/
def isSetWord (word : List Char) : Bool :=
  word.length == setLetters.length &&
    (word.zip setLetters).all fun w => w.2.contains w.1.toNat

/-- Reads a word, or the text that it stands before. -/
def readWord (cs : List Char) : Option (Token × List Char) :=
  let word := cs.takeWhile isWordPart
  let rest := cs.dropWhile isWordPart
  match rest with
  | '\'' :: rest => readText word '\'' rest
  | '"' :: rest => readText word '"' rest
  | _ =>
    if constants.contains (String.ofList word) then some (.constant, rest)
    else if isSetWord word then some (.emptySet, rest)
    else none

/-- Whether the first line that holds more than a comment is indented, given
whether a comment has begun on this line and whether the line is indented. A
backslash before the end of a line joins the next one to it. -/
def startsIndented (comment indented : Bool) : List Char → Bool
  | [] => false
  | '\\' :: '\n' :: rest => startsIndented false (indented && !comment) rest
  | '\n' :: rest => startsIndented false false rest
  | c :: rest =>
    if comment ∨ c = '#' then startsIndented true indented rest
    else if c = ' ' ∨ c = '\t' then startsIndented false true rest
    else if c = '\x0c' then startsIndented false false rest
    else indented

/-- The greatest number of parentheses and braces that may be open at once. -/
def maxDepth : Nat := 200

/-- Cuts a text into tokens; `depth` counts the parentheses and braces that are
open, within which lines do not end. -/
def tokens (fuel depth : Nat) (cs : List Char) : Option (List Token) :=
  match fuel, cs with
  | 0, _ => none
  | _, [] => some []
  | fuel + 1, c :: rest =>
    let one (t : Token) (depth : Nat) (rest : List Char) : Option (List Token) :=
      (tokens fuel depth rest).map (t :: ·)
    if [' ', '\t', '\x0c'].contains c then tokens fuel depth rest
    else if c = '\n' then if depth = 0 then one .lineEnd depth rest else tokens fuel depth rest
    else if c = '#' then tokens fuel depth (rest.dropWhile (· ≠ '\n'))
    else if c = '\\' then
      match rest with
      | '\n' :: d :: rest => tokens fuel depth (d :: rest)
      | _ => none
    else if c = '(' ∨ c = '\x7b' then
      if depth < maxDepth then one (.mark c) (depth + 1) rest else none
    else if c = ')' ∨ c = '\x7d' then one (.mark c) (depth - 1) rest
    else if c = ',' ∨ c = ':' then one (.mark c) depth rest
    else if c = '+' ∨ c = '-' then one .sign depth rest
    else if ['.', '.'].isPrefixOf rest ∧ c = '.' then one .constant depth (rest.drop 2)
    else
      let numeric := c.isDigit || (c == '.' && rest.head?.any Char.isDigit)
      match if numeric then readNumber (c :: rest) else readWord (c :: rest) with
      | some (t, rest) => one t depth rest
      | none => none

/-! ## Values -/

/-- What a literal stands for, as far as it matters: a number without a sign, a
number with one, or another value, which may or may not be a key. -/
inductive Value where
  | number (imaginary : Bool)
  | signed (imaginary : Bool)
  | other (isKey : Bool)
  deriving DecidableEq, Repr

/-- Whether a value may be a member of a set or a key of a table. -/
def Value.isKey : Value → Bool
  | .other isKey => isKey
  | _ => true

/-- A value and the tokens after it. -/
abbrev Parsed := Option (Value × List Token)

/-! ## Steps -/

/-- The greatest number of steps that lead down to any part of a literal. From a
place where a value may stand it takes some steps past sums and signs to the value
itself, and from there some more to the places within it. -/
def maxSteps : Nat := 6000

/-- The steps from a place to the value that stands there. -/
def valueSteps : Nat := 23

/-- The steps from a text to its first part. -/
def textSteps : Nat := 2

/-- The steps from a sign to the number after it. -/
def signSteps : Nat := 1

/-- The steps from the place of the empty set's word to the place in the
parentheses after it. -/
def callSteps : Nat := 24

/-- The steps to each place of a literal that stands without parentheses. -/
def openSteps : Nat → Nat
  | 0 => 2
  | _ => 4

/-- The steps from the place of a tuple to each place within it. -/
def tupleSteps : Nat → Nat
  | 0 => 28
  | 1 => 30
  | _ => 31

/-- The steps from the place of a set or a table to each place within it. -/
def tableSteps : Nat → Nat
  | 0 => 29
  | _ => 30

/-! ## Reading values -/

/-- A reader of values, given the number of steps that are left. -/
abbrev Reader := Nat → List Token → Parsed

/-- The sign of a value, and the sum of a real and an imaginary number, given the
reader of values without a sign. -/
def readSum (readAtom : Reader) (room : Nat) (ts : List Token) : Parsed := do
  let (left, rest) ←
    match ts with
    | .sign :: rest => do
      let (v, rest) ← readAtom (room - signSteps) rest
      match v with
      | .number imaginary => pure (Value.signed imaginary, rest)
      | _ => none
    | _ => readAtom room ts
  match rest with
  | .sign :: rest => do
    let (right, rest) ← readAtom room rest
    match left, right with
    | .number false, .number true | .signed false, .number true => pure (.other true, rest)
    | _, _ => none
  | _ => pure (left, rest)

/-- The values after the first one up to a closing token, with commas before them;
one more comma may stand at the end, if there is room for a value after it. The
value tells whether all are keys; `place` is that of the next value. -/
def readRest (readOne : Reader) (steps : Nat → Nat) (closing : Token) (room : Nat) :
    (place fuel : Nat) → List Token → Option (Bool × List Token)
  | _, 0, _ => none
  | place, fuel + 1, ts =>
    match ts with
    | [] => none
    | t :: rest =>
      if t = closing then some (true, rest)
      else if t = .mark ',' then
        if rest.head? = some closing then
          if room < steps place + valueSteps then none else some (true, rest.tail)
        else do
          let (v, rest) ← readOne (room - steps place) rest
          let (isKey, rest) ← readRest readOne steps closing room (place + 1) fuel rest
          pure (v.isKey && isKey, rest)
      else none

/-- A key, and the value that a colon gives it. -/
def readEntry (readOne : Reader) (room : Nat) (ts : List Token) : Parsed := do
  let (key, rest) ← readOne room ts
  match rest with
  | .mark ':' :: rest =>
    let (_, rest) ← readOne room rest
    pure (key, rest)
  | _ => none

/-- What follows the word of the empty set, which may stand in parentheses, if
there is room for it. -/
def afterSetWord? (room : Nat) : List Token → Option (List Token)
  | .emptySet :: rest => if room < valueSteps then none else some rest
  | .mark '(' :: rest =>
    match afterSetWord? (room - tupleSteps 0) rest with
    | some (.mark ')' :: rest) => some rest
    | _ => none
  | _ => none

/-- What follows an empty set: its word and a pair of parentheses. -/
def afterEmptySet? (room : Nat) (ts : List Token) : Option (List Token) :=
  match afterSetWord? room ts with
  | some (.mark '(' :: .mark ')' :: rest) =>
    if room < callSteps + valueSteps then none else some rest
  | _ => none

/-- Reads a value without a sign, if there is room for it. -/
def readAtom (room : Nat) (ts : List Token) : Parsed :=
  if room < valueSteps then none
  else
    let within : Reader := readSum fun r ts => if _less : r < room then readAtom r ts else none
    match ts with
    | .number imaginary :: rest => some (.number imaginary, rest)
    | .constant :: rest => some (.other true, rest)
    | .text bytes :: rest =>
      if room < textSteps + valueSteps then none
      else
        match rest.dropWhile (· == .text bytes) with
        | .text _ :: _ => none
        | rest => some (.other true, rest)
    | .mark '(' :: .mark ')' :: rest =>
      if room < tupleSteps 0 + valueSteps then none else some (.other true, rest)
    | .mark '(' :: rest =>
      match afterEmptySet? room (.mark '(' :: rest) with
      | some rest => some (.other false, rest)
      | none => do
        let (first, rest) ← within (room - tupleSteps 0) rest
        match rest with
        | .mark ')' :: rest => pure (first, rest)
        | _ =>
          let (isKey, rest) ←
            readRest within tupleSteps (.mark ')') room 1 (rest.length + 1) rest
          pure (.other (first.isKey && isKey), rest)
    | .mark '{' :: .mark '}' :: rest =>
      if room < tableSteps 0 + valueSteps then none else some (.other false, rest)
    | .mark '{' :: rest => do
      let (first, rest) ← within (room - tableSteps 0) rest
      let (isKey, rest) ←
        match rest with
        | .mark ':' :: rest => do
          let (_, rest) ← within (room - tableSteps 0) rest
          readRest (readEntry within) tableSteps (.mark '}') room 1 (rest.length + 1) rest
        | _ => readRest within tableSteps (.mark '}') room 1 (rest.length + 1) rest
      if first.isKey && isKey then pure (.other false, rest) else none
    | ts => (afterEmptySet? room ts).map fun rest => (.other false, rest)
termination_by room

/-- Tokens without the line ends before and after them. -/
def withoutLineEnds (ts : List Token) : List Token :=
  ((ts.dropWhile (· == .lineEnd)).reverse.dropWhile (· == .lineEnd)).reverse

/-- Whether tokens are those of a literal. Values with commas between them need
no parentheses. -/
def areLiteral (ts : List Token) : Bool :=
  match readSum readAtom (maxSteps - openSteps 0) (withoutLineEnds ts ++ [.lineEnd]) with
  | none => false
  | some (_, rest) =>
    let after? := readRest (readSum readAtom) openSteps .lineEnd maxSteps 1 (rest.length + 1) rest
    after?.any (·.2.isEmpty)

/-- Whether a text is a literal. -/
def isLiteral (cs : List Char) : Bool :=
  let cs := Text.withLineFeeds cs
  !cs.contains '\x00' && !startsIndented false false cs && (tokens (cs.length + 1) 0 cs).any areLiteral

end PenPlot.Console.Literal
