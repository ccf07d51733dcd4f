-- Reading JSON text. The reader takes a value off the front of the characters
-- and gives back the rest; it is bounded by the number of characters, since
-- every step of it takes at least one.
import PenPlot.Json.Basic
import PenPlot.Number.Reading

namespace PenPlot.Json

/-! ## Strings -/

/-- Blanks of the JSON grammar. -/
def isSpace (c : Char) : Bool := c == ' ' || c == '\n' || c == '\t' || c == '\r'

/-- The value of a hexadecimal digit. -/
def hexDigit? (c : Char) : Option Nat :=
  if c.isDigit then some (c.toNat - '0'.toNat)
  else if 'a' ≤ c ∧ c ≤ 'f' then some (c.toNat - 'a'.toNat + 10)
  else if 'A' ≤ c ∧ c ≤ 'F' then some (c.toNat - 'A'.toNat + 10)
  else none

/-- The code unit that four hexadecimal digits stand for. -/
def unit? (a b c d : Char) : Option Nat := do
  pure (((← hexDigit? a) * 16 + (← hexDigit? b)) * 256 + (← hexDigit? c) * 16 + (← hexDigit? d))

/-- The character that a letter after a backslash stands for. -/
def escape? : Char → Option Char
  | '"' => some '"'
  | '\\' => some '\\'
  | '/' => some '/'
  | 'b' => some '\x08'
  | 'f' => some '\x0c'
  | 'n' => some '\n'
  | 'r' => some '\r'
  | 't' => some '\t'
  | _ => none

/-- The rest of a string after its opening quote, `seen` holding the
characters before it in reverse. -/
def stringRest (seen : List Char) : List Char → Option (String × List Char)
  | '"' :: rest => some (String.ofList seen.reverse, rest)
  | '\\' :: 'u' :: a :: b :: c :: d :: '\\' :: 'u' :: e :: f :: g :: h :: rest =>
    match unit? a b c d, unit? e f g h with
    | some high, some low =>
      if 0xD800 ≤ high ∧ high < 0xDC00 ∧ 0xDC00 ≤ low ∧ low < 0xE000 then
        stringRest (Char.ofNat (0x10000 + (high - 0xD800) * 0x400 + (low - 0xDC00)) :: seen) rest
      else stringRest (Char.ofNat high :: seen) ('\\' :: 'u' :: e :: f :: g :: h :: rest)
    | _, _ => none
  | '\\' :: 'u' :: a :: b :: c :: d :: rest =>
    match unit? a b c d with
    | some n => stringRest (Char.ofNat n :: seen) rest
    | none => none
  | '\\' :: c :: rest =>
    match escape? c with
    | some e => stringRest (e :: seen) rest
    | none => none
  | c :: rest => stringRest (c :: seen) rest
  | [] => none
termination_by cs => cs.length

/-! ## Numbers -/

/-- A number: whole without point and exponent, a double otherwise. -/
def numberOfLexeme? (lexeme : List Char) : Option Json :=
  if lexeme.any (fun c => c == '.' || c == 'e' || c == 'E') then
    (Number.read? lexeme).map Json.real
  else (Number.readInt? lexeme).map Json.integer

/-- Characters that may occur in a number. -/
def isNumberChar (c : Char) : Bool :=
  c.isDigit || c == '-' || c == '+' || c == '.' || c == 'e' || c == 'E'

/-! ## Values -/

mutual

/-- A value off the front. -/
def value? : Nat → List Char → Option (Json × List Char)
  | 0, _ => none
  | fuel + 1, cs =>
    match cs.dropWhile isSpace with
    | 'n' :: 'u' :: 'l' :: 'l' :: rest => some (.null, rest)
    | 't' :: 'r' :: 'u' :: 'e' :: rest => some (.bool true, rest)
    | 'f' :: 'a' :: 'l' :: 's' :: 'e' :: rest => some (.bool false, rest)
    | '"' :: rest => (stringRest [] rest).map fun r => (.str r.1, r.2)
    | '[' :: rest =>
      match rest.dropWhile isSpace with
      | ']' :: rest => some (.arr [], rest)
      | rest => (items? fuel rest).map fun r => (.arr r.1, r.2)
    | '{' :: rest =>
      match rest.dropWhile isSpace with
      | '}' :: rest => some (.obj [], rest)
      | rest => (fields? fuel rest).map fun r => (.obj r.1, r.2)
    | cs => (numberOfLexeme? (cs.takeWhile isNumberChar)).map fun n => (n, cs.dropWhile isNumberChar)

/-- Items up to the closing bracket. -/
def items? : Nat → List Char → Option (List Json × List Char)
  | 0, _ => none
  | fuel + 1, cs =>
    match value? fuel cs with
    | none => none
    | some (item, rest) =>
      match rest.dropWhile isSpace with
      | ',' :: rest => (items? fuel rest).map fun r => (item :: r.1, r.2)
      | ']' :: rest => some ([item], rest)
      | _ => none

/-- Fields up to the closing brace. -/
def fields? : Nat → List Char → Option (List (String × Json) × List Char)
  | 0, _ => none
  | fuel + 1, cs =>
    match cs.dropWhile isSpace with
    | '"' :: rest =>
      match stringRest [] rest with
      | none => none
      | some (name, rest) =>
        match rest.dropWhile isSpace with
        | ':' :: rest =>
          match value? fuel rest with
          | none => none
          | some (value, rest) =>
            match rest.dropWhile isSpace with
            | ',' :: rest => (fields? fuel rest).map fun r => ((name, value) :: r.1, r.2)
            | '}' :: rest => some ([(name, value)], rest)
            | _ => none
        | _ => none
    | _ => none

end

/-- Reads a whole text as one value. -/
def read? (text : String) : Option Json :=
  let cs := text.toList
  match value? (2 * cs.length + 1) cs with
  | some (value, rest) => if rest.all isSpace then some value else none
  | none => none

/-- The double that a value stands for: a number, a truth value as one or nought,
or the text of a number, since what is not finite has no number in JSON. -/
def number? : Json → Option Float
  | .bool b => some (if b then 1 else 0)
  | .integer n => some (Number.nearest (n < 0) ⟨n.natAbs, 1⟩)
  | .real x => some x
  | .str s => Number.read? s.toList
  | _ => none

end PenPlot.Json
