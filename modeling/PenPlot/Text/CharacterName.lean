-- The names of characters: which texts are one. Most names stand in a table;
-- those of unified ideographs and of Hangul syllables follow a rule.
import PenPlot.Text.NameSections
import PenPlot.Text.Ranges

namespace PenPlot.Text

/-! ## Names of the table -/

/-- The number that small letters stand for: `a` is nought, and `z` twenty-five. -/
def lettersTotal (letters : List Char) : Nat :=
  letters.foldl (fun n c => n + (c.toNat - 'a'.toNat)) 0

/-- The names of a section, given the name before them and its runs of small
letters and of other characters. -/
def namesOfRuns (previous : List Char) : List (List Char) → List (List Char)
  | letters :: rest :: more =>
    let name := previous.take (lettersTotal letters) ++ rest
    name :: namesOfRuns name more
  | _ => []

/-- The names of a section that is given in rows. -/
def namesOfSection (rows : Array String) : List (List Char) :=
  namesOfRuns [] ((rows.toList.flatMap String.toList).splitBy fun c d => c.isLower == d.isLower)

/-- Whether a text is a name of the table, small letters counting as capitals. -/
def isTableName (cs : List Char) : Bool :=
  match cs.map Char.toUpper with
  | [] => false
  | first :: rest =>
    match nameSections.lookup first with
    | some rows => (namesOfSection rows).contains (first :: rest)
    | none => false

/-! ## Names by rule -/

/-- The unified ideographs. -/
def ideographRanges : Array (Nat × Nat) := #[
  (0x3400, 0x4DBF), (0x4E00, 0x9FFF), (0x20000, 0x2A6DF), (0x2A700, 0x2B738), (0x2B740, 0x2B81D),
  (0x2B820, 0x2CEA1), (0x2CEB0, 0x2EBE0), (0x30000, 0x3134A)]

/-- What stands before the code point in the name of an ideograph. -/
def ideographStart : List Char := "CJK UNIFIED IDEOGRAPH-".toList

/-- The value of a hexadecimal digit, whose letters are capitals. -/
def capitalHexDigit? (c : Char) : Option Nat :=
  if c.isDigit then some (c.toNat - '0'.toNat)
  else if 'A' ≤ c ∧ c ≤ 'F' then some (c.toNat - 'A'.toNat + 10)
  else none

/-- Whether a text names an ideograph: by its code point in four or five digits. -/
def isIdeographName (cs : List Char) : Bool :=
  let digits := cs.drop ideographStart.length
  ideographStart.isPrefixOf cs && (digits.length == 4 || digits.length == 5) &&
    match digits.mapM capitalHexDigit? with
    | some ds => inRanges ideographRanges (Char.ofNat (ds.foldl (fun n d => 16 * n + d) 0))
    | none => false

/-- The consonants that a syllable may begin with. -/
def leads : List String := [
  "", "G", "GG", "N", "D", "DD", "R", "M", "B", "BB", "S", "SS", "J", "JJ", "C", "K", "T", "P", "H"]

/-- The vowels of a syllable. -/
def vowels : List String := [
  "A", "AE", "YA", "YAE", "EO", "E", "YEO", "YE", "O", "WA", "WAE", "OE", "YO", "U", "WEO", "WE",
  "WI", "YU", "EU", "YI", "I"]

/-- The consonants that a syllable may end with. -/
def tails : List String := [
  "", "G", "GG", "GS", "N", "NJ", "NH", "D", "L", "LG", "LM", "LB", "LS", "LT", "LP", "LH", "M",
  "B", "BS", "S", "SS", "NG", "J", "C", "K", "T", "P", "H"]

/-- What follows one of some starts. -/
def restsAfter (starts : List String) (cs : List Char) : List (List Char) :=
  starts.filterMap fun s => if s.toList.isPrefixOf cs then some (cs.drop s.length) else none

/-- What stands before the sound in the name of a Hangul syllable. -/
def syllableStart : List Char := "HANGUL SYLLABLE ".toList

/-- Whether a text names a Hangul syllable. -/
def isSyllableName (cs : List Char) : Bool :=
  syllableStart.isPrefixOf cs &&
    ((restsAfter leads (cs.drop syllableStart.length)).flatMap (restsAfter vowels)).any fun tail =>
      tails.contains (String.ofList tail)

/-! ## Names -/

/-- Whether a text is the name of a character. -/
def isCharacterName (cs : List Char) : Bool :=
  isSyllableName cs || isIdeographName cs || isTableName cs

end PenPlot.Text
