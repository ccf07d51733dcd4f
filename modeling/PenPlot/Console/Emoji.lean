-- Emoji by name: a name between two colons stands for an emoji, and may end in
-- the way in which the emoji is to be shown.
import PenPlot.Console.EmojiNames
import PenPlot.Text.Blank
import PenPlot.Text.Lines
import PenPlot.Text.Lower

namespace PenPlot.Console

/-! ## The table -/

/-- The value of a hexadecimal digit in upper case. -/
def hexValue (c : Char) : Nat :=
  if c.isDigit then c.toNat - '0'.toNat else c.toNat - 'A'.toNat + 10

/-- Characters that are written as code points with dashes between them. -/
def ofCodePoints (cs : List Char) : List Char :=
  (Text.splitAt '-' cs).map fun digits =>
    Char.ofNat (digits.foldl (fun n c => 16 * n + hexValue c) 0)

/-- The code points after a name, in a row of names and code points. -/
def codePointsOf? (name : List Char) : List (List Char) → Option (List Char)
  | other :: points :: rest => if other = name then some points else codePointsOf? name rest
  | _ => none

/-- The rows of the table, each cut into names and code points. -/
def emojiTable : Array (List (List Char)) :=
  emojiRows.map fun row => Text.splitAt ' ' row.toList

/-- The emoji with a name. -/
def emojiNamed? (name : List Char) : Option (List Char) :=
  (emojiTable.findSome? (codePointsOf? name)).map ofCodePoints

/-! ## Texts -/

/-- The ways in which an emoji may be shown, each with the character that asks
for it. -/
def variants : List (List Char × Char) := [("-emoji".toList, '\uFE0F'), ("-text".toList, '\uFE0E')]

/-- A name without the variant at its end, and the character for the variant. -/
def splitVariant (code : List Char) : List Char × List Char :=
  match variants.find? fun v => v.1.isSuffixOf code with
  | some (ending, selector) => (code.take (code.length - ending.length), [selector])
  | none => (code, [])

/-- What is shown of a name between colons: the emoji, or the name as it stands. -/
def shownCode (code : List Char) : List Char :=
  let (name, selector) := splitVariant code
  match emojiNamed? (Text.lower name) with
  | some emoji => emoji ++ selector
  | none => ':' :: (code ++ [':'])

/-- Whether a character may stand between two colons. -/
def isCodeChar (c : Char) : Bool := c != ':' && !Text.isBlank c

/-- The name after a colon, and what follows the colon after it. -/
def codeAfterColon? (cs : List Char) : Option (List Char × List Char) :=
  match cs.dropWhile isCodeChar with
  | ':' :: after => some (cs.takeWhile isCodeChar, after)
  | _ => none

/-- What follows a name is shorter than what follows its colon. -/
theorem length_of_codeAfterColon? {cs code rest : List Char}
    (h : codeAfterColon? cs = some (code, rest)) : rest.length < cs.length := by
  unfold codeAfterColon? at h
  split at h
  · rename_i after hdrop
    simp only [Option.some.injEq, Prod.mk.injEq] at h
    obtain ⟨_, rfl⟩ := h
    have hle := (List.dropWhile_sublist isCodeChar (l := cs)).length_le
    rw [hdrop] at hle
    simp only [List.length_cons] at hle
    omega
  · simp at h

/-- A text with an emoji for each name between colons. A colon that ends a name
does not begin another one. -/
def withEmoji : List Char → List Char
  | [] => []
  | c :: rest =>
    if c = ':' then
      match _found : codeAfterColon? rest with
      | some (code, after) => shownCode code ++ withEmoji after
      | none => c :: withEmoji rest
    else c :: withEmoji rest
termination_by cs => cs.length
decreasing_by
  · have := length_of_codeAfterColon? _found
    simp only [List.length_cons]
    omega
  · simp
  · simp

/-- A text without colons stays as it is. -/
theorem withEmoji_eq_self {cs : List Char} (h : ':' ∉ cs) : withEmoji cs = cs := by
  induction cs with
  | nil => simp [withEmoji]
  | cons c rest ih =>
    simp only [List.mem_cons, not_or] at h
    rw [withEmoji, if_neg (Ne.symm h.1), ih h.2]

end PenPlot.Console
