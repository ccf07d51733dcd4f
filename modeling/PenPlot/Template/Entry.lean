-- Entries: the values for the fields of a template, each given as a text of
-- the form `key=value`. The key is what stands before the first equals sign.
import PenPlot.Template.Basic

namespace PenPlot.Template

/-- An entry that has no key. -/
structure BadEntry where
  entry : String
  deriving DecidableEq, Repr

/-- The wording of the error. -/
def BadEntry.message (e : BadEntry) : String := "expected key=value, got '" ++ e.entry ++ "'"

/-- Reads an entry. Blanks around the key do not count, the value is kept as it
is. -/
def readEntry (entry : String) : Except BadEntry (String × String) :=
  let cs := entry.toList
  match cs.dropWhile (· ≠ '=') with
  | [] => .error ⟨entry⟩
  | _ :: value =>
    let key := Text.trim (cs.takeWhile (· ≠ '='))
    if key = [] then .error ⟨entry⟩ else .ok (String.ofList key, String.ofList value)

/-- The values with one more; a value under the same key is replaced. -/
def Values.insert (values : Values) (entry : String × String) : Values :=
  if values.any (fun v => v.1 == entry.1) then
    values.map fun v => if v.1 == entry.1 then entry else v
  else values ++ [entry]

/-- Why entries are not read: one has no key, or is no text. -/
inductive EntryError where
  | noKey (error : BadEntry)
  | notText
  deriving DecidableEq, Repr

/-- Reads entries that may be of any kind. -/
def readGiven (entries : List Json) : Except EntryError Values := do
  let pairs ← entries.mapM fun entry =>
    match entry with
    | .str s => (readEntry s).mapError .noKey
    | _ => .error .notText
  pure (pairs.foldl Values.insert [])

/-- Reads entries; the last one with a key counts. -/
def readEntries (entries : List String) : Except BadEntry Values :=
  (entries.mapM readEntry).map fun pairs => pairs.foldl Values.insert []

end PenPlot.Template
