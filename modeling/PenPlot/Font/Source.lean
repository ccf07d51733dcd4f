-- Sources of fonts: fonts held in memory, or files below the working directory.
-- Every load is bounded by a time limit, and leaves a trail of the locators
-- that were asked for and of the events that were noted.
import PenPlot.Error
import PenPlot.Font.Cache
import PenPlot.Journal.Event
import PenPlot.Json.Reader
import PenPlot.Json.Shown

namespace PenPlot.Font

/-- What loading fonts left behind: the locators that a source in memory was
asked for, and the events. -/
structure Trail where
  calls : List String
  events : List Event

/-- The trail with one more call. -/
def Trail.call (t : Trail) (locator : String) : Trail := { t with calls := t.calls ++ [locator] }

/-- The trail with one more event. -/
def Trail.note (t : Trail) (e : Event) : Trail := { t with events := t.events ++ [e] }

/-- A font held in memory; one that stalls is never loaded. -/
structure Held where
  handle : Handle
  stalls : Bool

/-- Where fonts come from. -/
inductive Source where
  | memory (fonts : List (String × Held))
  | files (tree : Files.Tree File)

/-- A time limit: so many seconds, and how that was written. -/
structure TimeLimit where
  seconds : Float
  text : String

/-- A limit of so many seconds. -/
def TimeLimit.ofSeconds (seconds : Float) : TimeLimit := ⟨seconds, Number.shortest seconds⟩

/-- The limit that a value gives; what is no number gives none. -/
def TimeLimit.ofJson? : Json → Option TimeLimit
  | .str s => (Json.str s).number?.map .ofSeconds
  | value => value.number?.map fun seconds => ⟨seconds, value.shown⟩

/-- Loads one of the fonts held in memory. -/
def loadHeld (fonts : List (String × Held)) (limit : TimeLimit) : Provider Trail FontError Handle :=
  fun locator trail =>
    let trail := trail.call locator
    match fonts.reverse.find? fun f => f.1 == locator with
    | none => (.error ⟨locator, .fault .missing⟩, trail)
    | some (_, held) =>
      if held.stalls then (.error ⟨locator, .timedOut limit.text⟩, trail)
      else (.ok held.handle, trail)

/-- Whether a load takes longer than its limit; no time at all is always too
little. -/
def exceeds (found : Found) (limit : Float) : Bool :=
  limit ≤ 0 ||
    match found with
    | .ok (.file file) => file.stalls && limit < stallSeconds
    | _ => false

/-- Loads a font file, within a limit if there is one. -/
def loadFile (tree : Files.Tree File) (limit? : Option TimeLimit) : Provider Trail FontError Tables :=
  fun locator trail =>
    let trail := trail.note (.loadingFont locator)
    let path := Files.Path.ofString locator
    let found := tree.look path
    match limit?.filter fun limit => exceeds found limit.seconds with
    | some limit => (.error ⟨locator, .timedOut limit.text⟩, trail)
    | none =>
      match read path.toString found with
      | .error fault => (.error ⟨locator, .fault fault⟩, trail)
      | .ok tables =>
        (.ok tables, trail.note (.fontLoaded locator tables.format.name tables.unitsPerEm))

/-- Loads from a source. -/
def Source.load (source : Source) (limit : TimeLimit) : Provider Trail FontError Handle :=
  match source with
  | .memory fonts => loadHeld fonts limit
  | .files tree => fun locator trail =>
    let (answer, trail) := loadFile tree (some limit) locator trail
    (answer.map Tables.handle, trail)

end PenPlot.Font
