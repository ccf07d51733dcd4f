-- Statistics of a compilation. They are counted from its events, so they and
-- the journal always agree.
import PenPlot.Journal.Event

namespace PenPlot

/-- The counts of a compilation, and when it started and ended. -/
structure Stats where
  charactersPlaced : Int := 0
  glyphsTraced : Nat := 0
  glyphsSkipped : Nat := 0
  commandsEmitted : Int := 0
  skippedChars : List String := []
  startTime? : Option Float := none
  endTime? : Option Float := none
  deriving Repr

/-- Counts an event. -/
def Stats.count (s : Stats) : Event → Stats
  | .textLaidOut _ characters _ => { s with charactersPlaced := s.charactersPlaced + characters }
  | .glyphTraced _ commands _ =>
    { s with
      glyphsTraced := s.glyphsTraced + 1
      commandsEmitted := s.commandsEmitted + commands }
  | .glyphSkipped char _ =>
    { s with
      glyphsSkipped := s.glyphsSkipped + 1
      skippedChars := s.skippedChars ++ [char] }
  | _ => s

/-- Counts events one after the other. -/
def Stats.countAll (s : Stats) (events : List Event) : Stats := events.foldl Stats.count s

/-- Events counted in two parts are counted once each. -/
theorem Stats.countAll_append (s : Stats) (a b : List Event) :
    s.countAll (a ++ b) = (s.countAll a).countAll b := by
  simp [Stats.countAll]

/-- The time from start to end; nothing unless both are known, and a time of
zero counts as unknown. -/
def Stats.duration (s : Stats) : Float :=
  match s.startTime?, s.endTime? with
  | some start, some stop => if start != 0 && stop != 0 then stop - start else 0
  | _, _ => 0

end PenPlot
