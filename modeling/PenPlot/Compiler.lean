-- The compiler: it keeps its settings, perhaps a cache of fonts, and the
-- statistics of its last compilation. Each compilation is given the source of
-- its fonts and a clock.
import PenPlot.Compilation
import PenPlot.Font.Locator
import PenPlot.Font.Source
import PenPlot.Settings.Application

namespace PenPlot

/-- A clock: the readings that it gives in turn, over and over, and the number
of readings taken so far. -/
structure Clock where
  readings : List Float
  taken : Nat := 0

/-- The reading that comes `n` readings after the next one. -/
def Clock.ahead (c : Clock) (n : Nat) : Float :=
  (c.readings[(c.taken + n) % c.readings.length]?).getD 0

/-- The clock with `n` more readings taken. -/
def Clock.advance (c : Clock) (n : Nat) : Clock := { c with taken := c.taken + n }

/-- A compiler. -/
structure Compiler where
  settings : Settings.Application
  cache? : Option (Font.Cache Font.Handle)
  stats : Stats
  clock : Clock

namespace Compiler

/-- A compiler that has compiled nothing. -/
def fresh (settings : Settings.Application) (caches : Bool) (clock : Clock) : Compiler :=
  ⟨settings, if caches then some .empty else none, {}, clock⟩

/-- What came of a request: the answer, and the trail that it left. -/
structure Reply (α : Type) where
  answer : Except CompileError α
  trail : Font.Trail

/-- Loads what a locator names, through the cache if there is one. -/
def load (c : Compiler) (source : Font.Source) (locator : String) :
    Reply Font.Handle × Compiler :=
  let inner := source.load (.ofSeconds c.settings.font.loadTimeout.value)
  let trail : Font.Trail := ⟨[], []⟩
  match c.cache? with
  | none =>
    let (answer, trail) := inner locator trail
    (⟨answer.mapError .font, trail⟩, c)
  | some cache =>
    let hit (locator : String) (t : Font.Trail) := t.note (.cacheHit locator)
    let (answer, cache, trail) := Font.Cache.load inner hit locator (cache, trail)
    (⟨answer.mapError .font, trail⟩, { c with cache? := some cache })

/-- Loads the font of a style. -/
def loadFont (c : Compiler) (source : Font.Source) (style : Settings.Style) :
    Reply Font.Handle × Compiler :=
  match Font.locator? style c.settings.font.fontDir with
  | none => (⟨.error .noLocator, ⟨[], []⟩⟩, c)
  | some locator => c.load source locator

/-- Compiles with a loaded font. The clock is read at the start, and once more
where the compilation succeeds. -/
def compileWith (c : Compiler) (text? : Option String) (style? : Option Settings.Style)
    (machine? : Option Settings.Machine) (font : Font.Handle) (trail : Font.Trail) :
    Reply Gcode.Program × Compiler :=
  let machine := machine?.getD c.settings.machine
  let start := c.clock.ahead 0
  let r :=
    match text?, style? with
    | some text, some style => Compilation.run text style machine font start (c.clock.ahead 1)
    | _, _ => .stopped start [] (Compilation.lacking style? font)
  let taken := match r.outcome with
    | .ok _ => 2
    | .error _ => 1
  (⟨r.outcome, { trail with events := trail.events ++ r.events }⟩,
    { c with stats := r.stats, clock := c.clock.advance taken })

/-- Compiles a request: it is checked, its font is loaded, and its text is
compiled. -/
def compile (c : Compiler) (source : Font.Source) (text? : Option String)
    (style? : Option Settings.Style) (machine? : Option Settings.Machine) :
    Reply Gcode.Program × Compiler :=
  match Request.check text? style? with
  | .error fault => (⟨.error (.request fault), ⟨[], []⟩⟩, c)
  | .ok request =>
    match c.loadFont source request.style with
    | (⟨.error e, trail⟩, c) => (⟨.error e, trail⟩, c)
    | (⟨.ok font, trail⟩, c) =>
      c.compileWith (some request.text) (some request.style) machine? font trail

/-- The compiler with an empty cache, if it has one. -/
def clearCache? (c : Compiler) : Option Compiler :=
  c.cache?.map fun _ => { c with cache? := some .empty }

end Compiler

end PenPlot
