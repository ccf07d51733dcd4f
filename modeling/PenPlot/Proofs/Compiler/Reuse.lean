-- A compiler that is used again. What its cache holds is what the source of the fonts would
-- answer, and each compilation makes its own statistics, so nothing that a compiler did before
-- shows in what it does next.
import PenPlot.Compiler
import PenPlot.Proofs.Compilation.Text
import PenPlot.Proofs.Font.Cache

namespace PenPlot

/-! ## What a source answers -/

namespace Font

theorem answer_loadHeld (fonts : List (String × Held)) (limit : TimeLimit) (locator : String)
    (a b : Trail) : (loadHeld fonts limit locator a).1 = (loadHeld fonts limit locator b).1 := by
  unfold loadHeld
  cases fonts.reverse.find? fun f => f.1 == locator with
  | none => rfl
  | some font => cases hstalls : font.2.stalls <;> simp [hstalls]

theorem answer_loadFile (tree : Files.Tree File) (limit? : Option TimeLimit) (locator : String)
    (a b : Trail) : (loadFile tree limit? locator a).1 = (loadFile tree limit? locator b).1 := by
  unfold loadFile
  dsimp only
  split
  · rfl
  · cases read (Files.Path.ofString locator).toString
      (tree.look (Files.Path.ofString locator)) <;> rfl

/-- A source answers the same whatever it was asked before. -/
theorem Source.answer_load (source : Source) (limit : TimeLimit) (locator : String)
    (a b : Trail) : (source.load limit locator a).1 = (source.load limit locator b).1 := by
  cases source with
  | memory fonts => exact answer_loadHeld fonts limit locator a b
  | files tree => exact congrArg (Except.map _) (answer_loadFile tree (some limit) locator a b)

/-- What a source answers for each locator, within a limit. -/
def Source.answers (source : Source) (limit : TimeLimit) (locator : String) :
    Except FontError Handle :=
  (source.load limit locator ⟨[], []⟩).1

end Font

/-! ## Calls -/

/-- A call of a compiler: the fonts that there are at the time, and what is to be compiled. -/
structure Call where
  source : Font.Source
  text? : Option String
  style? : Option Settings.Style
  machine? : Option Settings.Machine

namespace Compiler

/-- What a compiler replies to a call, and the compiler after it. -/
def reply (c : Compiler) (call : Call) : Reply Gcode.Program × Compiler :=
  c.compile call.source call.text? call.style? call.machine?

/-- The compiler after calls, one after the other. -/
def afterCalls (c : Compiler) (calls : List Call) : Compiler :=
  calls.foldl (fun c call => (c.reply call).2) c

/-- The limit within which a compiler with these settings loads a font. -/
def limit (settings : Settings.Application) : Font.TimeLimit :=
  .ofSeconds settings.font.loadTimeout.value

/-! ## What a compiler keeps -/

/-- A compiler with these settings that caches fonts or not, and whose cache holds only what a
source with these answers would give. -/
structure Keeps (settings : Settings.Application) (caches : Bool)
    (answers : String → Except FontError Font.Handle) (c : Compiler) : Prop where
  settings : c.settings = settings
  caches : c.cache?.isSome = caches
  agrees : ∀ cache, c.cache? = some cache → cache.Agrees answers

/-- What comes of loading the font of a style from a source with these answers. -/
def fontOf (settings : Settings.Application) (answers : String → Except FontError Font.Handle)
    (style : Settings.Style) : Except CompileError Font.Handle :=
  match Font.locator? style settings.font.fontDir with
  | none => .error .noLocator
  | some locator => (answers locator).mapError .font

variable {settings : Settings.Application} {caches : Bool} {clock : Clock}
  {answers : String → Except FontError Font.Handle} {c d : Compiler} {call : Call}

theorem keeps_fresh (settings : Settings.Application) (caches : Bool) (clock : Clock)
    (answers : String → Except FontError Font.Handle) :
    Keeps settings caches answers (fresh settings caches clock) where
  settings := rfl
  caches := by cases caches <;> rfl
  agrees cache h := by
    cases caches with
    | false => cases h
    | true =>
      cases h
      exact Font.Cache.agrees_empty answers

/-- Loading a font leaves the statistics and the clock alone. -/
structure Loaded (settings : Settings.Application) (caches : Bool)
    (answers : String → Except FontError Font.Handle) (c d : Compiler) : Prop where
  keeps : Keeps settings caches answers d
  stats : d.stats = c.stats
  clock : d.clock = c.clock

theorem Keeps.load (hc : Keeps settings caches answers c) {source : Font.Source}
    (hsource : ∀ locator, source.answers (limit settings) locator = answers locator)
    (locator : String) :
    (c.load source locator).1.answer = (answers locator).mapError .font ∧
      Loaded settings caches answers c (c.load source locator).2 := by
  have hsteady : ∀ locator trail,
      (source.load (limit settings) locator trail).1 = answers locator :=
    fun locator trail => (source.answer_load _ locator trail _).trans (hsource locator)
  obtain rfl := hc.settings
  unfold Compiler.load
  cases hcache : c.cache? with
  | none =>
    have hanswer := congrArg (Except.mapError CompileError.font) (hsteady locator ⟨[], []⟩)
    exact ⟨hanswer, hc, rfl, rfl⟩
  | some cache =>
    obtain ⟨hanswer, hagrees⟩ := (hc.agrees cache hcache).load hsteady
      (fun locator trail => trail.note (.cacheHit locator)) locator ⟨[], []⟩
    refine ⟨congrArg (Except.mapError CompileError.font) hanswer, ⟨rfl, ?_, ?_⟩, rfl, rfl⟩
    · rw [← hc.caches, hcache]
      rfl
    · rintro _ ⟨⟩
      exact hagrees

theorem Keeps.loadFont (hc : Keeps settings caches answers c) {source : Font.Source}
    (hsource : ∀ locator, source.answers (limit settings) locator = answers locator)
    (style : Settings.Style) :
    (c.loadFont source style).1.answer = fontOf settings answers style ∧
      Loaded settings caches answers c (c.loadFont source style).2 := by
  unfold Compiler.loadFont fontOf
  rw [hc.settings]
  cases Font.locator? style settings.font.fontDir with
  | none => exact ⟨rfl, hc, rfl, rfl⟩
  | some locator => exact hc.load hsource locator

/-! ## What a call does -/

/-- The answers that a source gives within the limit of the settings. -/
def Finds (settings : Settings.Application)
    (answers : String → Except FontError Font.Handle) (call : Call) : Prop :=
  ∀ locator, call.source.answers (limit settings) locator = answers locator

variable {fault : RequestFault} {request : Request}

/-- A request that is refused asks for no font and changes nothing. -/
theorem reply_refused (hcheck : Request.check call.text? call.style? = .error fault) :
    c.reply call = (⟨.error (.request fault), ⟨[], []⟩⟩, c) := by
  unfold reply compile
  rw [hcheck]

/-- A request that is not refused has its font loaded, and is compiled if the font comes. -/
theorem Keeps.reply_eq (hc : Keeps settings caches answers c)
    (hfinds : Finds settings answers call)
    (hcheck : Request.check call.text? call.style? = .ok request) :
    ∃ trail next, Loaded settings caches answers c next ∧
      c.reply call =
        match fontOf settings answers request.style with
        | .error e => (⟨.error e, trail⟩, next)
        | .ok font =>
          next.compileWith (some request.text) (some request.style) call.machine? font trail := by
  obtain ⟨hanswer, hloaded⟩ := hc.loadFont hfinds request.style
  rcases hload : c.loadFont call.source request.style with ⟨⟨answer, trail⟩, next⟩
  rw [hload] at hanswer hloaded
  obtain rfl := hanswer
  refine ⟨trail, next, hloaded, ?_⟩
  unfold reply compile
  simp only [hcheck, hload]
  cases fontOf settings answers request.style <;> rfl

theorem Keeps.reply (hc : Keeps settings caches answers c) (hfinds : Finds settings answers call) :
    Keeps settings caches answers (c.reply call).2 := by
  cases hcheck : Request.check call.text? call.style? with
  | error fault =>
    rw [reply_refused hcheck]
    exact hc
  | ok request =>
    obtain ⟨trail, next, hnext, hreply⟩ := hc.reply_eq hfinds hcheck
    rw [hreply]
    cases fontOf settings answers request.style with
    | error e => exact hnext.keeps
    | ok font => exact ⟨hnext.keeps.settings, hnext.keeps.caches, hnext.keeps.agrees⟩

theorem Keeps.afterCalls (hc : Keeps settings caches answers c) {calls : List Call}
    (hfinds : ∀ call ∈ calls, Finds settings answers call) :
    Keeps settings caches answers (c.afterCalls calls) := by
  induction calls generalizing c with
  | nil => exact hc
  | cons call rest ih =>
    obtain ⟨hcall, hrest⟩ := List.forall_mem_cons.mp hfinds
    exact ih (hc.reply hcall) hrest

/-- Of the compiler, a compilation reads its settings and its clock. -/
theorem compileWith_congr (hsettings : c.settings = d.settings) (hclock : c.clock = d.clock)
    (text? : Option String) (style? : Option Settings.Style) (machine? : Option Settings.Machine)
    (font : Font.Handle) (a b : Font.Trail) :
    (c.compileWith text? style? machine? font a).1.answer =
        (d.compileWith text? style? machine? font b).1.answer ∧
      (c.compileWith text? style? machine? font a).2.stats =
        (d.compileWith text? style? machine? font b).2.stats := by
  unfold compileWith
  rw [hsettings, hclock]
  exact ⟨rfl, rfl⟩

/-! ## The law -/

/-- What a compiler did before does not show, whether it caches fonts or not, while the answers of
the sources of its fonts do not change. It answers a call like a fresh compiler whose clock gives
the same readings. A request that is refused asks for no font, whatever the source is. Where the
font is loaded the statistics are those of the fresh compiler, and where the request is refused or
its font cannot be loaded they stay as they were. -/
theorem a_used_compiler_is_like_a_fresh_one (settings : Settings.Application) (caches : Bool)
    (clock : Clock) (answers : String → Except FontError Font.Handle) (calls : List Call)
    (call : Call) (hfinds : ∀ k ∈ calls ++ [call], Finds settings answers k) :
    let c := (fresh settings caches clock).afterCalls calls
    let alone := fresh settings caches c.clock
    (c.reply call).1.answer = (alone.reply call).1.answer ∧
    (∀ fault, Request.check call.text? call.style? = .error fault →
      (∀ source, c.reply { call with source } = c.reply call) ∧
        (c.reply call).1.trail = ⟨[], []⟩ ∧ (c.reply call).2.stats = c.stats) ∧
    ∀ request, Request.check call.text? call.style? = .ok request →
      (∀ font, (c.loadFont call.source request.style).1.answer = .ok font →
        (c.reply call).2.stats = (alone.reply call).2.stats) ∧
      ∀ e, (c.loadFont call.source request.style).1.answer = .error e →
        (c.reply call).2.stats = c.stats := by
  intro c alone
  have hcall : Finds settings answers call :=
    hfinds call (List.mem_append_right _ List.mem_cons_self)
  have hc : Keeps settings caches answers c :=
    (keeps_fresh settings caches clock answers).afterCalls fun k hk =>
      hfinds k (List.mem_append_left _ hk)
  have halone : Keeps settings caches answers alone := keeps_fresh settings caches c.clock answers
  cases hcheck : Request.check call.text? call.style? with
  | error fault =>
    refine ⟨?_, ?_, fun _ h => (by cases h)⟩
    · rw [reply_refused hcheck, reply_refused hcheck]
    · rintro _ ⟨⟩
      have hrefused := reply_refused (c := c) hcheck
      refine ⟨fun source => ?_, ?_, ?_⟩
      · rw [hrefused]
        exact reply_refused hcheck
      · rw [hrefused]
      · rw [hrefused]
  | ok request =>
    have hload := (hc.loadFont hcall request.style).1
    obtain ⟨trail, next, hnext, hreply⟩ := hc.reply_eq hcall hcheck
    obtain ⟨trail', next', hnext', hreply'⟩ := halone.reply_eq hcall hcheck
    cases hfont : fontOf settings answers request.style with
    | error e =>
      rw [hfont] at hload hreply hreply'
      refine ⟨by rw [hreply, hreply'], fun _ h => (by cases h), ?_⟩
      rintro _ ⟨⟩
      refine ⟨fun font h => ?_, fun _ _ => ?_⟩
      · rw [hload] at h
        cases h
      · rw [hreply]
        exact hnext.stats
    | ok font =>
      rw [hfont] at hload hreply hreply'
      obtain ⟨hanswer, hstats⟩ := compileWith_congr
        (hnext.keeps.settings.trans hnext'.keeps.settings.symm)
        (hnext.clock.trans hnext'.clock.symm) (some request.text) (some request.style)
        call.machine? font trail trail'
      refine ⟨by rw [hreply, hreply', hanswer], fun _ h => (by cases h), ?_⟩
      rintro _ ⟨⟩
      refine ⟨fun _ _ => by rw [hreply, hreply', hstats], fun e h => ?_⟩
      rw [hload] at h
      cases h

/-- One font in memory. -/
def archSource : Font.Source := .memory [("fonts/arch.ttf", ⟨Compilation.archFont, false⟩)]

/-- The standard style with a font. -/
def styleWith (font : String) : Settings.Style :=
  { Settings.Style.standard with font := some font }

/-- A call for a text in a font. -/
def archCall (text font : String) : Call := ⟨archSource, some text, some (styleWith font), none⟩

/-- A blank text, a font that is not there and a text that is compiled leave nothing behind. -/
theorem an_arch_is_compiled_once_more :
    let calls := [archCall " " "arch", archCall "n" "gone", archCall "n n" "arch"]
    let call := archCall "n" "arch"
    let answers := archSource.answers (limit .standard)
    let c := (fresh .standard true ⟨[100, 100.25], 0⟩).afterCalls calls
    let alone := fresh .standard true c.clock
    (∀ k ∈ calls ++ [call], Finds .standard answers k) ∧
      Request.check call.text? call.style? = .ok ⟨"n", styleWith "arch"⟩ ∧
      (c.loadFont archSource (styleWith "arch")).1.answer = .ok Compilation.archFont ∧
      (c.reply call).1.answer = (alone.reply call).1.answer ∧
      (c.reply call).2.stats = (alone.reply call).2.stats := by
  intro calls call answers c alone
  have hfinds : ∀ k ∈ calls ++ [call], Finds .standard answers k := by
    simp only [calls, call, List.cons_append, List.nil_append, List.forall_mem_cons]
    exact ⟨fun _ => rfl, fun _ => rfl, fun _ => rfl, fun _ => rfl, fun _ h => (by cases h)⟩
  have hcheck : Request.check call.text? call.style? = .ok ⟨"n", styleWith "arch"⟩ := rfl
  have hlocator : Font.locator? (styleWith "arch") Settings.Application.standard.font.fontDir =
      some "fonts/arch.ttf" := by decide +kernel
  have hfont : fontOf .standard answers (styleWith "arch") = .ok Compilation.archFont := by
    unfold fontOf
    rw [hlocator]
    rfl
  have hc : Keeps .standard true answers c :=
    (keeps_fresh .standard true _ answers).afterCalls fun k hk =>
      hfinds k (List.mem_append_left _ hk)
  have hload := (hc.loadFont (fun _ => rfl : Finds .standard answers call) (styleWith "arch")).1
  obtain ⟨hanswer, -, hstats⟩ :=
    a_used_compiler_is_like_a_fresh_one .standard true _ answers calls call hfinds
  exact ⟨hfinds, hcheck, hload.trans hfont, hanswer,
    (hstats _ hcheck).1 _ (hload.trans hfont)⟩

end Compiler

end PenPlot
