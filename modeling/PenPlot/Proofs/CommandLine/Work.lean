-- The work of a run up to the program. Nothing is written but the log, and the program is what a
-- new compiler makes of the text, the style and the machine that the options ask for.
import PenPlot.Proofs.CommandLine.Run
import PenPlot.Proofs.Console.Report
import PenPlot.Proofs.Files.Tree

namespace PenPlot.CommandLine

variable {α : Type} {x : Plotting α} {o : Options} {stdin : String} {clock : Clock}
  {tree t : Files.Tree Content} {d d' : Desk}

/-! ## Before the program is made -/

/-- A place where the log is kept. -/
def IsLogPlace (o : Options) (tree : Files.Tree Content) (p : Files.Place) : Prop :=
  ∃ log ∈ o.logFile?, tree.follow log.collapsed = .ok p

/-- A desk from which nothing has come out: the standard output is empty, and of the files only
the log may have changed. -/
structure Untouched (o : Options) (tree : Files.Tree Content) (d : Desk) : Prop where
  output : d.output = ""
  tree : tree.SameBut (IsLogPlace o tree) d.tree
  handler : ∀ handler ∈ d.handlers.file?, ∃ log ∈ o.logFile?, handler.1 = log.collapsed

theorem untouched_start (o : Options) (tree : Files.Tree Content) :
    Untouched o tree { tree := tree } :=
  ⟨rfl, .refl _ tree, by simp⟩

theorem keeps_of_onlyPrints (hx : OnlyPrints x) : Keeps (Untouched o tree) x := by
  intro d h
  obtain ⟨console, hd⟩ := hx d
  rw [hd]
  exact ⟨h.output, h.tree, h.handler⟩

/-- A change of the log is one of the changes that may be. -/
theorem Untouched.sameBut (h : Untouched o tree d) {log : Files.Path} (hlog : log ∈ o.logFile?)
    {change : Option Content → Content} (hmodify : d.tree.modify log.collapsed change = .ok t) :
    tree.SameBut (IsLogPlace o tree) t :=
  h.tree.trans <| (Files.sameBut_of_modify hmodify).mono fun _ hfollow =>
    ⟨log, hlog, h.tree.follow_iff.mp hfollow⟩

/-- A note changes the log that is open, or no file. -/
theorem tree_note (e : Event) (d : Desk) : (ended (note e) d).2.tree = d.tree ∨
    ∃ handler ∈ d.handlers.file?,
      d.tree.modify handler.1 (Content.append e) = .ok (ended (note e) d).2.tree := by
  rcases d with ⟨output, console, ⟨file?, console?⟩, tree⟩
  cases file? with
  | none => exact .inl rfl
  | some handler =>
    have htree : (ended (note e) ⟨output, console, ⟨some handler, console?⟩, tree⟩).2.tree =
        if decide (handler.2.weight ≤ e.level.weight) = true then
          (tree.modify handler.1 (Content.append e)).toOption.getD tree
        else tree := rfl
    rw [htree]
    split
    · cases hmodify : tree.modify handler.1 (Content.append e) with
      | error fault => exact .inl rfl
      | ok t => exact .inr ⟨handler, rfl, hmodify⟩
    · exact .inl rfl

theorem keeps_note (e : Event) : Keeps (Untouched o tree) (note e) := by
  intro d h
  refine ⟨h.output, ?_, h.handler⟩
  rcases tree_note e d with hsame | ⟨handler, hfile, hmodify⟩
  · rw [hsame]
    exact h.tree
  · obtain ⟨log, hlog, hpath⟩ := h.handler handler hfile
    rw [hpath] at hmodify
    exact h.sameBut hlog hmodify

/-- Events are noted one after the other, and that always comes to its end. -/
theorem ends_notes (events : List Event) (d : Desk) :
    Ends (events.forM note) d (.ok ()) (ended (events.forM note) d).2 := by
  induction events generalizing d with
  | nil => rfl
  | cons e events ih =>
    rw [List.forM_eq_forM, List.forM_cons]
    exact ends_bind_ok_iff.mpr ⟨(), _, rfl, by rw [ended_bind]; exact ih _⟩

theorem keeps_notes (events : List Event) : Keeps (Untouched o tree) (events.forM note) := by
  induction events with
  | nil => exact fun _ h => h
  | cons e events ih =>
    rw [List.forM_eq_forM, List.forM_cons]
    exact (keeps_note e).bind fun _ => ih

/-- Setting up the handlers opens the log file if there is one, and nothing else. -/
theorem openFile_cases (s : Setup) (blank : Content) (tree : Files.Tree Content) :
    ((s.openFile blank tree).1 = tree ∨ ∃ log ∈ s.logFile?,
      tree.modify log.collapsed (·.getD blank) = .ok (s.openFile blank tree).1) ∧
    ∀ file?, (s.openFile blank tree).2 = .ok file? →
      ∀ handler ∈ file?, ∃ log ∈ s.logFile?, handler.1 = log.collapsed := by
  unfold Setup.openFile
  split
  · exact ⟨.inl rfl, by simp⟩
  · rename_i log hlog
    split
    · exact ⟨.inl rfl, by simp⟩
    · cases hmodify : tree.modify log.collapsed (·.getD blank) with
      | error e => exact ⟨.inl rfl, by simp⟩
      | ok t =>
        refine ⟨.inr ⟨log, hlog, hmodify⟩, ?_⟩
        cases Setup.level s.fileLevel with
        | error e => rintro _ ⟨⟩
        | ok level =>
          rintro _ ⟨⟩ _ ⟨⟩
          exact ⟨log, hlog, rfl⟩

theorem run_setup_cases (s : Setup) (blank : Content) (tree : Files.Tree Content) :
    ((s.run blank tree).2.1 = tree ∨ ∃ log ∈ s.logFile?,
      tree.modify log.collapsed (·.getD blank) = .ok (s.run blank tree).2.1) ∧
    ∀ handler ∈ (s.run blank tree).1.file?, ∃ log ∈ s.logFile?, handler.1 = log.collapsed := by
  obtain ⟨htree, hfile⟩ := openFile_cases s blank tree
  unfold Setup.run
  generalize s.openFile blank tree = opened at htree hfile ⊢
  rcases opened with ⟨t, e | file?⟩
  · exact ⟨htree, by simp⟩
  · simp only
    split <;> exact ⟨htree, hfile _ rfl⟩

theorem keeps_startLog (quiet : Bool) :
    Keeps (Untouched o tree) (startLog quiet (applicationOf o).logging) := by
  intro d h
  have hget : Ends (get : Plotting Desk) d (.ok d) d := rfl
  unfold startLog
  rw [ended_bind_of_ok hget]
  simp only
  generalize hsetup : Setup.mk (applicationOf o).logging.logFile (applicationOf o).logging.logLevel
    (applicationOf o).logging.fileLogLevel quiet = setup
  obtain ⟨htree, hfile⟩ := run_setup_cases setup (.journal []) d.tree
  have hlogs : setup.logFile? = o.logFile? := by
    rw [← hsetup]
    rfl
  rw [hlogs] at htree hfile
  generalize setup.run (Content.journal []) d.tree = started at htree hfile ⊢
  rcases started with ⟨handlers, t, done⟩
  have hm : Untouched o tree { d with handlers := handlers, tree := t } := by
    refine ⟨h.output, ?_, hfile⟩
    rcases htree with rfl | ⟨log, hlog, hmodify⟩
    · exact h.tree
    · exact h.sameBut hlog hmodify
  cases done with
  | error e => exact hm
  | ok u => exact keeps_note _ _ hm

theorem keeps_prepare : Keeps (Untouched o tree) (prepare o) :=
  (keeps_of_onlyPrints (onlyPrints_findProfile o)).bind fun _ =>
    (keeps_startLog o.quiet).bind fun _ => keeps_of_onlyPrints (onlyPrints_pure _)

/-! ## The program -/

/-- The text that the options ask for. -/
inductive AsksFor (o : Options) (stdin : String) : String → Prop
  | given {text : String} (htemplate : o.template? = none) (htext : o.text? = some text)
      (hdash : text ≠ "-") : AsksFor o stdin text
  | absent (htemplate : o.template? = none) (htext : o.text? = none) : AsksFor o stdin ""
  | read (htemplate : o.template? = none) (htext : o.text? = some "-") :
      AsksFor o stdin (String.ofList (Text.withLineFeeds stdin.toList))
  | filled {name text : String} {template : Template} {values : List (String × String)}
      (htemplate : o.template? = some name) (htext : o.text? = none)
      (hnamed : Template.named? name = .ok template)
      (hvalues : Template.readEntries o.fields = .ok values)
      (hrender : template.render values "" = .ok text) : AsksFor o stdin text

/-- What a new compiler makes of a text with the fonts on a disk. -/
def compiled (o : Options) (clock : Clock) (tree : Files.Tree Content) (text : String)
    (style : Settings.Style) (m : Settings.Machine) : Compiler.Reply Gcode.Program × Compiler :=
  (Compiler.fresh (applicationOf o) false clock).compile (.files (tree.map Content.asFont))
    (some text) (some style) (some m)

/-- A program that the options ask for: it is what a new compiler makes of the text, with the style
and the machine of the profile and the settings of the options in the place of theirs. -/
def AskedFor (o : Options) (stdin : String) (clock : Clock) (tree : Files.Tree Content)
    (program : Gcode.Program) : Prop :=
  ∃ profile text style m, Settings.Profile.named? (Text.lowered o.profile) = .ok profile ∧
    AsksFor o stdin text ∧
    profile.style.override (styleOverrides o) = .ok style ∧
    profile.machine.override (machineOverrides o) = .ok m ∧
    (compiled o clock tree text style m).1.answer = .ok program

theorem asksFor_of_ends {text : String} (h : Ends (findText o stdin) d (.ok text) d') :
    AsksFor o stdin text := by
  unfold findText at h
  split at h
  · cases (ends_fail_iff.mp h).2
  · rename_i name htemplate htext
    unfold fillTemplate at h
    split at h
    · cases (ends_throw_iff.mp h).1
    · split at h
      · cases (ends_throw_iff.mp h).1
      · split at h
        · cases (ends_throw_iff.mp h).1
        · cases (ends_pure_iff.mp h).1
          exact .filled htemplate htext ‹_› ‹_› ‹_›
  · rename_i htemplate htext
    cases (ends_pure_iff.mp h).1
    exact .read htemplate htext
  · rename_i htemplate hdash
    cases (ends_pure_iff.mp h).1
    cases htext : o.text? with
    | none => exact .absent htemplate htext
    | some text => exact .given htemplate htext fun heq => hdash (heq ▸ htext)

theorem ended_compileText (text : String) (style : Settings.Style) (m : Settings.Machine) :
    ended (compileText (applicationOf o) clock text style m) d =
      (match (compiled o clock d.tree text style m).1.answer with
        | .ok program => .ok (program, (compiled o clock d.tree text style m).2.stats)
        | .error e => .error (.escaped (.compilation e)),
      (ended ((compiled o clock d.tree text style m).1.trail.events.forM note) d).2) := by
  have hget : Ends (get : Plotting Desk) d (.ok d) d := rfl
  rcases hmade : compiled o clock d.tree text style m with ⟨reply, compiler⟩
  unfold compiled at hmade
  unfold compileText
  rw [ended_bind_of_ok hget]
  simp only [hmade]
  rw [ended_bind_of_ok (ends_notes _ d)]
  cases reply.answer <;> rfl

theorem ends_accept_iff {checked : Settings.Checked α} {a : α} :
    Ends (accept checked) d (.ok a) d' ↔ checked = .ok a ∧ d' = d := by
  cases checked with
  | ok b => simp [accept, ends_pure_iff, eq_comm]
  | failed problems => simp [accept, ends_throw_iff]

theorem of_makeProgram {profile : Settings.Profile} {program : Gcode.Program} {stats : Stats}
    (h : Ends (makeProgram o stdin clock profile) d (.ok (program, stats)) d') :
    ∃ text style m, AsksFor o stdin text ∧
      profile.style.override (styleOverrides o) = .ok style ∧
      profile.machine.override (machineOverrides o) = .ok m ∧
      (compiled o clock d.tree text style m).1.answer = .ok program ∧
      stats = (compiled o clock d.tree text style m).2.stats := by
  unfold makeProgram at h
  obtain ⟨text, d₁, htext, hrest⟩ := ends_bind_ok_iff.mp h
  obtain ⟨style, d₂, hstyle, hrest'⟩ := ends_bind_ok_iff.mp hrest
  obtain ⟨m, d₃, hm, hlast⟩ := ends_bind_ok_iff.mp hrest'
  clear h hrest hrest'
  obtain ⟨hoverride, rfl⟩ := ends_accept_iff.mp hstyle
  obtain ⟨hoverride', rfl⟩ := ends_accept_iff.mp hm
  -- The compiler finds the files as they were.
  obtain ⟨console, hcompile⟩ : ∃ console, Ends (compileText (applicationOf o) clock text style m)
      { d with console := console } (.ok (program, stats)) d' := by
    obtain ⟨console, rfl⟩ := (onlyPrints_findText o stdin).of_ends htext
    simp only at hlast
    split at hlast
    · obtain ⟨_, d₄, hannounce, hcompile⟩ := ends_bind_ok_iff.mp hlast
      obtain ⟨console', rfl⟩ := (onlyPrints_announce o profile style m).of_ends hannounce
      exact ⟨console', hcompile⟩
    · exact ⟨console, hlast⟩
  rw [Ends, ended_compileText, Prod.mk.injEq] at hcompile
  refine ⟨text, style, m, asksFor_of_ends htext, hoverride, hoverride', ?_⟩
  generalize compiled o clock d.tree text style m = reply at hcompile ⊢
  obtain ⟨hresult, -⟩ := hcompile
  split at hresult
  · rename_i hanswer
    cases hresult
    exact ⟨hanswer, rfl⟩
  · cases hresult

/-- The announcement of a compilation is printed where its names are calm. -/
theorem result_announce {profile : Settings.Profile} {style : Settings.Style}
    (hname : Console.calm profile.name = true)
    (hsize : Console.calm (Number.general style.fontSize.value) = true)
    (hfont : ∀ locator ∈ Font.locator? style o.fontDir, Console.calm locator = true)
    (m : Settings.Machine) (d : Desk) : (ended (announce o profile style m) d).1 = .ok () := by
  have hnone : Console.calm "(none)" = true := by decide +kernel
  have hcalm : Console.calm (if style.fontReference?.any (· ≠ "") then
      (Font.locator? style o.fontDir).getD "(none)" else "(none)") = true := by
    split
    · cases hlocator : Font.locator? style o.fontDir with
      | none => exact hnone
      | some locator => exact hfont locator hlocator
    · exact hnone
  have hversion : Console.calm version = true := by decide +kernel
  have hstep : Console.calm "Compiling" = true := by decide +kernel
  unfold announce
  rw [ended_bind_of_ok (ends_print_of_none (Console.error?_header hversion) d),
    ended_bind_of_ok (ends_print_of_none (Console.error?_profileInfo hname hcalm hsize _) _),
    ends_print_of_none (Console.error?_step hstep)]

/-- Where the text and the settings are there and the announcement is printed, the program is made
by compiling. -/
theorem ended_makeProgram {profile : Settings.Profile} {text : String} {style : Settings.Style}
    {m : Settings.Machine} (htext : Ends (findText o stdin) d (.ok text) d)
    (hstyle : profile.style.override (styleOverrides o) = .ok style)
    (hmachine : profile.machine.override (machineOverrides o) = .ok m)
    (hannounce : (ended (announce o profile style m) d).1 = .ok ()) :
    ∃ console, ended (makeProgram o stdin clock profile) d =
      ended (compileText (applicationOf o) clock text style m) { d with console := console } := by
  have haccept {β : Type} (b : β) : Ends (accept (.ok b)) d (.ok b) d := rfl
  obtain ⟨console, hdesk⟩ := onlyPrints_announce o profile style m d
  have hends : Ends (announce o profile style m) d (.ok ()) { d with console := console } :=
    Prod.ext hannounce hdesk
  unfold makeProgram
  rw [ended_bind_of_ok htext, hstyle, ended_bind_of_ok (haccept style), hmachine,
    ended_bind_of_ok (haccept m)]
  simp only
  split
  · exact ⟨console, ended_bind_of_ok hends⟩
  · exact ⟨d.console, rfl⟩

theorem keeps_makeProgram (profile : Settings.Profile) :
    Keeps (Untouched o tree) (makeProgram o stdin clock profile) := by
  have hcompile (text : String) (style : Settings.Style) (m : Settings.Machine) :
      Keeps (Untouched o tree) (compileText (applicationOf o) clock text style m) := by
    intro d h
    rw [ended_compileText]
    exact keeps_notes _ d h
  refine (keeps_of_onlyPrints (onlyPrints_findText o stdin)).bind fun text => ?_
  refine (keeps_of_onlyPrints (onlyPrints_accept _)).bind fun style => ?_
  refine (keeps_of_onlyPrints (onlyPrints_accept _)).bind fun m => ?_
  simp only
  split
  · exact (keeps_of_onlyPrints (onlyPrints_announce o profile style m)).bind fun _ =>
      hcompile text style m
  · exact hcompile text style m

end PenPlot.CommandLine
