-- What a run leaves of the output. Once the program is made it comes out as a whole, and after that
-- only the report about it can stop the run.
import PenPlot.Proofs.CommandLine.Work
import PenPlot.Proofs.Compiler.Books

namespace PenPlot.CommandLine

variable {o : Options} {stdin : String} {clock : Clock} {tree t : Files.Tree Content} {d d' : Desk}

/-! ## The delivery -/

/-- The line of the summary that names the file cannot be printed. -/
def Unprintable (path : Files.Path) (program : Gcode.Program) : Prop :=
  (Console.outputLine path.toString (Number.grouped program.size)).error?.isSome = true

/-- Of the summary of a program only the line that names the file can fail, if the time that its
compilation took is finite. -/
theorem error?_summary {text : String} {style : Settings.Style} {m : Settings.Machine}
    {program : Gcode.Program} (hclock : (clock.ahead 1 - clock.ahead 0).isFinite = true)
    (h : (compiled o clock tree text style m).1.answer = .ok program) (path : Files.Path) :
    (summary path program (compiled o clock tree text style m).2.stats).error? =
      (Console.outputLine path.toString (Number.grouped program.size)).error? := by
  obtain ⟨request, font, -, hprogram, hstats⟩ := Compiler.exists_run_of_compile h
  obtain ⟨hstart, hstop⟩ := Compilation.times_of_program hprogram
  obtain ⟨placements, scale, entries, -, -, hbooks, -⟩ := Compilation.books_of_program hprogram
  have hduration : (compiled o clock tree text style m).2.stats.duration.isFinite = true := by
    rw [compiled, hstats, Stats.duration, hstart, hstop]
    simp only
    split
    · exact hclock
    · decide +kernel
  have hskipped := hbooks.skippedChars
  rw [← hstats] at hskipped
  rw [summary, compiled, hskipped]
  exact Console.error?_success hduration _ _ _ _

theorem ended_writeProgram (path : Files.Path) (text : String) (d : Desk) :
    ended (writeProgram path text) d = match d.tree.write path (.text text) with
      | .ok t => (.ok (), { d with tree := t })
      | .error e => ended (fail ("Could not write output: " ++ e.message path.toString) "") d := by
  have hget : ended (writeProgram path text) d = ended (match d.tree.write path (.text text) with
      | .ok t => set { d with tree := t }
      | .error e => fail ("Could not write output: " ++ e.message path.toString) "") d := rfl
  rw [hget]
  cases d.tree.write path (.text text) <;> rfl

/-- A program that was written is told of, unless the run is quiet. -/
theorem ended_deliver_of_write {path : Files.Path} {program : Gcode.Program} {stats : Stats}
    (houtput : o.output? = some path) (hwrite : d.tree.write path (.text program.text) = .ok t) :
    ended (deliver o program stats) d =
      if o.quiet then (.ok (), { d with tree := t })
      else ended (print (summary path program stats)) { d with tree := t } := by
  unfold deliver
  rw [houtput]
  simp only
  rw [ended_bind, ended_writeProgram, hwrite]
  cases o.quiet <;> rfl

/-- A program goes to the standard output, or it is written to a file, with a summary that may
fail, or it cannot be written. -/
theorem deliver_cases {program : Gcode.Program} {stats : Stats} {r : Except Stop Unit}
    (h : Ends (deliver o program stats) d r d') :
    (o.output? = none ∧ r = .ok () ∧ d' = { d with output := program.text }) ∨
    (∃ path t console, o.output? = some path ∧ d.tree.write path (.text program.text) = .ok t ∧
      d' = { d with tree := t, console := console } ∧
      (r = .ok () ↔ o.quiet = true ∨ (summary path program stats).error? = none)) ∨
    ∃ stop console, r = .error stop ∧ d' = { d with console := console } := by
  cases houtput : o.output? with
  | none =>
    rw [deliver, houtput] at h
    cases h
    exact .inl ⟨rfl, rfl, rfl⟩
  | some path =>
    cases hwrite : d.tree.write path (.text program.text) with
    | error e =>
      have hfail := (@ends_fail_iff Unit _ d _
        ("Could not write output: " ++ e.message path.toString) "").mpr ⟨rfl, rfl⟩
      rw [deliver, houtput, Ends, ended_bind, ended_writeProgram, hwrite] at h
      simp only at h
      rw [hfail] at h
      cases h
      exact .inr (.inr ⟨_, _, rfl, rfl⟩)
    | ok t =>
      rw [Ends, ended_deliver_of_write houtput hwrite] at h
      refine .inr (.inl ⟨path, t, ?_⟩)
      split at h
      · rename_i hquiet
        cases h
        exact ⟨d.console, rfl, hwrite, rfl, iff_of_true rfl (.inl hquiet)⟩
      · rename_i hquiet
        obtain ⟨rfl, hr⟩ := ends_print_iff.mp h
        refine ⟨_, rfl, hwrite, rfl, ?_⟩
        rw [hr]
        cases (summary path program stats).error? with
        | none => simp
        | some e => simpa using hquiet

/-! ## The law -/

/-- A program has come out: it stands on the standard output if the options name no file, and else
in the file, with nothing on the standard output. -/
def Delivered (o : Options) (program : Gcode.Program) (d : Desk) : Prop :=
  match o.output? with
  | none => d.output = program.text
  | some path => d.output = "" ∧ d.tree.look path = .ok (.file (.text program.text))

/-- What comes of the work: the program, or nothing; or the program is delivered and the line of
the summary that names its file stops the run. -/
theorem work_cases {profile : Settings.Profile} {r : Except Stop Unit}
    (hnull : ∀ path ∈ o.output?, path.hasNull = false)
    (hclock : (clock.ahead 1 - clock.ahead 0).isFinite = true)
    (hprofile : Settings.Profile.named? (Text.lowered o.profile) = .ok profile)
    (hd : Untouched o tree d) (h : Ends (work o stdin clock profile) d r d') :
    (∃ stop, r = .error stop ∧ Untouched o tree d') ∨
      ∃ program, AskedFor o stdin clock d.tree program ∧ Delivered o program d' ∧
        (r = .ok () ↔ ∀ path ∈ o.output?, o.quiet = true ∨ ¬ Unprintable path program) := by
  have hmake := @keeps_makeProgram o stdin clock tree profile d hd
  unfold work at h
  rw [Ends, ended_bind] at h
  rcases hmade : ended (makeProgram o stdin clock profile) d with ⟨made, m⟩
  rw [hmade] at h hmake
  simp only at hmake
  cases made with
  | error stop =>
    cases h
    exact .inl ⟨stop, rfl, hmake⟩
  | ok made =>
    obtain ⟨program, stats⟩ := made
    obtain ⟨text, style, machine, htext, hstyle, hmachine, hanswer, rfl⟩ := of_makeProgram hmade
    have hasked : AskedFor o stdin clock d.tree program :=
      ⟨profile, text, style, machine, hprofile, htext, hstyle, hmachine, hanswer⟩
    rcases deliver_cases h with ⟨hnone, rfl, rfl⟩ | ⟨path, t, console, houtput, hwrite, rfl, hr⟩ |
      ⟨stop, console, rfl, rfl⟩
    · refine .inr ⟨program, hasked, ?_, by simp [hnone]⟩
      rw [Delivered, hnone]
    · refine .inr ⟨program, hasked, ?_, hr.trans ?_⟩
      · rw [Delivered, houtput]
        exact ⟨hmake.output, Files.look_of_write hwrite (hnull path houtput)⟩
      · rw [error?_summary hclock hanswer]
        simp [houtput, Unprintable]
    · exact .inl ⟨stop, rfl, hmake.output, hmake.tree, hmake.handler⟩

/-- Nothing has come out: the standard output is empty, and the file that the options name is as it
was. -/
def NothingOut (o : Options) (tree : Files.Tree Content) (d : Desk) : Prop :=
  d.output = "" ∧ ∀ path ∈ o.output?, (d.tree.look path).toOption = (tree.look path).toOption

/-- The log is not kept in the file that the options name. -/
def LogApart (o : Options) (tree : Files.Tree Content) : Prop :=
  ∀ path ∈ o.output?, ∀ place, tree.follow path = .ok place → ¬ IsLogPlace o tree place

theorem Untouched.nothingOut (h : Untouched o tree d) (hlog : LogApart o tree) :
    NothingOut o tree d :=
  ⟨h.output, fun path hpath => h.tree.toOption_look (hlog path hpath)⟩

theorem map_eq_ok_iff {ε β γ : Type} {e : Except ε β} {g : β → γ} {c : γ} :
    e.map g = .ok c ↔ ∃ b, e = .ok b ∧ g b = c := by
  cases e <;> simp [Except.map]

theorem hasNull_of_readPath {slot : Slot} {value : String} {path : Files.Path}
    (h : readPath slot value = .ok path) : path.hasNull = false := by
  unfold readPath at h
  dsimp only at h
  split at h
  · cases h
  · rename_i hnull
    cases h
    simpa using hnull

/-- One more setting leaves the file that the options name, or names one without the null
character. -/
theorem output?_of_set {o' : Options} {slot : Slot} {value : String}
    (h : o.set slot value = .ok o') :
    o'.output? = o.output? ∨ ∃ path, o'.output? = some path ∧ path.hasNull = false := by
  cases slot <;> simp only [Options.set] at h
  case output =>
    obtain ⟨path, hpath, rfl⟩ := map_eq_ok_iff.mp h
    exact .inr ⟨path, rfl, hasNull_of_readPath hpath⟩
  case profile | font | template | field | logLevel =>
    cases h
    exact .inl rfl
  all_goals
    obtain ⟨_, -, rfl⟩ := map_eq_ok_iff.mp h
    exact .inl rfl

theorem output?_of_take {o' : Options} {token : Token} (h : o.take token = .ok o') :
    o'.output? = o.output? ∨ ∃ path, o'.output? = some path ∧ path.hasNull = false := by
  unfold Options.take at h
  split at h
  case h_1 => exact output?_of_set h
  case h_6 =>
    split at h
    · cases h
      exact .inl rfl
    · cases h
  all_goals
    cases h
    exact .inl rfl

theorem hasNull_of_foldlM {o' : Options} {ts : List Token}
    (h : ts.foldlM Options.take o = .ok o') (ho : ∀ path ∈ o.output?, path.hasNull = false) :
    ∀ path ∈ o'.output?, path.hasNull = false := by
  induction ts generalizing o with
  | nil =>
    cases h
    exact ho
  | cons token ts ih =>
    rw [List.foldlM_cons] at h
    cases htake : o.take token with
    | error e =>
      rw [htake] at h
      cases h
    | ok next =>
      rw [htake] at h
      refine ih h fun path hpath => ?_
      rcases output?_of_take htake with hsame | ⟨named, hnamed, hnull⟩
      · exact ho path (hsame ▸ hpath)
      · rw [hnamed] at hpath
        cases hpath
        exact hnull

/-- A file that options name has a name without the null character. -/
theorem hasNull_of_demand {args : List String} (h : demand args = .ok (.plot o)) :
    ∀ path ∈ o.output?, path.hasNull = false := by
  unfold demand at h
  cases htokens : tokens args with
  | error e =>
    rw [htokens] at h
    cases h
  | ok ts =>
    rw [htokens] at h
    simp only [bind, Except.bind] at h
    split at h
    · cases h
    · cases h
    · obtain ⟨_, hfold, hplot⟩ := map_eq_ok_iff.mp h
      cases hplot
      exact hasNull_of_foldlM hfold (by simp)

theorem profile_of_prepare {profile : Settings.Profile}
    (h : Ends (prepare o) d (.ok profile) d') :
    Settings.Profile.named? (Text.lowered o.profile) = .ok profile := by
  obtain ⟨found, m, hfound, hrest⟩ := ends_bind_ok_iff.mp h
  obtain ⟨u, m', -, hprofile⟩ := ends_bind_ok_iff.mp hrest
  cases (ends_pure_iff.mp hprofile).1
  unfold findProfile at hfound
  split at hfound
  · rename_i hnamed
    cases (ends_pure_iff.mp hfound).1
    exact hnamed
  · cases (ends_fail_iff.mp hfound).2

/-- The files as the work of a run finds them, once the log is set up. -/
def filesAtWork (o : Options) (tree : Files.Tree Content) : Files.Tree Content :=
  (ended (prepare o) { tree := tree }).2.tree

/-- A run delivers the program that it is asked for, or nothing. If it succeeds, the program has
come out as a whole. If it fails, nothing has come out, whatever made it fail, but for one thing:
a line of the summary that names the file and cannot be printed, after the program has come out. -/
theorem a_run_delivers_its_program_or_nothing (args : List String) (stdin : String) (clock : Clock)
    (tree : Files.Tree Content) (hclock : (clock.ahead 1 - clock.ahead 0).isFinite = true)
    {ending : Ending} {desk : Desk} (hrun : run args stdin clock tree = (ending, desk)) :
    (∀ e, demand args = .error e → ending.exitCode ≠ 0 ∧ desk.output = "" ∧ desk.tree = tree) ∧
    ∀ o, demand args = .ok (.plot o) → LogApart o tree →
      (NothingOut o tree desk ∧ ending.exitCode ≠ 0) ∨
        ∃ program, AskedFor o stdin clock (filesAtWork o tree) program ∧ Delivered o program desk ∧
          (ending.exitCode = 0 ↔
            ∀ path ∈ o.output?, o.quiet = true ∨ ¬ Unprintable path program) := by
  refine ⟨?_, ?_⟩
  · intro e hdemand
    unfold run at hrun
    rw [hdemand] at hrun
    cases hrun
    exact ⟨by simp [Ending.exitCode], rfl, rfl⟩
  · intro o hdemand hlog
    obtain ⟨r, d, hplot⟩ : ∃ r d, Ends (plot o stdin clock) { tree := tree } r d :=
      ⟨_, _, ends_ended _ _⟩
    rw [run_eq_of_ends hdemand hplot, Prod.mk.injEq] at hrun
    obtain ⟨rfl, rfl⟩ := hrun
    simp only [concluded_exitCode_eq_zero_iff, ne_eq]
    rcases plot_cases hplot with ⟨stop, rfl, hprepare⟩ | ⟨profile, m, hprepare, hwork⟩
    · have huntouched := keeps_prepare.of_ends (untouched_start o tree) hprepare
      exact .inl ⟨huntouched.nothingOut hlog, by rintro ⟨⟩⟩
    · have huntouched := keeps_prepare.of_ends (untouched_start o tree) hprepare
      have htree : m.tree = filesAtWork o tree := by rw [filesAtWork, hprepare]
      have hcases {r d} := @work_cases o stdin clock tree m d profile r (hasNull_of_demand hdemand)
        hclock (profile_of_prepare hprepare) huntouched
      rw [htree] at hcases
      rcases hwork with ⟨rfl, hwork⟩ | ⟨stop, stop', m', rfl, hwork, hrescue⟩
      · rcases hcases hwork with ⟨stop, ⟨⟩, -⟩ | hout
        exact .inr hout
      · -- The report of the error changes the console alone.
        obtain ⟨console, rfl⟩ := (onlyPrints_rescue stop).of_ends hrescue
        rcases hcases hwork with ⟨_, -, hm⟩ | ⟨program, hasked, hdelivered, hfails⟩
        · exact .inl ⟨hm.nothingOut hlog, by rintro ⟨⟩⟩
        · refine .inr ⟨program, hasked, hdelivered, ?_⟩
          rw [← hfails]
          simp

/-! ## Runs with a font of no outlines -/

/-- A font of no outlines. -/
def blankTables : Font.Tables where
  unitsPerEm := 8
  order := [".notdef"]
  advances := [(".notdef", some 4)]
  charMap := []
  glyphs := []
  tags := ["glyf"]

/-- A disk with this font where it is looked for, and some directories. -/
def blankDisk (directories : List Files.Place) : Files.Tree Content :=
  ⟨(⟨false, 0, ["fonts".toList, "Quicksand.ttf".toList]⟩,
      .file (.font ⟨blankTables, none, false⟩)) ::
    directories.map fun p => (p, .directory)⟩

/-- A clock of two readings. -/
def twoReadings : Clock := ⟨[100, 100.25], 0⟩

/-- The options that name a file for an A. -/
def optionsTo (path : Files.Path) : Options := { text? := some "A", output? := some path }

theorem a_quiet_run_delivers_its_program :
    let r := run ["A", "-o", "a.nc", "-q"] "" twoReadings (blankDisk [])
    r.1.exitCode = 0 ∧ r.2.output = "" ∧ ∃ program : Gcode.Program,
      r.2.tree.look (.ofString "a.nc") = .ok (.file (.text program.text)) := by
  intro r
  have hclock : (twoReadings.ahead 1 - twoReadings.ahead 0).isFinite = true := by decide +kernel
  have hexit : r.1.exitCode = 0 := by decide +kernel
  have hdemand : demand ["A", "-o", "a.nc", "-q"] =
      .ok (.plot { optionsTo (.ofString "a.nc") with quiet := true }) := by rfl
  have hrun : r = (r.1, r.2) := Prod.mk.eta.symm
  obtain ⟨-, hplot⟩ := a_run_delivers_its_program_or_nothing ["A", "-o", "a.nc", "-q"] ""
    twoReadings (blankDisk []) hclock hrun
  have hlog : LogApart { optionsTo (.ofString "a.nc") with quiet := true } (blankDisk []) :=
    fun _ _ _ _ ⟨_, hlog, _⟩ => by cases hlog
  rcases hplot _ hdemand hlog with ⟨-, hfails⟩ | ⟨program, -, ⟨houtput, hlook⟩, -⟩
  · exact absurd hexit hfails
  · exact ⟨hexit, houtput, program, hlook⟩

/-! ## A name that cannot be printed -/

theorem utf8ByteSize_ofList (cs : List Char) :
    (String.ofList cs).utf8ByteSize = (cs.map Char.utf8Size).sum := by
  induction cs with
  | nil => rfl
  | cons c cs ih =>
    rw [← List.singleton_append, String.ofList_append, String.utf8ByteSize_append, ih,
      ← String.singleton_eq_ofList, String.utf8ByteSize_singleton]
    rfl

/-- Three names, which make a line that starts with two joiners and is too wide. -/
def deepNames : List Files.Name :=
  [['a', '\n', Console.joiner, Console.joiner, '日'] ++ List.replicate 240 '\t',
    List.replicate 250 '\t', List.replicate 134 '\t' ++ List.replicate 4 '\u3000']

/-- A path with these names. -/
def deepPath : Files.Path := ⟨.working, deepNames⟩

/-- A disk with the directories of this path. -/
def deepDisk : Files.Tree Content := blankDisk [⟨false, 0, deepNames.take 2⟩]

theorem toList_deepPath : deepPath.toString.toList = Files.joinNames deepNames :=
  String.toList_ofList

theorem demand_deepPath :
    demand ["A", "-o", deepPath.toString] = .ok (.plot (optionsTo deepPath)) := by
  have hofString : Files.Path.ofString deepPath.toString = deepPath := by
    rw [Files.Path.ofString, toList_deepPath]
    decide +kernel
  rw [demand_set rfl, Options.set, readPath, hofString, if_neg (by decide +kernel)]
  rfl

/-- Whether a directory stands at a place. -/
def isDirectory (t : Files.Tree Content) (p : Files.Place) : Bool :=
  match t.at? p with
  | some .directory => true
  | _ => false

theorem isDirectory_iff {p : Files.Place} : isDirectory t p = true ↔ t.at? p = some .directory := by
  unfold isDirectory
  split <;> simp_all

theorem follow_deepPath : deepDisk.follow deepPath = .ok ⟨false, 0, deepNames⟩ := by
  have hdirectories : ∀ n < 3, isDirectory deepDisk ⟨false, 0, deepNames.take n⟩ = true := by
    decide +kernel
  have hnames : ∀ name ∈ deepNames,
      name ≠ Files.parentName ∧ (name.map Char.utf8Size).sum ≤ Files.maxNameBytes := by
    decide +kernel
  refine Files.follow_of_directories ?_ (fun n hn => ?_) fun name hname => ?_
  · have hstring : deepPath.toString = String.ofList (Files.joinNames deepNames) := rfl
    rw [hstring, utf8ByteSize_ofList]
    decide +kernel
  · exact isDirectory_iff.mp (hdirectories n hn)
  · rw [utf8ByteSize_ofList]
    exact hnames name hname

/-- The line with this path and a count of eight lines cannot be printed. -/
theorem error?_outputLine_deepPath :
    (Console.outputLine deepPath.toString (Number.grouped 8)).error?.isSome = true := by
  have hline : ("  " ++ deepPath.toString ++ " (" ++ Number.grouped 8 ++ " lines)").toList =
      [' ', ' '] ++ Files.joinNames deepNames ++ " (8 lines)".toList := by
    have hcount : Number.grouped 8 = "8" := by decide +kernel
    simp [toList_deepPath, hcount]
  have huncut : (Console.setText (([' ', ' '] ++ Files.joinNames deepNames ++
      " (8 lines)".toList).filter (!Console.isDropped ·))).toOption.isNone = true := by
    decide +kernel
  rw [Console.outputLine, Console.printPlain, hline, Console.printSet]
  split
  · rfl
  · rename_i hset
    rw [hset] at huncut
    cases huncut

/-- A summary that cannot be printed stops a run after the file is written. -/
theorem ends_plot_of_unprinted {profile : Settings.Profile} {program : Gcode.Program}
    {stats : Stats} {m : Desk} {path : Files.Path}
    (hprepare : Ends (prepare o) d (.ok profile) m)
    (hmade : Ends (makeProgram o stdin clock profile) m (.ok (program, stats)) d')
    (houtput : o.output? = some path) (hquiet : o.quiet = false)
    (hwrite : d'.tree.write path (.text program.text) = .ok t)
    (hfails : (summary path program stats).error?.isSome = true) :
    ∃ e desk, Ends (plot o stdin clock) d (.error (.escaped (.report e))) desk ∧
      desk.tree = t := by
  obtain ⟨e, he⟩ := Option.isSome_iff_exists.mp hfails
  obtain ⟨desk, hprint, htree⟩ : ∃ desk, Ends (print (summary path program stats))
      { d' with tree := t } (.error (.escaped (.report e))) desk ∧ desk.tree = t :=
    ⟨_, ends_print_iff.mpr ⟨rfl, by rw [he]⟩, rfl⟩
  have hwork : ended (work o stdin clock profile) m =
      ended (print (summary path program stats)) { d' with tree := t } := by
    unfold work
    rw [ended_bind_of_ok hmade]
    simp only
    rw [ended_deliver_of_write houtput hwrite, if_neg (by simp [hquiet])]
  refine ⟨e, desk, ?_, htree⟩
  unfold Ends
  rw [ended_plot hprepare, hwork, hprint]
  rfl

/-- A run may fail after its program has come out. -/
theorem a_name_of_joiners_fails_after_its_program :
    let r := run ["A", "-o", deepPath.toString] "" twoReadings deepDisk
    r.1.exitCode = 1 ∧ (deepDisk.look deepPath).toOption.isNone = true ∧
      ∃ program : Gcode.Program, r.2.tree.look deepPath = .ok (.file (.text program.text)) := by
  intro r
  have hnull : deepPath.hasNull = false := by decide +kernel
  have hat : (deepDisk.at? ⟨false, 0, deepNames⟩).isNone = true := by decide +kernel
  rw [Option.isNone_iff_eq_none] at hat
  obtain ⟨m, hprepare, htree⟩ : ∃ m, Ends (prepare (optionsTo deepPath)) { tree := deepDisk }
      (.ok .api) m ∧ m.tree = deepDisk := ⟨_, rfl, rfl⟩
  -- The program is made.
  obtain ⟨console, hmake⟩ := @ended_makeProgram (optionsTo deepPath) "" twoReadings m .api "A"
    Settings.Profile.api.style .standard rfl rfl rfl
    (result_announce (by decide +kernel) (by decide +kernel) (by decide +kernel) _ m)
  have hsize : (compiled (optionsTo deepPath) twoReadings deepDisk "A" Settings.Profile.api.style
      .standard).1.answer.toOption.map Gcode.Program.size = some 8 := by decide +kernel
  have hsummary {program : Gcode.Program} := @error?_summary (optionsTo deepPath) twoReadings
    deepDisk "A" Settings.Profile.api.style .standard program (by decide +kernel)
  rw [ended_compileText, htree] at hmake
  generalize compiled (optionsTo deepPath) twoReadings deepDisk "A" Settings.Profile.api.style
    .standard = made at hsize hsummary hmake
  obtain ⟨program, hprogram, hsize⟩ : ∃ program, made.1.answer = .ok program ∧
      program.size = 8 := by
    obtain ⟨program, hprogram, hsize⟩ := Option.map_eq_some_iff.mp hsize
    cases hanswer : made.1.answer with
    | error e =>
      rw [hanswer] at hprogram
      cases hprogram
    | ok answer =>
      rw [hanswer] at hprogram
      cases hprogram
      exact ⟨program, rfl, hsize⟩
  rw [hprogram] at hmake
  obtain ⟨d, hmade⟩ : ∃ d, Ends (makeProgram (optionsTo deepPath) "" twoReadings .api) m
    (.ok (program, made.2.stats)) d := ⟨_, hmake⟩
  -- It is written.
  have hd := (keeps_makeProgram .api).of_ends
    (keeps_prepare.of_ends (untouched_start _ deepDisk) hprepare) hmade
  have hfree : d.tree.at? ⟨false, 0, deepNames⟩ ≠ some .directory := by
    rw [Ne, hd.tree.directory_iff, hat]
    simp
  obtain ⟨t, hwrite⟩ := Files.exists_modify (hd.tree.follow_iff.mpr follow_deepPath) hfree
    fun _ => .text program.text
  -- The line with its name is not printed.
  have hfails : (summary deepPath program made.2.stats).error?.isSome = true := by
    rw [hsummary hprogram, hsize]
    exact error?_outputLine_deepPath
  obtain ⟨e, desk, hplot, rfl⟩ := ends_plot_of_unprinted hprepare hmade rfl rfl hwrite hfails
  have hrun : r = (_, desk) := run_eq_of_ends demand_deepPath hplot
  rw [hrun]
  refine ⟨rfl, ?_, program, Files.look_of_write hwrite hnull⟩
  simp only [Files.Tree.look, hnull, follow_deepPath, hat, Bool.false_eq_true, if_false]
  rfl

end PenPlot.CommandLine
