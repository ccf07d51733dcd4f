-- How the parts of a run follow each other. A part that starts on a desk ends with what it gives
-- or with a reason to stop, and leaves a desk; most parts change nothing on it but the console.
import PenPlot.CommandLine.Plot

namespace PenPlot.CommandLine

variable {α β : Type} {x : Plotting α} {f : α → Plotting β} {a : α} {b : β} {stop : Stop}
  {r : Except Stop α} {d d' : Desk}

/-! ## Parts of a run -/

/-- How a part of a run ends that starts on a desk. -/
def ended (x : Plotting α) (d : Desk) : Except Stop α × Desk := x.run.run d

/-- A part of a run that starts on a desk ends with a result and leaves a desk. -/
def Ends (x : Plotting α) (d : Desk) (r : Except Stop α) (d' : Desk) : Prop :=
  ended x d = (r, d')

theorem ends_ended (x : Plotting α) (d : Desk) : Ends x d (ended x d).1 (ended x d).2 := rfl

theorem ends_pure_iff : Ends (pure a) d r d' ↔ r = .ok a ∧ d' = d := by
  have h : ended (pure a) d = (.ok a, d) := rfl
  rw [Ends, h, Prod.mk.injEq, eq_comm, @eq_comm _ d]

theorem ends_throw_iff : Ends (throw stop : Plotting α) d r d' ↔ r = .error stop ∧ d' = d := by
  have h : ended (throw stop : Plotting α) d = (.error stop, d) := rfl
  rw [Ends, h, Prod.mk.injEq, eq_comm, @eq_comm _ d]

theorem ended_bind (x : Plotting α) (f : α → Plotting β) (d : Desk) :
    ended (x >>= f) d = match ended x d with
      | (.ok a, m) => ended (f a) m
      | (.error stop, m) => (.error stop, m) := by
  unfold ended
  rw [ExceptT.run_bind, StateT.run_bind]
  rcases x.run.run d with ⟨r, m⟩
  cases r <;> rfl

/-- After a part that gives what the next one needs, the run goes on with that one. -/
theorem ended_bind_of_ok (h : Ends x d (.ok a) d') : ended (x >>= f) d = ended (f a) d' := by
  rw [ended_bind, h]

/-- A part that another one follows gives what the other one needs, or stops both. -/
theorem ends_bind_ok_iff : Ends (x >>= f) d (.ok b) d' ↔
    ∃ a m, Ends x d (.ok a) m ∧ Ends (f a) m (.ok b) d' := by
  unfold Ends
  rw [ended_bind]
  rcases ended x d with ⟨r, m⟩
  cases r <;> simp [and_assoc]

theorem ends_bind_error_iff : Ends (x >>= f) d (.error stop) d' ↔
    Ends x d (.error stop) d' ∨ ∃ a m, Ends x d (.ok a) m ∧ Ends (f a) m (.error stop) d' := by
  unfold Ends
  rw [ended_bind]
  rcases ended x d with ⟨r, m⟩
  cases r <;> simp [and_assoc]

theorem ended_tryCatch (x : Plotting α) (handle : Stop → Plotting α) (d : Desk) :
    ended (tryCatch x handle) d = match ended x d with
      | (.ok a, m) => (.ok a, m)
      | (.error stop, m) => ended (handle stop) m := by
  unfold ended
  rw [ExceptT.run_tryCatch, StateT.run_bind]
  rcases x.run.run d with ⟨r, m⟩
  cases r <;> rfl

/-- A part with a handler ends as it does on its own, or as the handler does. -/
theorem ends_tryCatch_iff {handle : Stop → Plotting α} : Ends (tryCatch x handle) d r d' ↔
    (∃ a, r = .ok a ∧ Ends x d (.ok a) d') ∨
      ∃ stop m, Ends x d (.error stop) m ∧ Ends (handle stop) m r d' := by
  unfold Ends
  rw [ended_tryCatch]
  rcases ended x d with ⟨result, m⟩
  cases result with
  | error stop => simp [eq_comm, and_assoc]
  | ok a =>
    simp only [Prod.mk.injEq, Except.ok.injEq, reduceCtorEq, false_and, exists_false, or_false]
    constructor
    · rintro ⟨rfl, rfl⟩
      exact ⟨a, rfl, rfl, rfl⟩
    · rintro ⟨_, rfl, rfl, rfl⟩
      exact ⟨rfl, rfl⟩

/-- A part of a run that keeps what holds of a desk, in whatever way it ends. -/
def Keeps (holds : Desk → Prop) (x : Plotting α) : Prop := ∀ d, holds d → holds (ended x d).2

theorem Keeps.of_ends {holds : Desk → Prop} (h : Keeps holds x) (hd : holds d)
    (hends : Ends x d r d') : holds d' := by
  have hd' := h d hd
  rwa [hends] at hd'

theorem Keeps.bind {holds : Desk → Prop} (hx : Keeps holds x) (hf : ∀ a, Keeps holds (f a)) :
    Keeps holds (x >>= f) := by
  intro d hd
  have hm := hx d hd
  rw [ended_bind]
  generalize ended x d = ended at hm
  rcases ended with ⟨stop | a, m⟩
  · exact hm
  · exact hf a m hm

/-! ## Parts that change the console alone -/

/-- A part of a run that changes nothing on a desk but its console. -/
def OnlyPrints (x : Plotting α) : Prop :=
  ∀ d, ∃ console, (ended x d).2 = { d with console := console }

theorem OnlyPrints.of_ends (h : OnlyPrints x) (hends : Ends x d r d') :
    ∃ console, d' = { d with console := console } := by
  obtain ⟨console, hd⟩ := h d
  rw [hends] at hd
  exact ⟨console, hd⟩

theorem onlyPrints_pure (a : α) : OnlyPrints (pure a) := fun d => ⟨d.console, rfl⟩

theorem onlyPrints_throw (stop : Stop) : OnlyPrints (throw stop : Plotting α) :=
  fun d => ⟨d.console, rfl⟩

theorem OnlyPrints.bind (hx : OnlyPrints x) (hf : ∀ a, OnlyPrints (f a)) :
    OnlyPrints (x >>= f) := by
  intro d
  rw [ended_bind]
  obtain ⟨console, hd⟩ := hx d
  rcases hend : ended x d with ⟨r, m⟩
  rw [hend] at hd
  simp only at hd
  cases r with
  | error stop => exact ⟨console, hd⟩
  | ok a =>
    obtain ⟨more, hm⟩ := hf a m
    subst hd
    exact ⟨more, hm⟩

/-- What is printed appears on the console, also where the printout stops the run. -/
theorem ends_print_iff {p : Console.Printout} {r : Except Stop Unit} : Ends (print p) d r d' ↔
    d' = { d with console := d.console ++ [.text p.text] } ∧
      r = match p.error? with
        | some e => .error (.escaped (.report e))
        | none => .ok () := by
  have h : ended (print p) d = (match p.error? with
      | some e => .error (.escaped (.report e))
      | none => .ok (), { d with console := d.console ++ [.text p.text] }) := by
    unfold print
    rw [ended_bind]
    cases p.error? <;> rfl
  rw [Ends, h, Prod.mk.injEq, eq_comm, @eq_comm _ _ d', and_comm]

theorem ends_print_of_none {p : Console.Printout} (h : p.error? = none) (d : Desk) :
    Ends (print p) d (.ok ()) { d with console := d.console ++ [.text p.text] } :=
  ends_print_iff.mpr ⟨rfl, by rw [h]⟩

theorem onlyPrints_print (p : Console.Printout) : OnlyPrints (print p) :=
  fun d => ⟨_, (ends_print_iff.mp (ends_ended (print p) d)).1⟩

/-- A failure is reported, and the run stops, if it is not stopped by its report. -/
theorem ends_fail_iff {message details : String} :
    Ends (fail message details : Plotting α) d r d' ↔
      d' = { d with console := d.console ++ [.text (Console.error message details).text] } ∧
        r = .error (match (Console.error message details).error? with
          | some e => .escaped (.report e)
          | none => .reported) := by
  have h : ended (fail message details : Plotting α) d =
      (.error (match (Console.error message details).error? with
        | some e => .escaped (.report e)
        | none => .reported),
      { d with console := d.console ++ [.text (Console.error message details).text] }) := by
    unfold fail
    rw [ended_bind, ends_print_iff.mpr ⟨rfl, rfl⟩]
    cases (Console.error message details).error? <;> rfl
  rw [Ends, h, Prod.mk.injEq, eq_comm, @eq_comm _ _ d', and_comm]

theorem onlyPrints_fail (message details : String) :
    OnlyPrints (fail message details : Plotting α) :=
  (onlyPrints_print _).bind fun _ => onlyPrints_throw _

theorem onlyPrints_raise (e : CompileError) : OnlyPrints (raise e : Plotting α) :=
  onlyPrints_throw _

theorem onlyPrints_findProfile (o : Options) : OnlyPrints (findProfile o) := by
  unfold findProfile
  split
  · exact onlyPrints_pure _
  · exact onlyPrints_fail _ _

theorem onlyPrints_findText (o : Options) (stdin : String) : OnlyPrints (findText o stdin) := by
  unfold findText fillTemplate
  split
  · exact onlyPrints_fail _ _
  · split
    · exact onlyPrints_raise _
    · split
      · exact onlyPrints_throw _
      · split
        · exact onlyPrints_raise _
        · exact onlyPrints_pure _
  · exact onlyPrints_pure _
  · exact onlyPrints_pure _

theorem onlyPrints_accept (checked : Settings.Checked α) : OnlyPrints (accept checked) := by
  cases checked with
  | ok a => exact onlyPrints_pure a
  | failed problems => exact onlyPrints_throw _

theorem onlyPrints_announce (o : Options) (p : Settings.Profile) (style : Settings.Style)
    (m : Settings.Machine) : OnlyPrints (announce o p style m) :=
  (onlyPrints_print _).bind fun _ => (onlyPrints_print _).bind fun _ => onlyPrints_print _

theorem onlyPrints_rescue (stop : Stop) : OnlyPrints (rescue stop) := by
  unfold rescue
  split
  · exact onlyPrints_fail _ _
  · split
    · exact onlyPrints_fail _ _
    · exact onlyPrints_raise _
  · exact onlyPrints_throw _

/-! ## The whole run -/

/-- What stopped the work stops the run, in one way or another. -/
theorem isError_of_ends_rescue {r : Except Stop Unit} (h : Ends (rescue stop) d r d') :
    ∃ stop', r = .error stop' := by
  unfold rescue at h
  split at h
  · exact ⟨_, (ends_fail_iff.mp h).2⟩
  · split at h
    · exact ⟨_, (ends_fail_iff.mp h).2⟩
    · exact ⟨_, (ends_throw_iff.mp h).1⟩
  · exact ⟨_, (ends_throw_iff.mp h).1⟩

variable {o : Options} {stdin : String} {clock : Clock} {tree : Files.Tree Content}
  {r : Except Stop Unit}

/-- A run whose log is set up does its work, and an error of the work is rescued. -/
theorem ended_plot {profile : Settings.Profile} {m : Desk}
    (h : Ends (prepare o) d (.ok profile) m) :
    ended (plot o stdin clock) d = match ended (work o stdin clock profile) m with
      | (.ok (), d') => (.ok (), d')
      | (.error stop, m') => ended (rescue stop) m' := by
  unfold plot
  rw [ended_bind_of_ok h, ended_tryCatch]
  rcases ended (work o stdin clock profile) m with ⟨r, m'⟩
  cases r <;> rfl

/-- A run stops before its work, or does its work, or stops with what comes of its work. -/
theorem plot_cases (h : Ends (plot o stdin clock) d r d') :
    (∃ stop, r = .error stop ∧ Ends (prepare o) d (.error stop) d') ∨
      ∃ profile m, Ends (prepare o) d (.ok profile) m ∧
        (r = .ok () ∧ Ends (work o stdin clock profile) m (.ok ()) d' ∨
          ∃ stop stop' m', r = .error stop' ∧
            Ends (work o stdin clock profile) m (.error stop) m' ∧
            Ends (rescue stop) m' (.error stop') d') := by
  unfold plot at h
  cases r with
  | ok u =>
    obtain ⟨profile, m, hprepare, hwork⟩ := ends_bind_ok_iff.mp h
    refine .inr ⟨profile, m, hprepare, .inl ⟨rfl, ?_⟩⟩
    rcases ends_tryCatch_iff.mp hwork with ⟨_, -, hwork⟩ | ⟨stop, m', -, hrescue⟩
    · exact hwork
    · obtain ⟨_, hstop⟩ := isError_of_ends_rescue hrescue
      cases hstop
  | error stop =>
    rcases ends_bind_error_iff.mp h with hprepare | ⟨profile, m, hprepare, hwork⟩
    · exact .inl ⟨stop, rfl, hprepare⟩
    · refine .inr ⟨profile, m, hprepare, .inr ?_⟩
      rcases ends_tryCatch_iff.mp hwork with ⟨_, hok, -⟩ | ⟨stop', m', hwork, hrescue⟩
      · cases hok
      · exact ⟨stop', stop, m', rfl, hwork, hrescue⟩

/-- How a run ends whose parts have ended so. -/
def concluded : Except Stop Unit → Ending
  | .ok () => .success
  | .error (.usage e) => .usage e
  | .error .reported => .failure none
  | .error (.escaped e) => .failure (some e)

theorem concluded_exitCode_eq_zero_iff : (concluded r).exitCode = 0 ↔ r = .ok () := by
  cases r with
  | ok u => simp [concluded, Ending.exitCode]
  | error stop => cases stop <;> simp [concluded, Ending.exitCode]

/-- A run that is asked for a plot ends as the plot does. -/
theorem run_eq_of_ends {args : List String} (hdemand : demand args = .ok (.plot o))
    (hplot : Ends (plot o stdin clock) { tree := tree } r d) :
    run args stdin clock tree = (concluded r, d) := by
  have hrun : (plot o stdin clock).run.run { tree := tree } = (r, d) := hplot
  simp only [run, hdemand, hrun]
  cases r with
  | ok u => rfl
  | error stop => cases stop <;> rfl

/-- A text and one setting ask for a plot of the text with the setting. -/
theorem demand_set {option value : String} {slot : Slot}
    (h : tokens [option, value] = .ok [.set slot value]) : demand ["A", option, value] =
      (({ text? := some "A" } : Options).set slot value).map .plot := by
  have htokens : tokens ["A", option, value] =
      (tokens [option, value]).map (.positional "A" :: ·) := by rfl
  have hkept : withoutReplaced [.positional "A", .set slot value] =
      [.positional "A", .set slot value] := by
    simp [withoutReplaced]
  have hfold : [Token.positional "A", .set slot value].foldlM Options.take {} =
      ({ text? := some "A" } : Options).set slot value := by
    simp only [List.foldlM_cons, List.foldlM_nil, Options.take, bind_pure]
    rfl
  rw [demand, htokens, h]
  simp only [Except.map, bind, Except.bind]
  rw [hkept, hfold]
  rfl

end PenPlot.CommandLine
