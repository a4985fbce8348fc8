import LineShell.Machine.System
import LineShell.Proofs.Carrying
import LineShell.Proofs.Reading

/-!
The working directory. A line moves the session only by a `cd` with one argument that leads to a directory which may
be searched, and it moves it to the canonical path of that directory. Every other line leaves the session where it
is, so that however many lines are carried out, and whatever becomes of them, the working directory stays absolute.
-/

namespace LineShell
open LineShell.Action

/-- The event tells that a path does not lead to a directory that may be searched. -/
inductive Event.Bars : Event → Prop
  | missing (path : Path) (source : Fault) : Bars ⟨.canonicalize path, .error source⟩
  | unknown (path : Path) (source : Fault) : Bars ⟨.examine path, .error source⟩
  | noDirectory (path : Path) {kind : FileKind} (hkind : kind ≠ .directory) : Bars ⟨.examine path, .ok kind⟩
  | forbidden (path : Path) (errno : Errno) : Bars ⟨.checkSearch path, .error errno⟩

namespace Session

/-- What is found out when a target leads from a directory to one that may be searched. -/
def findings (directory : Path) (target : String) (canonical : Path) : List Event :=
  [⟨.canonicalize (directory.join (.ofString target)), .ok canonical⟩, ⟨.examine canonical, .ok .directory⟩,
    ⟨.checkSearch canonical, .ok ()⟩]

/-- A line moves the session: it is a `cd` with one argument, which leads to a directory that may be searched. Nothing
else is looked at, and the line succeeds. -/
inductive Moves (s : Session) : Except ParseError ParsedLine → List Event → Session × Except Fault Flow → Prop
  | cd {p : ParsedLine} {target : String} {canonical : Path} {before after : List Event}
    (hcommand : p.command = .builtin ⟨.cd, [target]⟩) (hbefore : ∀ e ∈ before, e.request.purpose ≠ .looking)
    (hafter : ∀ e ∈ after, e.request.purpose ≠ .looking) :
    Moves s (.ok p) (before ++ findings s.directory target canonical ++ after)
      ({ s with directory := canonical, status := some .success }, .ok .continue)

/-- Why a line leaves the session where it is. -/
inductive Stays (line : String) (h : List Event) : Except ParseError ParsedLine → Except Fault Flow → Prop
  | blank {parsed : Except ParseError ParsedLine} {result : Except Fault Flow} (hblank : Blank line) :
    Stays line h parsed result
  | refused (e : ParseError) {result : Except Fault Flow} : Stays line h (.error e) result
  | external {p : ParsedLine} {plan : Plan} {result : Except Fault Flow} (hcommand : p.command = .external plan) :
    Stays line h (.ok p) result
  | otherBuiltin {p : ParsedLine} {i : Invocation} {result : Except Fault Flow} (hcommand : p.command = .builtin i)
    (hbuiltin : i.builtin ≠ .cd) : Stays line h (.ok p) result
  | wrongCount {p : ParsedLine} {args : List String} {result : Except Fault Flow}
    (hcommand : p.command = .builtin ⟨.cd, args⟩) (hcount : args.length ≠ 1) : Stays line h (.ok p) result
  | barred {parsed : Except ParseError ParsedLine} {result : Except Fault Flow} {e : Event} (he : e ∈ h)
    (hbars : e.Bars) : Stays line h parsed result
  | unshown {parsed : Except ParseError ParsedLine} (fault : Fault) : Stays line h parsed (.error fault)

/-! ### One line -/

section
variable {s : Session} {line : String} {parsed : Except ParseError ParsedLine} {h k : List Event}
  {r : Session × Except Fault Flow}

/-- A builtin that is carried out moves the session only as a `cd` that has found its target. -/
theorem builtin_moves_or_stays {p : ParsedLine} {i : Invocation} (hcommand : p.command = .builtin i)
    (hcourse : s.BuiltinCourse i h r) (hflush : ∀ fault, ⟨.flush .out, .error fault⟩ ∉ h)
    {before : List Event} (hbefore : ∀ e ∈ before, e.request.purpose ≠ .looking) :
    s.Moves (.ok p) (before ++ h) r ∨ r.1.directory = s.directory := by
  cases hcourse with
  | unwritten hinvoke hput => exact .inr rfl
  | unsaid hinvoke hput hsay => exact .inr rfl
  | unflushed fault hinvoke hput => exact absurd (by simp) (hflush fault)
  | @shown h k l output hinvoke hput hsay =>
    have hafter : ∀ e ∈ k ++ ⟨.flush .out, .ok ()⟩ :: l, e.request.purpose ≠ .looking :=
      List.forall_mem_append.mpr ⟨purpose_ne_of_for (for_put _ _) nofun hput,
        List.forall_mem_cons.mpr ⟨nofun, purpose_ne_of_for (for_complain _) nofun hsay⟩⟩
    -- Only here the directory that the builtin gives is taken over, and only `cd` gives one of its own.
    obtain ⟨b, args⟩ := i
    cases Builtin.trace_invoke hinvoke with
    | failed message hfails => exact .inr rfl
    | achieved hachieves =>
      cases hachieves with
      | cd =>
        rw [← List.append_assoc]
        exact .inl (.cd hcommand hbefore hafter)
      | pwd => exact .inr rfl
      | which => exact .inr rfl
      | exit => exact .inr rfl

theorem moves_or_stays (hcourse : s.LineCourse parsed h r) (hflush : ∀ fault, ⟨.flush .out, .error fault⟩ ∉ h)
    {before : List Event} (hbefore : ∀ e ∈ before, e.request.purpose ≠ .looking) :
    s.Moves parsed (before ++ h) r ∨ r.1.directory = s.directory := by
  cases hcourse with
  | refusedUnsaid hsay => exact .inr rfl
  | refused hsay => exact .inr rfl
  | undiagnosed hsay => exact .inr rfl
  | blank hcommand hsay => exact .inr rfl
  | builtin hcommand hsay hcourse =>
    rw [← List.append_assoc]
    exact builtin_moves_or_stays hcommand hcourse (fun fault he => hflush fault (List.mem_append_right _ he))
      (List.forall_mem_append.mpr ⟨hbefore, purpose_ne_of_for (for_complain _) nofun hsay⟩)
  | external hcommand hsay hcourse =>
    right
    cases hcourse with
    | unflushed fault => rfl
    | unsaid hrun hsay => rfl
    | shown hrun hsay => rfl

/-- Among what is found out nothing bars the way. -/
theorem not_bars_of_mem_findings {directory canonical : Path} {target : String} {e : Event}
    (he : e ∈ findings directory target canonical) : ¬e.Bars := by
  simp only [findings, List.mem_cons, List.not_mem_nil, or_false] at he
  rcases he with rfl | rfl | rfl
  · nofun
  · rintro (_ | _ | ⟨_, hkind⟩ | _)
    exact hkind rfl
  · nofun

theorem purpose_of_bars {e : Event} (hbars : e.Bars) : e.request.purpose = .looking := by
  cases hbars <;> rfl

/-- A line that moves the session has no reason to leave it where it is. -/
theorem Moves.not_stays (hmoves : s.Moves parsed h r) (hempty : ∀ p, parsed = .ok p → Blank line → p.command = .empty) :
    ¬Stays line h parsed r.2 := by
  cases hmoves with
  | cd hcommand hbefore hafter =>
    intro hstays
    cases hstays with
    | blank hblank => cases hcommand.symm.trans (hempty _ rfl hblank)
    | external hexternal => cases hcommand.symm.trans hexternal
    | otherBuiltin hother hbuiltin =>
      cases hcommand.symm.trans hother
      exact hbuiltin rfl
    | wrongCount hcd hcount =>
      cases hcommand.symm.trans hcd
      exact hcount rfl
    | barred he hbars =>
      -- All looking of the line is in the findings, where everything has been found.
      have hlooking := purpose_of_bars hbars
      simp only [List.mem_append] at he
      rcases he with (he | he) | he
      · exact hbefore _ he hlooking
      · exact not_bars_of_mem_findings he hbars
      · exact hafter _ he hlooking

theorem Moves.lastStatus_eq (hmoves : s.Moves parsed h r) : r.1.lastStatus = some 0 := by
  cases hmoves
  rfl

end

/-! ### Lines in a row -/

section
variable {σ : Type} (system : System σ)

/-- The session and the surroundings after some lines, each carried out whatever became of those before it. -/
def reached (s : Session) (t : σ) : List String → Session × σ
  | [] => (s, t)
  | line :: lines =>
    let (result, t) := (s.execute line).run system t
    reached result.1 t lines

variable {system}

/-- Where the session is moved to is a path that the surroundings call canonical. -/
theorem exists_canonical {s : Session} {parsed : Except ParseError ParsedLine} {r : Session × Except Fault Flow}
    {x : Action (Session × Except Fault Flow)} {t : σ} (hmoves : s.Moves parsed (x.history system t) r) :
    ∃ path u, (system.answer (.canonicalize path) u).1 = .ok r.1.directory := by
  generalize hh : x.history system t = h at hmoves
  cases hmoves with
  | @cd p target canonical before after hcommand hbefore hafter =>
    have he : ⟨.canonicalize (s.directory.join (.ofString target)), .ok canonical⟩ ∈ x.history system t := by
      rw [hh]
      simp [findings]
    obtain ⟨u, hu⟩ := exists_answer_of_mem_history system he
    exact ⟨_, u, hu.symm⟩

section
variable (hflush : ∀ t, (system.answer (.flush .out) t).1 = .ok ())
include hflush

theorem execute_moves_or_stays (s : Session) (line : String) (t : σ) :
    s.Moves ((parseIn line s.directory s.config.limits).run system t).1 ((s.execute line).history system t)
        ((s.execute line).run system t).1 ∨
      ((s.execute line).run system t).1.1.directory = s.directory := by
  obtain ⟨reading, carrying, hhistory, hreading, hcourse⟩ := exists_lineCourse system s line t
  have hflushed : ∀ fault, ⟨.flush .out, .error fault⟩ ∉ carrying := by
    intro fault he
    obtain ⟨u, hu⟩ := exists_answer_of_mem_history system (hhistory ▸ List.mem_append_right reading he)
    cases hu.trans (hflush u)
  rw [hhistory]
  exact moves_or_stays hcourse hflushed fun e he => hreading e he ▸ nofun

/-- What holds of the first working directory and of all canonical paths holds of every working directory. -/
theorem directory_reached_of {P : Path → Prop}
    (hcanonical : ∀ path t canonical, (system.answer (.canonicalize path) t).1 = .ok canonical → P canonical)
    {s : Session} (hs : P s.directory) (lines : List String) (t : σ) : P (reached system s t lines).1.directory := by
  induction lines generalizing s t with
  | nil => exact hs
  | cons line lines ih =>
    rw [reached]
    refine ih ?_ _
    rcases execute_moves_or_stays hflush s line t with hmoves | hstays
    · obtain ⟨path, u, hu⟩ := exists_canonical hmoves
      exact hcanonical path u _ hu
    · rw [hstays]
      exact hs

end

/-- In a session that starts in an absolute directory, the working directory is absolute after any lines. The next line
changes it only by moving the session, and no line does that which has a reason to leave it where it is. -/
theorem directory_changes_by_cd
    (hcanonical : ∀ path t canonical, (system.answer (.canonicalize path) t).1 = .ok canonical →
      canonical.isAbsolute = true)
    (hflush : ∀ t, (system.answer (.flush .out) t).1 = .ok ()) {s : Session} (hs : s.directory.isAbsolute = true)
    (lines : List String) (t : σ) :
    let now := (reached system s t lines).1
    let around := (reached system s t lines).2
    now.directory.isAbsolute = true ∧ ∀ line : String,
      let parsed := ((parseIn line now.directory now.config.limits).run system around).1
      let h := (now.execute line).history system around
      let r := ((now.execute line).run system around).1
      (r.1.directory ≠ now.directory → now.Moves parsed h r ∧ r.1.lastStatus = some 0) ∧
        (Stays line h parsed r.2 → r.1.directory = now.directory) := by
  dsimp only
  refine ⟨directory_reached_of hflush hcanonical hs lines t, fun line => ?_⟩
  rcases execute_moves_or_stays hflush (reached system s t lines).1 line (reached system s t lines).2 with
    hmoves | hsame
  · refine ⟨fun _ => ⟨hmoves, ?_⟩, fun hstays => absurd hstays (hmoves.not_stays fun p hp => ?_)⟩
    · exact hmoves.lastStatus_eq
    · exact (command_eq_empty_iff hp).mpr
  · exact ⟨fun hne => absurd hsame hne, fun _ => hsame⟩

/-- A move to a directory that may be searched, from a line with a second stage that is called like one. -/
theorem directory_changes_by_cd_twice :
    let system : System Unit := {
      answer := fun r t => (match r with
        | .canonicalize path => if path.isAbsolute then .ok path else .error (.os .enoent)
        | .examine _ => .ok .directory
        | .checkSearch _ => .ok ()
        | r => (Machine.system.answer r { tree := {} }).1, t) }
    let config : Config := { logDirectory := ⟨[]⟩ }
    let now : Session := { config, directory := .ofString "/lib", status := some .success }
    let r := ((now.execute "cd sub | cd").run system ()).1
    (∀ path t canonical, (system.answer (.canonicalize path) t).1 = .ok canonical → canonical.isAbsolute = true) ∧
      (∀ t, (system.answer (.flush .out) t).1 = .ok ()) ∧ (Path.ofString "/").isAbsolute = true ∧
      reached system { config, directory := .ofString "/" } () ["cd lib"] = (now, ()) ∧
      now.directory.isAbsolute = true ∧ r.1.directory = .ofString "/lib/sub" ∧ r.1.lastStatus = some 0 := by
  intro system config now r
  have hcanonical : ∀ path t canonical, (system.answer (.canonicalize path) t).1 = .ok canonical →
      canonical.isAbsolute = true := by
    intro path t canonical h
    simp only [system] at h
    split at h
    · cases h
      assumption
    · cases h
  have hflush : ∀ t, (system.answer (.flush .out) t).1 = .ok () := fun t => rfl
  have hs : (Path.ofString "/").isAbsolute = true := by decide
  have hnow : reached system { config, directory := .ofString "/" } () ["cd lib"] = (now, ()) := by decide +kernel
  have hmoved : r.1.directory = .ofString "/lib/sub" := by decide +kernel
  have hrun := directory_changes_by_cd hcanonical hflush (s := { config, directory := .ofString "/" }) hs
    ["cd lib"] ()
  rw [hnow] at hrun
  obtain ⟨habsolute, hline⟩ := hrun
  have hne : r.1.directory ≠ now.directory := by
    rw [hmoved]
    decide
  have hstatus : r.1.lastStatus = some 0 := ((hline "cd sub | cd").1 hne).2
  exact ⟨hcanonical, hflush, hs, hnow, habsolute, hmoved, hstatus⟩

end

end Session
end LineShell
