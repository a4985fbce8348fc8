import LineShell.Proofs.Carrying
import LineShell.Proofs.Reading
import LineShell.Proofs.Script

/-!
How a line is concluded. Whatever the answers are, a line whose output can be written and flushed does not fail. It ends
the session only if it is accepted and calls for the exit, and it leaves the status that belongs to what it was
read as and to what became of that.
-/

namespace LineShell
open LineShell.Action

/-- The exit cannot fail, and nothing else ends the session. -/
theorem Builtin.flow_eq_exit_iff {b : Builtin} {directory : Path} {args : List String} {h : List Event}
    {r : BuiltinOutput × Path} (hinvoke : Trace (b.invoke directory args) h r) : r.1.flow = .exit ↔ b = .exit := by
  cases trace_invoke hinvoke with
  | achieved hachieves =>
    cases hachieves with
    | exit => exact iff_of_true rfl rfl
    | _ => exact iff_of_false nofun nofun
  | failed message hfails =>
    refine iff_of_false nofun ?_
    rintro rfl
    -- It takes any number of arguments and asks for nothing.
    obtain ⟨rfl, -⟩ := trace_pure.mp hinvoke
    exact hfails _ .exit

theorem Builtin.code_of_achieves {b : Builtin} {directory : Path} {args : List String} {h : List Event}
    {r : BuiltinOutput × Path} (hachieves : Achieves directory b args h r) : r.1.status.code = 0 := by
  cases hachieves <;> rfl

namespace Session

/-- The numbers that a line leaves: that of a line that is refused, none of its own if it is blank, whether the
builtin that it calls has achieved what it is for, or the number of its plan. -/
inductive Leaves (s : Session) (h : List Event) : Except ParseError ParsedLine → Option Nat → Prop
  | refused (e : ParseError) : Leaves s h (.error e) (some 2)
  | blank {p : ParsedLine} (hcommand : p.command = .empty) : Leaves s h (.ok p) s.lastStatus
  | achieved {p : ParsedLine} {i : Invocation} {k : List Event} {r : BuiltinOutput × Path}
    (hcommand : p.command = .builtin i) (hpart : k <:+: h) (hinvoke : Trace (i.builtin.invoke s.directory i.args) k r)
    (hachieves : i.builtin.Achieves s.directory i.args k r) : Leaves s h (.ok p) (some 0)
  | failed {p : ParsedLine} {i : Invocation} {k : List Event} {r : BuiltinOutput × Path}
    (hcommand : p.command = .builtin i) (hpart : k <:+: h) (hinvoke : Trace (i.builtin.invoke s.directory i.args) k r)
    (hfails : ∀ r, ¬i.builtin.Achieves s.directory i.args k r) : Leaves s h (.ok p) (some 1)
  | external {p : ParsedLine} {plan : Plan} {k : List Event} {o : Outcome} (hcommand : p.command = .external plan)
    (hpart : k <:+: h) (hrun : Trace (plan.run s.directory) k o) : Leaves s h (.ok p) (some o.status.code)

variable {s : Session} {h : List Event} {parsed : Except ParseError ParsedLine} {r : Session × Except Fault Flow}
  {flow : Flow}

theorem leaves_builtin {i : Invocation} {p : ParsedLine} {before : List Event} (hcourse : s.BuiltinCourse i h r)
    (hok : r.2 = .ok flow) (hcommand : p.command = .builtin i) : s.Leaves (before ++ h) (.ok p) r.1.lastStatus := by
  cases hcourse with
  | @shown h k l output hinvoke hput hsay =>
    have hpart : h <:+: before ++ (h ++ (k ++ ⟨.flush .out, .ok ()⟩ :: l)) := by
      rw [← List.append_assoc]
      exact List.infix_append ..
    cases Builtin.trace_invoke hinvoke with
    | achieved hachieves =>
      rw [lastStatus, Option.map_some, Builtin.code_of_achieves hachieves]
      exact .achieved hcommand hpart hinvoke hachieves
    | failed message hfails => exact .failed hcommand hpart hinvoke hfails
  | _ => cases hok

theorem leaves_plan {plan : Plan} {p : ParsedLine} {before : List Event} (hcourse : s.PlanCourse plan h r)
    (hok : r.2 = .ok flow) (hcommand : p.command = .external plan) : s.Leaves (before ++ h) (.ok p) r.1.lastStatus := by
  cases hcourse with
  | @shown h k o hrun hsay =>
    have hpart : h <:+: before ++ ⟨.flush .out, .ok ()⟩ :: (h ++ k) := by
      rw [List.append_cons, ← List.append_assoc]
      exact List.infix_append ..
    exact .external hcommand hpart hrun
  | _ => cases hok

theorem leaves_line {before : List Event} (hcourse : s.LineCourse parsed h r) (hok : r.2 = .ok flow) :
    s.Leaves (before ++ h) parsed r.1.lastStatus := by
  cases hcourse with
  | refused hsay => exact .refused _
  | blank hcommand hsay => exact .blank hcommand
  | builtin hcommand hsay hcourse =>
    rw [← List.append_assoc]
    exact leaves_builtin hcourse hok hcommand
  | external hcommand hsay hcourse =>
    rw [← List.append_assoc]
    exact leaves_plan hcourse hok hcommand
  | _ => cases hok

theorem flow_builtin {i : Invocation} (hcourse : s.BuiltinCourse i h r) (hok : r.2 = .ok flow) :
    flow = .exit ↔ i.builtin = .exit := by
  cases hcourse with
  | shown hinvoke hput hsay =>
    cases hok
    exact Builtin.flow_eq_exit_iff hinvoke
  | _ => cases hok

theorem flow_plan {plan : Plan} (hcourse : s.PlanCourse plan h r) (hok : r.2 = .ok flow) : flow = .continue := by
  cases hcourse with
  | shown hrun hsay =>
    cases hok
    rfl
  | _ => cases hok

theorem flow_line (hcourse : s.LineCourse parsed h r) (hok : r.2 = .ok flow) :
    flow = .exit ↔ ∃ p, parsed = .ok p ∧ ∃ args, p.command = .builtin ⟨.exit, args⟩ := by
  cases hcourse with
  | refused hsay =>
    cases hok
    exact iff_of_false nofun (by simp)
  | blank hcommand hsay =>
    cases hok
    exact iff_of_false nofun (by simp [hcommand])
  | @builtin p i _ _ _ hcommand hsay hcourse =>
    obtain ⟨b, args⟩ := i
    simp [flow_builtin hcourse hok, hcommand]
  | external hcommand hsay hcourse => simp [flow_plan hcourse hok, hcommand]
  | _ => cases hok

/-- Unless its output cannot be shown, a line does not fail. It ends the session just if it is accepted and the first
argument of its first stage is the exit, and it leaves the number that belongs to it. -/
theorem execute_concludes {σ : Type} (system : System σ) (s : Session) (line : String) (t : σ)
    (hshown : ∀ e ∈ (s.execute line).history system t, e.fault? = none) :
    let limits := s.config.limits
    let parsed := ((parseIn line s.directory limits).run system t).1
    let result := ((s.execute line).run system t).1
    ∃ flow, result.2 = .ok flow ∧
      (flow = .exit ↔ (∃ p, parsed = .ok p) ∧
        ∃ d, ((Parse.draftIn line s.directory limits).run system t).1 = .ok d ∧ d.first.args.head? = some "exit") ∧
      (∀ p, parsed = .ok p → (p.command = .empty ↔ Blank line)) ∧
      s.Leaves ((s.execute line).history system t) parsed result.1.lastStatus := by
  intro limits parsed result
  obtain ⟨flow, hok⟩ : ∃ flow, result.2 = .ok flow := by
    have hstops : StopsAtFault _ result.2 := stopsAtFault_execute (trace_run system (s.execute line) t)
    cases hresult : result.2 with
    | ok flow => exact ⟨flow, rfl⟩
    | error fault =>
      obtain ⟨e, he, hfault⟩ := (hresult ▸ hstops).exists_fault
      cases hfault.symm.trans (hshown e he)
  obtain ⟨reading, carrying, hhistory, -, hcourse⟩ := exists_lineCourse system s line t
  refine ⟨flow, hok, ?_, fun p hp => command_eq_empty_iff hp, ?_⟩
  · rw [flow_line hcourse hok]
    constructor
    · rintro ⟨p, hp, hexit⟩
      exact ⟨⟨p, hp⟩, (command_eq_builtin_iff (b := .exit) hp).mp hexit⟩
    · rintro ⟨⟨p, hp⟩, hdraft⟩
      exact ⟨p, hp, (command_eq_builtin_iff (b := .exit) hp).mpr hdraft⟩
  · rw [hhistory]
    exact leaves_line hcourse hok

theorem execute_concludes_exit :
    let s : Session := { config := { logDirectory := ⟨[]⟩ }, directory := ⟨[Path.slash]⟩ }
    let m : Machine := { tree := { entries := [] } }
    let result := ((s.execute "exit now").run Machine.system m).1
    (∀ e ∈ (s.execute "exit now").history Machine.system m, e.fault? = none) ∧ result.2 = .ok .exit ∧
      s.Leaves ((s.execute "exit now").history Machine.system m) (.ok ⟨.builtin ⟨.exit, ["now"]⟩, []⟩)
        result.1.lastStatus := by
  intro s m result
  have hshown : ∀ e ∈ (s.execute "exit now").history Machine.system m, e.fault? = none := by decide +kernel
  have hparsed : ((parseIn "exit now" s.directory s.config.limits).run Machine.system m).1 =
      .ok ⟨.builtin ⟨.exit, ["now"]⟩, []⟩ := by rfl
  have hdraft : ((Parse.draftIn "exit now" s.directory s.config.limits).run Machine.system m).1 =
      .ok { first := { args := ["exit", "now"] } } := by rfl
  obtain ⟨flow, hok, hexit, -, hleaves⟩ := execute_concludes Machine.system s "exit now" m hshown
  obtain rfl : flow = .exit := hexit.mpr ⟨⟨_, hparsed⟩, _, hdraft, rfl⟩
  rw [hparsed] at hleaves
  exact ⟨hshown, hok, hleaves⟩

/-! ### Lines in a row -/

/-- However often a line goes wrong, a session fails only for a fault of its own streams, which is the last thing that
happens. -/
theorem stopsAtFault_executeAll {lines : List String} (htrace : Trace (s.executeAll lines) h r) :
    StopsAtFault h r.2 := by
  induction lines generalizing s h with
  | nil =>
    obtain ⟨rfl, rfl⟩ := trace_pure.mp htrace
    exact .fine _ (by simp)
  | cons line lines ih =>
    obtain ⟨h₁, ⟨s', result⟩, h₂, hline, hrest, rfl⟩ := trace_bind.mp htrace
    have hstops := stopsAtFault_execute hline
    obtain fault | _ | _ := result
    · obtain ⟨rfl, rfl⟩ := trace_pure.mp hrest
      rwa [List.append_nil]
    · exact (ih hrest).behind hstops.fine_of_ok
    · obtain ⟨rfl, rfl⟩ := trace_pure.mp hrest
      rwa [List.append_nil]

end Session
end LineShell
