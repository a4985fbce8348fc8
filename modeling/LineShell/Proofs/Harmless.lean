import LineShell.Machine.System
import LineShell.Proofs.Carrying
import LineShell.Proofs.Reading

/-!
Lines that start no program. A line that is blank, is refused or calls a builtin only looks at what is there and
shows something on the session's own streams, whatever redirects and stages stand on it. What looking and showing do
not change, such as the files, is after such a line what it was before. A refused line shows one message and
nothing else.
-/

namespace LineShell
open LineShell.Action

/-- The request looks at something, or shows something on one of the session's own streams. -/
inductive Request.Harmless : Request → Prop
  | listDirectory (directory : Path) : Harmless (.listDirectory directory)
  | canonicalize (path : Path) : Harmless (.canonicalize path)
  | examine (path : Path) : Harmless (.examine path)
  | checkSearch (directory : Path) : Harmless (.checkSearch directory)
  | write (channel : Channel) (bytes : Bytes) : Harmless (.write channel bytes)
  | flush (channel : Channel) : Harmless (.flush channel)

/-- A line that starts no program, with what it is read as: it is blank, or refused, or it calls a builtin. -/
inductive StartsNothing (line : String) : Except ParseError ParsedLine → Prop
  | blank {parsed : Except ParseError ParsedLine} (hblank : Blank line) : StartsNothing line parsed
  | refused (e : ParseError) : StartsNothing line (.error e)
  | builtin {p : ParsedLine} {i : Invocation} (hcommand : p.command = .builtin i) : StartsNothing line (.ok p)

theorem harmless_of_purpose {r : Request}
    (hpurpose : r.purpose = .listing ∨ r.purpose = .looking ∨ r.purpose = .showing) : r.Harmless := by
  cases r with
  | listDirectory directory => exact .listDirectory directory
  | canonicalize path => exact .canonicalize path
  | examine path => exact .examine path
  | checkSearch directory => exact .checkSearch directory
  | write channel bytes => exact .write channel bytes
  | flush channel => exact .flush channel
  | _ => simp [Request.purpose] at hpurpose

/-- All that is asked for is harmless. -/
def AllHarmless (h : List Event) : Prop := ∀ e ∈ h, e.request.Harmless

theorem AllHarmless.append {h k : List Event} (hh : AllHarmless h) (hk : AllHarmless k) : AllHarmless (h ++ k) :=
  List.forall_mem_append.mpr ⟨hh, hk⟩

namespace Session

variable {s : Session} {parsed : Except ParseError ParsedLine} {h : List Event} {r : Session × Except Fault Flow}

/-! ### Lines -/

theorem allHarmless_complain {messages : List String} {said : Except Fault Unit}
    (hsay : Trace (complain messages) h said) : AllHarmless h :=
  fun e he => harmless_of_purpose (.inr (.inr ((for_complain _).trace hsay e he)))

theorem allHarmless_builtin {i : Invocation} (hcourse : s.BuiltinCourse i h r) : AllHarmless h :=
  fun e he => harmless_of_purpose (.inr (purpose_builtin hcourse e he))

/-- Only a line that asks for a plan may do more. -/
theorem allHarmless_line (hcourse : s.LineCourse parsed h r)
    (hplan : ∀ p plan, parsed = .ok p → p.command ≠ .external plan) : AllHarmless h := by
  cases hcourse with
  | refusedUnsaid hsay | refused hsay | undiagnosed hsay => exact allHarmless_complain hsay
  | blank hcommand hsay => exact allHarmless_complain hsay
  | builtin hcommand hsay hcourse => exact (allHarmless_complain hsay).append (allHarmless_builtin hcourse)
  | external hcommand hsay hcourse => exact absurd hcommand (hplan _ _ rfl)

/-- A refused line shows its message, and nothing else happens. -/
theorem refused_line {e : ParseError} (hcourse : s.LineCourse (.error e) h r) (hshown : ∀ ev ∈ h, ev.fault? = none) :
    h = [⟨.write .err (report e.message), .ok ()⟩] ∧ r = ({ s with status := some .syntaxError }, .ok .continue) := by
  cases hcourse with
  | refusedUnsaid hsay =>
    obtain ⟨ev, hev, hfault⟩ := (stopsAtFault_complain hsay).exists_fault
    cases hfault.symm.trans (hshown ev hev)
  | refused hsay =>
    refine ⟨?_, rfl⟩
    rcases trace_complain_cons hsay with ⟨fault, -, hok⟩ | ⟨rest, rfl, hrest⟩
    · cases hok
    · obtain ⟨rfl, -⟩ := trace_pure.mp hrest
      rfl

end Session

/-! ### What is left as it was -/

/-- What none of the requests changes that an action makes in a run, the run does not change. -/
theorem Action.view_run {σ φ α : Type} {system : System σ} {P : Request → Prop} (view : σ → φ)
    (hkeep : ∀ r u, P r → view (system.answer r u).2 = view u) {x : Action α} {t : σ}
    (h : ∀ e ∈ x.history system t, P e.request) : view (x.run system t).2 = view t := by
  induction x generalizing t with
  | done a => rfl
  | ask r next ih =>
    obtain ⟨hr, hrest⟩ := List.forall_mem_cons.mp h
    exact (ih _ hrest).trans (hkeep r t hr)

/-- Looking and showing leave the files of a machine as they are. -/
theorem Machine.tree_answer {r : Request} (h : r.Harmless) (m : Machine) : (system.answer r m).2.tree = m.tree := by
  cases h with
  | write channel bytes =>
    simp only [system, answer, writeOwn]
    split
    · rfl
    · split <;> rfl
  | _ => rfl

namespace Session

/-- A line that starts no program only looks and shows, so it leaves everything as it was that looking and showing do
not change. If it is refused, all that happens, the looking aside, is that its error is shown and becomes the
status. -/
theorem execute_harmless {σ : Type} (system : System σ) (s : Session) (line : String) (t : σ)
    (hnothing : StartsNothing line ((parseIn line s.directory s.config.limits).run system t).1) :
    let x := s.execute line
    let parsed := ((parseIn line s.directory s.config.limits).run system t).1
    (∀ e ∈ x.history system t, e.request.Harmless) ∧
      (∀ (φ : Type) (view : σ → φ), (∀ r u, r.Harmless → view (system.answer r u).2 = view u) →
        view (x.run system t).2 = view t) ∧
      ∀ e, parsed = .error e → (∀ ev ∈ x.history system t, ev.fault? = none) →
        (x.run system t).1 = ({ s with status := some .syntaxError }, .ok .continue) ∧
        (x.run system t).1.1.lastStatus = some 2 ∧
        ∃ looking, x.history system t =
            looking ++ [⟨.write .err (Utf8.encode ("mysh: " ++ e.message ++ "\n")), .ok ()⟩] ∧
          ∀ ev ∈ looking, ev.request.purpose = .listing := by
  dsimp only
  obtain ⟨reading, carrying, hhistory, hreading, hcourse⟩ := exists_lineCourse system s line t
  -- Blank lines are read as nothing, so none of the three kinds of lines asks for a plan.
  have hplan : ∀ p plan, ((parseIn line s.directory s.config.limits).run system t).1 = .ok p →
      p.command ≠ .external plan := by
    intro p plan hp hexternal
    rw [hp] at hnothing
    cases hnothing with
    | blank hblank => cases hexternal.symm.trans ((command_eq_empty_iff hp).mpr hblank)
    | builtin hcommand => cases hexternal.symm.trans hcommand
  have hharmless : AllHarmless ((s.execute line).history system t) := by
    rw [hhistory]
    exact AllHarmless.append (fun e he => harmless_of_purpose (.inl (hreading e he))) (allHarmless_line hcourse hplan)
  refine ⟨hharmless, fun φ view hkeep => Action.view_run view hkeep hharmless, fun e he hshown => ?_⟩
  rw [he] at hcourse
  obtain ⟨rfl, hresult⟩ := refused_line hcourse fun ev hev => hshown ev (hhistory ▸ List.mem_append_right _ hev)
  rw [hresult]
  exact ⟨rfl, rfl, reading, hhistory, hreading⟩

/-- A target is missing at the end of a line whose first stage could be launched. -/
theorem execute_harmless_refused :
    let s : Session := { config := { logDirectory := ⟨[]⟩ }, directory := ⟨[Path.slash]⟩ }
    let m : Machine := { tree := ({} : Machine.FileTree).setFile [Utf8.encode "notes"] { mode := 0o644, data := [] } }
    let x := s.execute "sort > notes | cat >"
    let e : ParseError := .missingRedirectTarget .output
    StartsNothing "sort > notes | cat >"
        ((parseIn "sort > notes | cat >" s.directory s.config.limits).run Machine.system m).1 ∧
      ((parseIn "sort > notes | cat >" s.directory s.config.limits).run Machine.system m).1 = .error e ∧
      (∀ ev ∈ x.history Machine.system m, ev.fault? = none) ∧
      (x.run Machine.system m).2.tree = m.tree ∧
      (x.run Machine.system m).1 = ({ s with status := some .syntaxError }, .ok .continue) ∧
      ∃ looking, x.history Machine.system m =
        looking ++ [⟨.write .err (Utf8.encode "mysh: syntax error: `>` needs a file name\n"), .ok ()⟩] := by
  intro s m x e
  have hrefused : ((parseIn "sort > notes | cat >" s.directory s.config.limits).run Machine.system m).1 =
      .error e := by rfl
  have hshown : ∀ ev ∈ x.history Machine.system m, ev.fault? = none := by decide +kernel
  have hnothing : StartsNothing "sort > notes | cat >"
      ((parseIn "sort > notes | cat >" s.directory s.config.limits).run Machine.system m).1 :=
    hrefused ▸ .refused e
  obtain ⟨-, hview, hrest⟩ := execute_harmless Machine.system s "sort > notes | cat >" m hnothing
  obtain ⟨hresult, -, looking, hhistory, -⟩ := hrest e hrefused hshown
  have htree := hview _ Machine.tree fun r u hr => Machine.tree_answer hr u
  exact ⟨hnothing, hrefused, hshown, htree, hresult, looking, hhistory⟩

end Session
end LineShell
