import LineShell.Machine.System
import LineShell.Proofs.Carrying
import LineShell.Proofs.Descriptors

/-!
A session whose own streams are closed. Beside a system on which the shell can write to both of its streams stands
one on which it can write nothing to some of them; in everything else the two are the same. A line is carried out
on both in the same way until something is to be written to a closed stream. There it stops, with the session as
it was before the line.
-/

namespace LineShell
open LineShell.Action

variable {σ α : Type}

/-- The request is to write something to a closed stream. -/
def Blocked (closed : Channel → Prop) (r : Request) : Prop :=
  ∃ channel bytes, r = .write channel bytes ∧ closed channel ∧ bytes ≠ []

/-- On `whole` the shell can write to its own streams; `broken` is the same system, but for the streams that are
closed on it. -/
structure Breaks (whole broken : System σ) (closed : Channel → Prop) : Prop where
  write : ∀ channel bytes t, (whole.answer (.write channel bytes) t).1 = .ok ()
  flush : ∀ channel t, (whole.answer (.flush channel) t).1 = .ok ()
  blocked : ∀ channel bytes t, closed channel → bytes ≠ [] →
    ∃ fault, (broken.answer (.write channel bytes) t).1 = .error fault
  same : ∀ r t, ¬Blocked closed r → broken.answer r t = whole.answer r t

/-- The system with some streams closed: what is written to them is refused, and nothing else changes. -/
def System.closing (system : System σ) (closed : Channel → Bool) : System σ where
  answer
    | .write channel bytes, t =>
      if closed channel ∧ bytes ≠ [] then (.error (.os .epipe), t) else system.answer (.write channel bytes) t
    | r, t => system.answer r t

theorem breaks_closing {system : System σ} (closed : Channel → Bool)
    (hwrite : ∀ channel bytes t, (system.answer (.write channel bytes) t).1 = .ok ())
    (hflush : ∀ channel t, (system.answer (.flush channel) t).1 = .ok ()) :
    Breaks system (system.closing closed) fun channel => closed channel = true where
  write := hwrite
  flush := hflush
  blocked channel bytes t hclosed hne := ⟨.os .epipe, by simp [System.closing, hclosed, hne]⟩
  same r t hopen := by
    cases r with
    | write channel bytes =>
      have hcondition : ¬(closed channel = true ∧ bytes ≠ []) := fun h => hopen ⟨channel, bytes, rfl, h⟩
      simp only [System.closing, if_neg hcondition]
    | _ => rfl

/-- A machine of which no stream is closed takes all that is written. -/
theorem Machine.write_of_open {m : Machine} (hopen : m.closed = []) (channel : Channel) (bytes : Bytes) :
    (system.answer (.write channel bytes) m).1 = .ok () := by
  by_cases hbytes : bytes = [] <;> simp [system, answer, writeOwn, hopen, hbytes]

namespace Breaks

variable {whole broken : System σ} {closed : Channel → Prop} (hbreaks : Breaks whole broken closed)
  {x : Action α} {t : σ} {e : Event}
include hbreaks

/-! ### Runs on the two systems -/

/-- A run is the same on both systems, or it is the same up to a write that fails. -/
theorem history_cases (x : Action α) (t : σ) :
    ((∀ e ∈ x.history whole t, ¬Blocked closed e.request) ∧ x.run broken t = x.run whole t ∧
        x.history broken t = x.history whole t) ∨
      ∃ before channel bytes fault rest, closed channel ∧ bytes ≠ [] ∧
        before ++ [⟨.write channel bytes, .ok ()⟩] <+: x.history whole t ∧
        x.history broken t = before ++ ⟨.write channel bytes, .error fault⟩ :: rest := by
  induction x generalizing t with
  | done a => exact .inl ⟨by simp [history], rfl, rfl⟩
  | ask r next ih =>
    by_cases hblocked : Blocked closed r
    · -- From here on the two runs have nothing to do with each other.
      obtain ⟨channel, bytes, rfl, hclosed, hne⟩ := hblocked
      obtain ⟨fault, hfault⟩ := hbreaks.blocked channel bytes t hclosed hne
      have hhistory : (Action.ask (.write channel bytes) next).history broken t =
          ⟨.write channel bytes, .error fault⟩ ::
            (next (.error fault)).history broken (broken.answer (.write channel bytes) t).2 := by
        simp only [history, hfault]
      refine .inr ⟨[], channel, bytes, fault, _, hclosed, hne, ?_, hhistory⟩
      simp [history, hbreaks.write]
    · have hsame := hbreaks.same r t hblocked
      rcases ih (whole.answer r t).1 (whole.answer r t).2 with ⟨hclear, hrun, hhistory⟩ |
        ⟨before, channel, bytes, fault, rest, hclosed, hne, hfront, hhistory⟩
      · refine .inl ⟨List.forall_mem_cons.mpr ⟨hblocked, hclear⟩, ?_, ?_⟩
        · simp only [run, hsame, hrun]
        · simp only [history, hsame, hhistory]
      · refine .inr ⟨⟨r, (whole.answer r t).1⟩ :: before, channel, bytes, fault, rest, hclosed, hne, ?_, ?_⟩
        · simpa [history] using hfront
        · simp only [history, hsame, hhistory, List.cons_append]

/-- An action that shows nothing runs in the same way on both systems. -/
theorem run_eq_of_for {p : Purpose} (hx : x.For p) (hp : p ≠ .showing) : x.run broken t = x.run whole t := by
  rcases hbreaks.history_cases x t with ⟨-, hrun, -⟩ | ⟨before, channel, bytes, -, -, -, -, hfront, -⟩
  · exact hrun
  · have hpurpose := hx.trace (trace_run whole x t) ⟨.write channel bytes, .ok ()⟩ (hfront.subset (by simp))
    exact absurd hpurpose.symm hp

theorem error_of_closed {channel : Channel} {bytes : Bytes} {answer : Except Fault Unit}
    (he : ⟨.write channel bytes, answer⟩ ∈ x.history broken t) (hclosed : closed channel) (hne : bytes ≠ []) :
    ∃ fault, answer = .error fault := by
  obtain ⟨u, hu⟩ := exists_answer_of_mem_history broken he
  obtain ⟨fault, hfault⟩ := hbreaks.blocked channel bytes u hclosed hne
  exact ⟨fault, hu.trans hfault⟩

theorem ok_of_flush {channel : Channel} {answer : Except Fault Unit}
    (he : ⟨.flush channel, answer⟩ ∈ x.history broken t) : answer = .ok () := by
  obtain ⟨u, hu⟩ := exists_answer_of_mem_history broken he
  have hopen : ¬Blocked closed (.flush channel) := by
    rintro ⟨_, _, ⟨⟩, _⟩
  rw [hbreaks.same _ u hopen] at hu
  exact hu.trans (hbreaks.flush channel u)

/-- Nothing can be complained of on a closed stream. -/
theorem complain_fails {messages : List String} {h : List Event} {r : Except Fault Unit} (hclosed : closed .err)
    (hmessages : messages ≠ []) (htrace : Trace (Session.complain messages) h r)
    (hsub : ∀ e ∈ h, e ∈ x.history broken t) : ∃ fault, r = .error fault := by
  obtain ⟨message, messages, rfl⟩ := List.exists_cons_of_ne_nil hmessages
  rcases Session.trace_complain_cons htrace with ⟨fault, -, rfl⟩ | ⟨k, rfl, -⟩
  · exact ⟨fault, rfl⟩
  · obtain ⟨fault, hfault⟩ :=
      hbreaks.error_of_closed (hsub _ List.mem_cons_self) hclosed (Session.report_ne_nil message)
    cases hfault

end Breaks

/-! ### Launching and waiting -/

/-- Nothing has been launched: no redirect opened, no pipe made and no program started. -/
def Early (h : List Event) : Prop := ∀ e ∈ h, e.request.purpose ≠ .launching

/-- Each child that was started has been waited for, once and in order. -/
def WaitsForAll (h : List Event) : Prop :=
  (h.filter (·.request.isWait)).map Event.request = (children h).map Request.wait

section
variable {h k : List Event}

theorem Early.append (hh : Early h) (hk : Early k) : Early (h ++ k) := List.forall_mem_append.mpr ⟨hh, hk⟩

theorem Early.flush {channel : Channel} {answer : Except Fault Unit} (hk : Early k) :
    Early (⟨.flush channel, answer⟩ :: k) := by
  intro e he
  rcases List.mem_cons.mp he with rfl | he
  · exact nofun
  · exact hk e he

theorem early_nil : Early [] := by simp [Early]

theorem aside_of_purpose {e : Event} (h : e.request.purpose ≠ .launching) : e.Aside := by
  obtain ⟨request, answer⟩ := e
  cases request <;> first | exact ⟨rfl, rfl⟩ | exact absurd rfl h

theorem WaitsForAll.append (hh : WaitsForAll h) (hk : WaitsForAll k) : WaitsForAll (h ++ k) := by
  rw [WaitsForAll, List.filter_append, List.map_append, children_append, List.map_append, hh, hk]

theorem Early.waitsForAll (hearly : Early h) : WaitsForAll h := by
  have hwait : h.filter (·.request.isWait) = [] :=
    List.filter_eq_nil_iff.mpr fun e he => by simp [(aside_of_purpose (hearly e he)).2]
  rw [WaitsForAll, hwait, children_aside fun e he => aside_of_purpose (hearly e he)]
  rfl

theorem waitsForAll_plan {p : Plan} {directory : Path} {o : Outcome} (hrun : Trace (p.run directory) h o) :
    WaitsForAll h := by
  obtain ⟨launching, waiting, rfl, hcourse⟩ := Plan.trace_run_plan hrun
  have hrequests := Plan.requests_course hcourse
  have hwaits : ∀ e ∈ waiting, ∃ child, e.request = .wait child := by
    intro e he
    have hmem : e.request ∈ (children launching).map Request.wait := hrequests ▸ List.mem_map_of_mem he
    obtain ⟨child, -, hchild⟩ := List.mem_map.mp hmem
    exact ⟨child, hchild.symm⟩
  have hlaunching : launching.filter (·.request.isWait) = [] :=
    List.filter_eq_nil_iff.mpr fun e he => by simp [Plan.noWait_course hcourse e he]
  have hwaiting : waiting.filter (·.request.isWait) = waiting := by
    refine List.filter_eq_self.mpr fun e he => ?_
    obtain ⟨child, hchild⟩ := hwaits e he
    rw [hchild]
    rfl
  have hnone : children waiting = [] := by
    refine List.filterMap_eq_nil_iff.mpr ?_
    rintro ⟨request, answer⟩ he
    obtain ⟨child, rfl⟩ := hwaits _ he
    rfl
  rw [WaitsForAll, List.filter_append, hlaunching, hwaiting, children_append, hnone, List.append_nil]
  exact hrequests

end

namespace Session

/-! ### Lines that stop -/

/-- Where a line stops that cannot be shown: nothing has been launched yet, or a plan is over and its failures
are still to be told. -/
inductive Stopped (s : Session) (parsed : Except ParseError ParsedLine) : List Event → Prop
  | early {h : List Event} (hearly : Early h) : Stopped s parsed h
  | late {p : ParsedLine} {plan : Plan} {before h after : List Event} {o : Outcome} (hparsed : parsed = .ok p)
    (hcommand : p.command = .external plan) (hbefore : Early before) (hrun : Trace (plan.run s.directory) h o)
    (hfailures : o.failures ≠ []) (hafter : Early after) : Stopped s parsed (before ++ h ++ after)

variable {s : Session} {parsed : Except ParseError ParsedLine} {h k : List Event} {r : Session × Except Fault Flow}

theorem Stopped.waitsForAll (hstopped : s.Stopped parsed h) : WaitsForAll h := by
  cases hstopped with
  | early hearly => exact hearly.waitsForAll
  | late hparsed hcommand hbefore hrun hfailures hafter =>
    exact (hbefore.waitsForAll.append (waitsForAll_plan hrun)).append hafter.waitsForAll

theorem Stopped.behind (hk : Early k) (hstopped : s.Stopped parsed h) : s.Stopped parsed (k ++ h) := by
  cases hstopped with
  | early hearly => exact .early (hk.append hearly)
  | late hparsed hcommand hbefore hrun hfailures hafter =>
    rw [← List.append_assoc, ← List.append_assoc]
    exact .late hparsed hcommand (hk.append hbefore) hrun hfailures hafter

theorem early_complain {messages : List String} {r : Except Fault Unit} (htrace : Trace (complain messages) h r) :
    Early h := purpose_ne_of_for (for_complain _) nofun htrace

theorem early_builtin {i : Invocation} (hcourse : s.BuiltinCourse i h r) : Early h := by
  intro e he
  rcases purpose_builtin hcourse e he with hpurpose | hpurpose <;> simp [hpurpose]

theorem ne_nil_of_complain {messages : List String} {fault : Fault}
    (htrace : Trace (complain messages) h (.error fault)) : messages ≠ [] := by
  rintro rfl
  have hok := (trace_pure.mp htrace).2
  cases hok

theorem stopped_plan {p : ParsedLine} {plan : Plan} {fault : Fault} (hcourse : s.PlanCourse plan h r)
    (herror : r.2 = .error fault) (hcommand : p.command = .external plan) : s.Stopped (.ok p) h := by
  cases hcourse with
  | unflushed fault => exact .early early_nil.flush
  | unsaid hrun hsay =>
    have hfailures := fun hnil => ne_nil_of_complain hsay (List.map_eq_nil_iff.mpr hnil)
    have hstopped : s.Stopped (.ok p) ([⟨.flush .out, .ok ()⟩] ++ _ ++ _) :=
      .late rfl hcommand early_nil.flush hrun hfailures (early_complain hsay)
    exact hstopped
  | shown hrun hsay => cases herror

theorem stopped_line {fault : Fault} (hcourse : s.LineCourse parsed h r) (herror : r.2 = .error fault) :
    s.Stopped parsed h := by
  cases hcourse with
  | refusedUnsaid hsay => exact .early (early_complain hsay)
  | undiagnosed hsay => exact .early (early_complain hsay)
  | builtin hcommand hsay hcourse => exact .early ((early_complain hsay).append (early_builtin hcourse))
  | external hcommand hsay hcourse => exact (stopped_plan hcourse herror hcommand).behind (early_complain hsay)
  | _ => cases herror

/-- A line that stops leaves the session as it was, unless a flush has failed. -/
theorem eq_of_stopped {fault : Fault} (hcourse : s.LineCourse parsed h r) (herror : r.2 = .error fault)
    (hflush : ∀ channel fault, ⟨.flush channel, .error fault⟩ ∉ h) : r.1 = s := by
  cases hcourse with
  | builtin hcommand hsay hcourse =>
    cases hcourse with
    | unflushed fault => exact absurd (by simp) (hflush .out fault)
    | shown => cases herror
    | _ => rfl
  | external hcommand hsay hcourse =>
    cases hcourse with
    | shown => cases herror
    | _ => rfl
  | refused => cases herror
  | blank => cases herror
  | _ => rfl

/-- A line whose diagnostics cannot all be written stops there. -/
theorem early_line {p : ParsedLine} (hcourse : s.LineCourse (.ok p) h r)
    (hfails : ∀ k said, Trace (complain (p.diagnostics.map ExpansionError.message)) k said → k ⊆ h →
      ∃ fault, said = .error fault) : (∃ fault, r.2 = .error fault) ∧ Early h := by
  cases hcourse with
  | undiagnosed hsay => exact ⟨⟨_, rfl⟩, early_complain hsay⟩
  -- On every later course all diagnostics have been written.
  | blank hcommand hsay =>
    obtain ⟨fault, hfault⟩ := hfails _ _ hsay (List.Subset.refl _)
    cases hfault
  | builtin hcommand hsay hcourse | external hcommand hsay hcourse =>
    obtain ⟨fault, hfault⟩ := hfails _ _ hsay (List.subset_append_left _ _)
    cases hfault

/-! ### The two systems -/

section
variable {whole broken : System σ} {closed : Channel → Prop} (hbreaks : Breaks whole broken closed) (s)
  (line : String) (t : σ)
include hbreaks

/-- A line is carried out in the same way on both systems, or it stops where the first write to a closed stream
fails. -/
theorem execute_cases :
    ((∀ e ∈ (s.execute line).history whole t, ¬Blocked closed e.request) ∧
        (s.execute line).run broken t = (s.execute line).run whole t ∧
        (s.execute line).history broken t = (s.execute line).history whole t) ∨
      ∃ before channel bytes fault, closed channel ∧ bytes ≠ [] ∧
        before ++ [⟨.write channel bytes, .ok ()⟩] <+: (s.execute line).history whole t ∧
        (s.execute line).history broken t = before ++ [⟨.write channel bytes, .error fault⟩] ∧
        ((s.execute line).run broken t).1.2 = .error fault := by
  rcases hbreaks.history_cases (s.execute line) t with hsame |
    ⟨before, channel, bytes, fault, rest, hclosed, hne, hfront, hhistory⟩
  · exact .inl hsame
  · have hstops := stopsAtFault_execute (trace_run broken (s.execute line) t)
    rw [hhistory] at hstops
    obtain ⟨rfl, hresult⟩ := hstops.of_fault rfl
    exact .inr ⟨before, channel, bytes, fault, hclosed, hne, hfront, hhistory, hresult⟩

/-- On the whole system a line does not fail. -/
theorem execute_whole : ∃ flow, ((s.execute line).run whole t).1.2 = .ok flow := by
  have hstops := stopsAtFault_execute (trace_run whole (s.execute line) t)
  cases hresult : ((s.execute line).run whole t).1.2 with
  | ok flow => exact ⟨flow, rfl⟩
  | error fault =>
    obtain ⟨e, he, hfault⟩ := (hresult ▸ hstops).exists_fault
    cases hfault.symm.trans (fine_of_writable hbreaks.write hbreaks.flush _ he)

/-- A line that fails has met a closed stream. -/
theorem exists_blocked {fault : Fault} (herror : ((s.execute line).run broken t).1.2 = .error fault) :
    ∃ before channel bytes, closed channel ∧ bytes ≠ [] ∧
      before ++ [⟨.write channel bytes, .ok ()⟩] <+: (s.execute line).history whole t ∧
      (s.execute line).history broken t = before ++ [⟨.write channel bytes, .error fault⟩] := by
  rcases execute_cases s hbreaks line t with ⟨-, hrun, -⟩ |
    ⟨before, channel, bytes, fault', hclosed, hne, hfront, hhistory, hresult⟩
  · obtain ⟨flow, hok⟩ := execute_whole s hbreaks line t
    rw [hrun] at herror
    cases herror.symm.trans hok
  · cases herror.symm.trans hresult
    exact ⟨before, channel, bytes, hclosed, hne, hfront, hhistory⟩

end

/-- A line fails just if it would write to a closed stream. It then stops at that write, with the session as it was
before; what it had launched has been waited for, and nothing was launched if there is a diagnostic that cannot
be written. A line that does not fail is carried out as if no stream were closed. -/
theorem execute_breaks {σ : Type} {whole broken : System σ} {closed : Channel → Prop}
    (hbreaks : Breaks whole broken closed) (s : Session) (line : String) (t : σ) :
    let x := s.execute line
    let parsed := ((parseIn line s.directory s.config.limits).run whole t).1
    ((∃ fault, (x.run broken t).1.2 = .error fault) ↔ ∃ e ∈ x.history whole t, Blocked closed e.request) ∧
      (∀ fault, (x.run broken t).1.2 = .error fault →
        (x.run broken t).1.1 = s ∧ s.Stopped parsed (x.history broken t) ∧ WaitsForAll (x.history broken t) ∧
        ∃ before channel bytes, closed channel ∧ bytes ≠ [] ∧
          before ++ [⟨.write channel bytes, .ok ()⟩] <+: x.history whole t ∧
          x.history broken t = before ++ [⟨.write channel bytes, .error fault⟩]) ∧
      (closed .err → ∀ p, parsed = .ok p → p.diagnostics ≠ [] →
        (∃ fault, (x.run broken t).1.2 = .error fault) ∧ Early (x.history broken t)) ∧
      ∀ flow, (x.run broken t).1.2 = .ok flow →
        x.run broken t = x.run whole t ∧ x.history broken t = x.history whole t := by
  dsimp only
  have hcases := execute_cases s hbreaks line t
  obtain ⟨reading, carrying, hhistory, hreading, hcourse⟩ := exists_lineCourse broken s line t
  rw [hbreaks.run_eq_of_for (for_parseIn _ _ _) nofun] at hcourse
  have hearly : Early reading := fun e he => hreading e he ▸ nofun
  refine ⟨⟨?_, ?_⟩, ?_, ?_, ?_⟩
  · rintro ⟨fault, herror⟩
    obtain ⟨before, channel, bytes, hclosed, hne, hfront, -⟩ := exists_blocked s hbreaks line t herror
    exact ⟨⟨.write channel bytes, .ok ()⟩, hfront.subset (by simp), channel, bytes, rfl, hclosed, hne⟩
  · rintro ⟨e, he, hblocked⟩
    rcases hcases with ⟨hclear, -⟩ | ⟨-, -, -, fault, -, -, -, -, hresult⟩
    · exact absurd hblocked (hclear e he)
    · exact ⟨fault, hresult⟩
  · intro fault herror
    have hflush : ∀ channel fault, ⟨.flush channel, .error fault⟩ ∉ carrying := by
      intro channel fault hmem
      have hin : ⟨.flush channel, .error fault⟩ ∈ (s.execute line).history broken t :=
        hhistory ▸ List.mem_append_right _ hmem
      cases hbreaks.ok_of_flush hin
    have hstopped := (stopped_line hcourse herror).behind hearly
    rw [← hhistory] at hstopped
    exact ⟨eq_of_stopped hcourse herror hflush, hstopped, hstopped.waitsForAll, exists_blocked s hbreaks line t herror⟩
  · intro hclosed p hp hdiagnostics
    rw [hp] at hcourse
    have hmessages : p.diagnostics.map ExpansionError.message ≠ [] := by simpa using hdiagnostics
    obtain ⟨herror, hcarrying⟩ := early_line hcourse fun k said hsay hsub =>
      hbreaks.complain_fails hclosed hmessages hsay fun e he => hhistory ▸ List.mem_append_right _ (hsub he)
    exact ⟨herror, hhistory ▸ hearly.append hcarrying⟩
  · intro flow hok
    rcases hcases with ⟨-, hrun, hsame⟩ | ⟨-, -, -, fault, -, -, -, -, hresult⟩
    · exact ⟨hrun, hsame⟩
    · cases hok.symm.trans hresult

/-- A program that cannot be started, as there is a NUL byte in its argument, and an error stream that is closed. -/
theorem execute_breaks_sort :
    let s : Session := { config := { logDirectory := ⟨[]⟩ }, directory := ⟨[Path.slash]⟩, status := some .success }
    let m : Machine := { tree := { entries := [] } }
    let whole : System Machine := ⟨fun r m => Machine.system.answer r { m with closed := [] }⟩
    let broken := whole.closing (· == .err)
    let x := s.execute "sort \x00"
    Breaks whole broken (fun channel => (channel == .err) = true) ∧ (x.run broken m).1.2 = .error (.os .epipe) ∧
      (∃ e ∈ x.history whole m, Blocked (fun channel => (channel == .err) = true) e.request) ∧
      (x.run broken m).1.1 = s ∧ WaitsForAll (x.history broken m) := by
  intro s m whole broken x
  have hbreaks : Breaks whole broken fun channel => (channel == .err) = true :=
    breaks_closing _ (fun channel bytes _ => Machine.write_of_open rfl channel bytes) fun _ _ => rfl
  have herror : (x.run broken m).1.2 = .error (.os .epipe) := by decide +kernel
  obtain ⟨hiff, hstopped, -⟩ := execute_breaks hbreaks s "sort \x00" m
  obtain ⟨hsession, -, hwaits, -⟩ := hstopped _ herror
  exact ⟨hbreaks, herror, hiff.mp ⟨_, herror⟩, hsession, hwaits⟩

end Session
end LineShell
