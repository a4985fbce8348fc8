import LineShell.Proofs.Boundaries
import LineShell.Proofs.Carrying

/-!
What a session can fail for. Whatever its lines do, it ends with an error only where reading on has failed, or
one of the two streams that the shell itself writes to, and then nothing comes behind that.
-/

namespace LineShell
open LineShell.Action

/-! ### Failures -/

/-- What failed in an event: reading on, or a fault of the shell's own streams. -/
def Event.failure? : Event → Option Fault
  | ⟨.read _ _, .error fault⟩ => some fault
  | e => e.fault?

/-- A result is an error just if the last event has failed, and no earlier event has. -/
def StopsAtFailure {α : Type} (h : List Event) : Except Fault α → Prop
  | .ok _ => ∀ e ∈ h, e.failure? = none
  | .error fault => ∃ before last, h = before ++ [last] ∧ (∀ e ∈ before, e.failure? = none) ∧
      last.failure? = some fault

section
variable {α : Type} {h k : List Event}

theorem StopsAtFailure.behind {r : Except Fault α} (hh : ∀ e ∈ h, e.failure? = none) (hk : StopsAtFailure k r) :
    StopsAtFailure (h ++ k) r := by
  cases r with
  | ok a => exact List.forall_mem_append.mpr ⟨hh, hk⟩
  | error fault =>
    obtain ⟨before, last, rfl, hbefore, hlast⟩ := hk
    exact ⟨h ++ before, last, by rw [List.append_assoc], List.forall_mem_append.mpr ⟨hh, hbefore⟩, hlast⟩

theorem failure?_eq_fault? {e : Event} (he : e.request.purpose ≠ .other) : e.failure? = e.fault? := by
  obtain ⟨request, answer⟩ := e
  cases request <;> first | rfl | exact absurd rfl he

/-- Where nothing is read, only the shell's own streams can fail. -/
theorem StopsAtFault.stopsAtFailure {r : Except Fault α} (hstops : StopsAtFault h r)
    (hh : ∀ e ∈ h, e.request.purpose ≠ .other) : StopsAtFailure h r := by
  cases hstops with
  | fine a hfine => exact fun e he => (failure?_eq_fault? (hh e he)).trans (hfine e he)
  | @fault before last fault hbefore hlast =>
    refine ⟨before, last, rfl, fun e he => ?_, ?_⟩
    · exact (failure?_eq_fault? (hh e (List.mem_append_left _ he))).trans (hbefore e he)
    · exact (failure?_eq_fault? (hh last (by simp))).trans hlast

end

/-! ### Sessions -/

namespace Session

variable {s : Session} {mode : Mode} {source : Option Descriptor} {h : List Event}

theorem only_execute (s : Session) (line : String) : (s.execute line).Only fun r => r.purpose ≠ .other := by
  have hcomplain : ∀ messages, (complain messages).Only fun r => r.purpose ≠ .other :=
    fun messages => (for_complain messages).mono fun r hr => hr ▸ nofun
  have hput : ∀ bytes, (put .out bytes).Only fun r => r.purpose ≠ .other :=
    fun bytes => (for_put .out bytes).mono fun r hr => hr ▸ nofun
  rw [execute_eq]
  refine ((for_parseIn _ _ _).mono fun r hr => hr ▸ nofun).bind fun parsed => ?_
  obtain e | p := parsed
  · refine (hcomplain _).bind fun said => ?_
    obtain fault | ⟨⟩ := said <;> exact only_pure _
  refine (hcomplain _).bind fun said => ?_
  obtain fault | ⟨⟩ := said
  · exact only_pure _
  dsimp only
  cases p.command with
  | empty => exact only_pure _
  | builtin i =>
    refine ((for_invoke _ _ _).mono fun r hr => hr ▸ nofun).bind fun output => (hput _).bind fun shown => ?_
    obtain fault | ⟨⟩ := shown
    · exact only_pure _
    refine (only_request nofun).bind fun flushed => ?_
    obtain fault | ⟨⟩ := flushed
    · exact only_pure _
    refine (hcomplain _).bind fun said => ?_
    obtain fault | ⟨⟩ := said <;> exact only_pure _
  | external plan =>
    refine (only_request nofun).bind fun flushed => ?_
    obtain fault | ⟨⟩ := flushed
    · exact only_pure _
    refine ((for_run_plan _ _).mono fun r hr => hr ▸ nofun).bind fun outcome => (hcomplain _).bind fun said => ?_
    obtain fault | ⟨⟩ := said <;> exact only_pure _

theorem stopsAtFailure_execute {line : String} {r : Session × Except Fault Flow} (htrace : Trace (s.execute line) h r) :
    StopsAtFailure h r.2 :=
  (stopsAtFault_execute htrace).stopsAtFailure ((only_execute s line).trace htrace)

theorem stopsAtFailure_put {channel : Channel} {bytes : Bytes} {r : Except Fault Unit}
    (htrace : Trace (put channel bytes) h r) : StopsAtFailure h r :=
  (stopsAtFault_put htrace).stopsAtFailure (purpose_ne_of_for (for_put _ _) nofun htrace)

theorem stopsAtFailure_flush {channel : Channel} {r : Except Fault Unit}
    (htrace : Trace (Action.request (.flush channel)) h r) : StopsAtFailure h r := by
  obtain rfl := trace_request.mp htrace
  cases r with
  | ok u => simp [StopsAtFailure, Event.failure?, Event.fault?]
  | error fault => exact ⟨[], _, rfl, by simp, rfl⟩

theorem stopsAtFailure_banner {text : String} {r : Except Fault Unit} (htrace : Trace (banner text mode) h r) :
    StopsAtFailure h r := by
  cases mode with
  | batch =>
    obtain ⟨rfl, rfl⟩ := trace_pure.mp htrace
    exact List.forall_mem_nil _
  | interactive => exact stopsAtFailure_put htrace

theorem stopsAtFailure_prompt {r : Except Fault Unit} (htrace : Trace (s.prompt mode) h r) : StopsAtFailure h r := by
  cases mode with
  | batch =>
    obtain ⟨rfl, rfl⟩ := trace_pure.mp htrace
    exact List.forall_mem_nil _
  | interactive =>
    obtain ⟨h₁, shown, h₂, hput, hrest, rfl⟩ := trace_bind.mp htrace
    have hshown := stopsAtFailure_put hput
    obtain fault | ⟨⟩ := shown
    · obtain ⟨rfl, rfl⟩ := trace_pure.mp hrest
      rwa [List.append_nil]
    · exact (stopsAtFailure_flush hrest).behind hshown

/-- A line that is asked for fails to come only where reading fails. -/
theorem stopsAtFailure_nextLine {rounds : Nat} {held : Bytes} {r : Except Fault (Bytes × Bytes)}
    (htrace : Trace (nextLine source rounds held) h r) : StopsAtFailure h r := by
  induction rounds generalizing held h with
  | zero =>
    obtain ⟨rfl, rfl⟩ := trace_pure.mp htrace
    exact List.forall_mem_nil _
  | succ rounds ih =>
    by_cases hheld : Lines.newline ∈ held
    · obtain ⟨front, rest, rfl, hfront⟩ := List.eq_append_cons_of_mem hheld
      rw [nextLine_of_newline hfront] at htrace
      obtain ⟨rfl, rfl⟩ := trace_pure.mp htrace
      exact List.forall_mem_nil _
    · rw [nextLine_of_notMem hheld] at htrace
      obtain ⟨answer, k, hk, rfl⟩ := trace_request_bind.mp htrace
      have hread : ∀ {piece : Bytes}, ∀ e ∈ [(⟨.read source pieceSize, .ok piece⟩ : Event)], e.failure? = none :=
        List.forall_mem_singleton.mpr rfl
      rcases answer with fault | _ | ⟨b, piece⟩
      · obtain ⟨rfl, rfl⟩ := trace_pure.mp hk
        exact ⟨[], _, rfl, by simp, rfl⟩
      · obtain ⟨rfl, rfl⟩ := trace_pure.mp hk
        exact hread
      · exact (ih hk).behind (h := [_]) hread

/-- Whatever its lines do, a run fails only where reading on or the shell's own streams fail, and no later than
that. -/
theorem stopsAtFailure_runSource {rounds : Nat} {held : Bytes} {r : Session × Except Fault Unit}
    (htrace : Trace (runSource mode source rounds s held) h r) : StopsAtFailure h r.2 := by
  induction rounds generalizing s held h with
  | zero =>
    obtain ⟨rfl, rfl⟩ := trace_pure.mp htrace
    exact List.forall_mem_nil _
  | succ rounds ih =>
    obtain ⟨h₁, prompted, k₁, hprompt, rest₁, rfl⟩ := trace_bind.mp htrace
    have hprompted := stopsAtFailure_prompt hprompt
    obtain fault | ⟨⟩ := prompted
    · obtain ⟨rfl, rfl⟩ := trace_pure.mp rest₁
      rwa [List.append_nil]
    obtain ⟨h₂, next, k₂, hnext, rest₂, rfl⟩ := trace_bind.mp rest₁
    have hread := stopsAtFailure_nextLine hnext
    refine StopsAtFailure.behind hprompted ?_
    obtain fault | ⟨_ | ⟨b, line⟩, rest⟩ := next
    · obtain ⟨rfl, rfl⟩ := trace_pure.mp rest₂
      rwa [List.append_nil]
    · obtain ⟨rfl, rfl⟩ := trace_pure.mp rest₂
      rwa [List.append_nil]
    obtain ⟨h₃, ⟨s', executed⟩, k₃, hexecute, rest₃, rfl⟩ := trace_bind.mp rest₂
    have hexecuted := stopsAtFailure_execute hexecute
    refine StopsAtFailure.behind hread ?_
    obtain fault | _ | _ := executed
    · obtain ⟨rfl, rfl⟩ := trace_pure.mp rest₃
      rwa [List.append_nil]
    · exact (ih rest₃).behind hexecuted
    · obtain ⟨rfl, rfl⟩ := trace_pure.mp rest₃
      rwa [List.append_nil]

theorem stopsAtFailure_runLive {r : Session × Except Fault Unit} (htrace : Trace (s.runLive mode source) h r) :
    StopsAtFailure h r.2 := by
  obtain ⟨h₁, welcomed, k₁, hwelcome, rest₁, rfl⟩ := trace_bind.mp htrace
  have hwelcomed := stopsAtFailure_banner hwelcome
  obtain fault | ⟨⟩ := welcomed
  · obtain ⟨rfl, rfl⟩ := trace_pure.mp rest₁
    rwa [List.append_nil]
  obtain ⟨h₂, ⟨s', ran⟩, k₂, hrun, rest₂, rfl⟩ := trace_bind.mp rest₁
  have hran := stopsAtFailure_runSource hrun
  refine StopsAtFailure.behind hwelcomed ?_
  obtain fault | ⟨⟩ := ran
  · obtain ⟨rfl, rfl⟩ := trace_pure.mp rest₂
    rwa [List.append_nil]
  obtain ⟨h₃, parted, k₃, hgoodbye, rest₃, rfl⟩ := trace_bind.mp rest₂
  have hparted := stopsAtFailure_banner hgoodbye
  refine StopsAtFailure.behind hran ?_
  obtain fault | ⟨⟩ := parted
  · obtain ⟨rfl, rfl⟩ := trace_pure.mp rest₃
    rwa [List.append_nil]
  obtain ⟨h₄, flushed, k₄, hflush, rest₄, rfl⟩ := trace_bind.mp rest₃
  obtain ⟨rfl, rfl⟩ := trace_pure.mp rest₄
  refine StopsAtFailure.behind hparted ?_
  rw [List.append_nil]
  exact stopsAtFailure_flush hflush

end Session

end LineShell
