import LineShell.Machine.System
import LineShell.Proofs.Grammar
import LineShell.Proofs.History
import LineShell.Proofs.Newline
import LineShell.Proofs.Purposes
import LineShell.Session

/-!
Scripts in a row. A batch run carries out the lines of its script until one of them fails or asks for the
exit, and then flushes its output. So a script that is cut at the end of a line may as well be run in two
parts, the second from the session and the surroundings that the first one leaves, unless the first one was
ended early. What the two parts have more is the flush at the end of the first, which must not fail nor have
anything to do. Whether the last line has a newline makes no difference.
-/

namespace LineShell.Session

/-! ### A batch run, with the way it ends -/

/-- Carries lines out until one of them fails or asks for the exit, and says how that went. -/
def executeAll (s : Session) : List String → Action (Session × Except Fault Flow)
  | [] => pure (s, .ok .continue)
  | line :: lines => do
    match ← s.execute line with
    | (t, .ok .continue) => executeAll t lines
    | stopped => pure stopped

/-- The end of a run: what is still held back is written, unless something has failed. -/
def close : Session × Except Fault Flow → Action (Session × Except Fault Flow)
  | (s, .error e) => pure (s, .error e)
  | (s, .ok flow) => do
    match ← Action.request (.flush .out) with
    | .error e => pure (s, .error e)
    | .ok () => pure (s, .ok flow)

/-- Runs a script and tells whether an exit has ended it. -/
def runScript (s : Session) (script : Bytes) : Action (Session × Except Fault Flow) := do
  close (← s.executeAll (Lines.decode script))

/-- The result of a run, which does not tell an exit from the end of the input. -/
def forgetFlow (r : Session × Except Fault Flow) : Session × Except Fault Unit := (r.1, r.2.map fun _ => ())

/-- Runs two scripts, the second one from the session that the first one leaves, unless that one failed or
was ended by an exit. -/
def runInTurn (s : Session) (first second : Bytes) : Action (Session × Except Fault Unit) := do
  match ← s.runScript first with
  | (t, .ok .continue) => t.run .batch { bytes := second }
  | stopped => pure (forgetFlow stopped)

theorem executeAll_append (s : Session) (lines more : List String) :
    s.executeAll (lines ++ more) = (do
      match ← s.executeAll lines with
      | (t, .ok .continue) => t.executeAll more
      | stopped => pure stopped) := by
  induction lines generalizing s with
  | nil => rfl
  | cons line lines ih =>
    simp only [List.cons_append, executeAll, bind_assoc]
    congr 1
    funext r
    obtain ⟨t, e | _ | _⟩ := r
    · rfl
    · exact ih t
    · rfl

theorem runLines_batch (s : Session) (lines : List String) :
    runLines .batch none s lines = forgetFlow <$> s.executeAll lines := by
  induction lines generalizing s with
  | nil => rfl
  | cons line lines ih =>
    simp only [runLines, prompt, executeAll, pure_bind, map_bind]
    congr 1
    funext r
    obtain ⟨t, e | _ | _⟩ := r
    · rfl
    · exact ih t
    · rfl

theorem run_batch (s : Session) (script : Bytes) :
    s.run .batch { bytes := script } = forgetFlow <$> s.runScript script := by
  simp only [run, betweenBanners, banner, linesOf, runLines_batch, runScript, pure_bind, map_bind, bind_map_left]
  congr 1
  funext r
  obtain ⟨t, e | flow⟩ := r
  · rfl
  · simp only [forgetFlow, Except.map, close, map_bind]
    congr 1
    funext flushed
    obtain e | ⟨⟩ := flushed <;> rfl

/-- A script is carried out up to where it is cut, and from there as one of its own. -/
theorem runScript_append (s : Session) {first second : Bytes}
    (h : first = [] ∨ first.getLast? = some Lines.newline) :
    s.runScript (first ++ second) = (do
      match ← s.executeAll (Lines.decode first) with
      | (t, .ok .continue) => t.runScript second
      | stopped => close stopped) := by
  rw [runScript, Lines.decode_append h, executeAll_append, bind_assoc]
  congr 1
  funext r
  obtain ⟨t, e | _ | _⟩ := r <;> rfl

/-! ### The newline of a line -/

theorem execute_append_newline (s : Session) {line : String} (h : '\n' ∉ line.toList) :
    s.execute (line ++ "\n") = s.execute line := by
  have hlast : line.toList.getLast? ≠ some '\n' := fun hlast => h (List.mem_of_getLast? hlast)
  have hparse : parseIn (line ++ "\n") s.directory s.config.limits = parseIn line s.directory s.config.limits := by
    rw [parseIn, parseIn, Grammar.body_append_newline, Grammar.body_eq_self hlast]
  rw [execute, execute, hparse]

theorem runScript_append_newline (s : Session) {script : Bytes} (hne : script ≠ [])
    (hlast : script.getLast? ≠ some Lines.newline) :
    s.runScript (script ++ [Lines.newline]) = s.runScript script := by
  obtain ⟨lines, line, hlines, hmem, hnew⟩ := Lines.decode_append_newline hne hlast
  simp only [runScript, hlines, hnew, executeAll_append, executeAll, execute_append_newline _ hmem]

/-! ### What is held back

A stream may hold back what is written to it until it is flushed. Of such a stream nothing is known but
that a flush with nothing held back has nothing to do, that a flush that succeeds leaves nothing behind, and
that only writing to the stream adds to what it holds. -/

/-- The request neither writes to the output nor flushes it. -/
def Quiet (r : Request) : Prop := (∀ bytes, r ≠ .write .out bytes) ∧ r ≠ .flush .out

variable {σ : Type}

/-- `idle` says of the states of a system that its output holds nothing back. -/
structure Buffers (system : System σ) (idle : σ → Prop) : Prop where
  flush_of_idle : ∀ t, idle t → system.answer (.flush .out) t = (.ok (), t)
  idle_of_flush : ∀ t, (system.answer (.flush .out) t).1 = .ok () → idle (system.answer (.flush .out) t).2
  idle_of_quiet : ∀ r t, Quiet r → idle t → idle (system.answer r t).2

/-- A run from a state with `P` that does not fail ends with nothing held back. -/
def Settles {α : Type} (system : System σ) (idle P : σ → Prop) (x : Action (Session × Except Fault α)) : Prop :=
  ∀ t, P t → ∀ a, (x.run system t).1.2 = .ok a → idle (x.run system t).2

section
variable {α β : Type} {system : System σ} {idle P : σ → Prop}

theorem settles_error (s : Session) (e : Fault) :
    Settles (α := α) system idle P (pure (s, .error e)) := by
  intro t _ a h
  cases h

theorem settles_ok (s : Session) (a : α) : Settles system idle idle (pure (s, .ok a)) := fun _ ht _ _ => ht

theorem settles_bind {x : Action β} {f : β → Action (Session × Except Fault α)}
    (hf : ∀ b, Settles system idle (fun _ => True) (f b)) : Settles system idle P (x >>= f) := by
  intro t _ a
  rw [Action.run_bind]
  exact hf _ _ trivial a

theorem Buffers.settles_bind_quiet (hsys : Buffers system idle) {x : Action β}
    {f : β → Action (Session × Except Fault α)} (hx : x.Only Quiet) (hf : ∀ b, Settles system idle idle (f b)) :
    Settles system idle idle (x >>= f) := by
  intro t ht a
  rw [Action.run_bind]
  exact hf _ _ (hx.keeps hsys.idle_of_quiet ht) a

/-- After a flush nothing is held back, or it has failed. -/
theorem Buffers.settles_flush (hsys : Buffers system idle)
    {f : (Request.flush .out).Answer → Action (Session × Except Fault α)}
    (herror : ∀ e, Settles system idle (fun _ => True) (f (.error e))) (hok : Settles system idle idle (f (.ok ()))) :
    Settles system idle P (Action.request (.flush .out) >>= f) := by
  intro t _ a
  rw [Action.run_bind, Action.run_request]
  have hidle := hsys.idle_of_flush t
  generalize system.answer (.flush .out) t = answered at hidle
  obtain ⟨e | ⟨⟩, t'⟩ := answered
  · exact herror e t' trivial a
  · exact hok t' (hidle rfl) a

/-! ### What keeps quiet -/

theorem quiet_of_purpose {r : Request} (h : r.purpose ≠ .showing) : Quiet r :=
  ⟨fun _ hr => h (hr ▸ rfl), fun hr => h (hr ▸ rfl)⟩

theorem quiet_of_for {x : Action α} {p : Purpose} (hx : x.For p) (hp : p ≠ .showing) : x.Only Quiet :=
  hx.mono fun _ hr => quiet_of_purpose (hr ▸ hp)

theorem quiet_put (bytes : Bytes) : (put .err bytes).Only Quiet := by
  unfold put
  split
  · exact Action.only_pure _
  · exact Action.only_request (by simp [Quiet])

theorem quiet_complain (messages : List String) : (complain messages).Only Quiet := by
  induction messages with
  | nil => exact Action.only_pure _
  | cons message messages ih =>
    refine (quiet_put _).bind fun r => ?_
    obtain e | ⟨⟩ := r
    · exact Action.only_pure _
    · exact ih

/-! ### Lines leave nothing held back -/

section
variable {system : System σ} {idle : σ → Prop} (hsys : Buffers system idle) (s : Session)
include hsys

theorem Buffers.settles_builtin (i : Invocation) : Settles system idle idle (s.executeBuiltin i) := by
  refine hsys.settles_bind_quiet (quiet_of_for (for_invoke _ _ _) nofun) fun r => settles_bind fun put => ?_
  obtain e | ⟨⟩ := put
  · exact settles_error _ _
  refine hsys.settles_flush (fun e => settles_error _ e) ?_
  refine hsys.settles_bind_quiet (quiet_complain _) fun r => ?_
  obtain e | ⟨⟩ := r
  · exact settles_error _ _
  · exact settles_ok _ _

theorem Buffers.settles_plan (p : Plan) : Settles system idle idle (s.executePlan p) := by
  refine hsys.settles_flush (fun e => settles_error _ e) ?_
  refine hsys.settles_bind_quiet (quiet_of_for (for_run_plan _ _) nofun) fun outcome => ?_
  refine hsys.settles_bind_quiet (quiet_complain _) fun r => ?_
  obtain e | ⟨⟩ := r
  · exact settles_error _ _
  · exact settles_ok _ _

theorem Buffers.settles_execute (line : String) : Settles system idle idle (s.execute line) := by
  refine hsys.settles_bind_quiet (quiet_of_for (for_parseIn _ _ _) nofun) fun parsed => ?_
  split
  · refine hsys.settles_bind_quiet (quiet_complain _) fun r => ?_
    obtain e | ⟨⟩ := r
    · exact settles_error _ _
    · exact settles_ok _ _
  · refine hsys.settles_bind_quiet (quiet_complain _) fun r => ?_
    obtain e | ⟨⟩ := r
    · exact settles_error _ _
    · cases ‹ParsedLine›.command with
      | empty => exact settles_ok _ _
      | builtin i => exact hsys.settles_builtin s i
      | external p => exact hsys.settles_plan s p

theorem Buffers.settles_executeAll (lines : List String) : Settles system idle idle (s.executeAll lines) := by
  induction lines generalizing s with
  | nil => exact settles_ok _ _
  | cons line lines ih =>
    intro t ht a
    have hline := hsys.settles_execute s line t ht
    rw [executeAll, Action.run_bind]
    generalize (s.execute line).run system t = r at hline
    obtain ⟨⟨s', e | _ | _⟩, t'⟩ := r
    · exact nofun
    · exact ih s' t' (hline _ rfl) a
    · exact settles_ok s' _ t' (hline _ rfl) a

end

end

/-! ### Running scripts in turn -/

/-- The event is a flush of the output. -/
def isFlush (e : Event) : Bool := e.request == .flush .out

/-- What a run comes to: its result, the state of the surroundings that it leaves, and all that it has asked
of them with their answers, in order. Flushes of the output are not counted. -/
structure Effects (σ α : Type) where
  result : α
  state : σ
  events : List Event

/-- The effects of an action on a system. -/
def effects {α : Type} (system : System σ) (x : Action α) (t : σ) : Effects σ α :=
  ⟨(x.run system t).1, (x.run system t).2, (x.history system t).filter fun e => !isFlush e⟩

/-- The effects of what follows a first action, behind the requests of that one. -/
def Effects.after {α : Type} (events : List Event) (e : Effects σ α) : Effects σ α :=
  { e with events := events.filter (fun e => !isFlush e) ++ e.events }

theorem effects_bind {α β : Type} (system : System σ) (x : Action α) (f : α → Action β) (t : σ) :
    effects system (x >>= f) t =
      (effects system (f (x.run system t).1) (x.run system t).2).after (x.history system t) := by
  simp [effects, Effects.after, Action.run_bind, Action.history_bind]

section
variable {system : System σ} (s : Session)

/-- The flush at the end of a run of lines has nothing to do, unless the run is stopped before. -/
def ClosesIdly (system : System σ) (s : Session) (lines : List String) (t : σ) : Prop :=
  let ran := (s.executeAll lines).run system t
  ran.1.2 = .ok .continue → system.answer (.flush .out) ran.2 = (.ok (), ran.2)

/-- A stream that is held back at most until it is flushed is flushed idly behind the lines. -/
theorem Buffers.closesIdly {idle : σ → Prop} (hsys : Buffers system idle) {t : σ} (ht : idle t) (lines : List String) :
    ClosesIdly system s lines t :=
  fun hcontinue => hsys.flush_of_idle _ (hsys.settles_executeAll s lines t ht .continue hcontinue)

/-- Behind a flush that has nothing to do all is as before. -/
theorem run_close {t : σ} (hflush : system.answer (.flush .out) t = (.ok (), t)) (flow : Flow) :
    (close (s, .ok flow)).run system t = ((s, .ok flow), t) := by
  rw [close, Action.run_bind, Action.run_request, hflush]
  rfl

/-- A run that is closed idly goes on where no line has stopped it. -/
theorem ClosesIdly.continues {script : Bytes} {t : σ} (hclose : ClosesIdly system s (Lines.decode script) t)
    (hcontinue : ((s.executeAll (Lines.decode script)).run system t).1.2 = .ok .continue) :
    ((s.runScript script).run system t).1.2 = .ok .continue := by
  have hflush := hclose hcontinue
  rw [runScript, Action.run_bind]
  generalize (s.executeAll (Lines.decode script)).run system t = r at hcontinue hflush
  obtain ⟨⟨s', result⟩, t'⟩ := r
  obtain rfl : result = .ok .continue := hcontinue
  rw [run_close s' hflush]

/-- A flush that has nothing to do has no effect. -/
theorem effects_close_bind {α : Type} {t : σ} (hflush : system.answer (.flush .out) t = (.ok (), t)) (flow : Flow)
    (f : Session × Except Fault Flow → Action α) :
    effects system (close (s, .ok flow) >>= f) t = effects system (f (s, .ok flow)) t := by
  have hhistory : (close (s, .ok flow)).history system t = [⟨.flush .out, .ok ()⟩] := by
    rw [close, Action.history_bind, Action.run_request, hflush, Action.history_request, hflush]
    rfl
  rw [effects_bind, run_close s hflush, hhistory]
  rfl

/-- A run that an exit has ended is closed, and that is all. -/
theorem close_exit_bind (f : Session → Action (Session × Except Fault Unit)) :
    (do
      match ← close (s, .ok .exit) with
      | (t, .ok .continue) => f t
      | stopped => pure (forgetFlow stopped)) = forgetFlow <$> close (s, .ok .exit) := by
  simp only [close, bind_assoc, map_bind]
  congr 1
  funext flushed
  obtain e | ⟨⟩ := flushed <;> rfl

/-- The run of two scripts as one has the effects of their runs in turn. -/
theorem effects_append {first second : Bytes} {t : σ} (h : first = [] ∨ first.getLast? = some Lines.newline)
    (hclose : ClosesIdly system s (Lines.decode first) t) :
    effects system (s.run .batch { bytes := first ++ second }) t = effects system (s.runInTurn first second) t := by
  rw [ClosesIdly] at hclose
  rw [run_batch, runScript_append s h, runInTurn, runScript, map_bind, bind_assoc, effects_bind, effects_bind]
  generalize (s.executeAll (Lines.decode first)).run system t = r at hclose
  obtain ⟨⟨s', e | _ | _⟩, t'⟩ := r
  · rfl
  · rw [effects_close_bind s' (hclose rfl)]
    dsimp only
    rw [run_batch]
  · rw [close_exit_bind]

end

/-- A script that is ended early is all that is run, whatever stands behind it. -/
theorem run_append_of_stopped (system : System σ) (s : Session) (t : σ) {first : Bytes} (second : Bytes)
    (h : first = [] ∨ first.getLast? = some Lines.newline)
    (hstop : ((s.executeAll (Lines.decode first)).run system t).1.2 ≠ .ok .continue) :
    (s.run .batch { bytes := first ++ second }).run system t = (s.run .batch { bytes := first }).run system t ∧
      (s.run .batch { bytes := first ++ second }).history system t =
        (s.run .batch { bytes := first }).history system t := by
  rw [run_batch, run_batch, runScript_append s h]
  simp only [runScript, Action.run_map, Action.history_map, Action.run_bind, Action.history_bind]
  generalize (s.executeAll (Lines.decode first)).run system t = r at hstop
  obtain ⟨⟨s', e | _ | _⟩, t'⟩ := r
  · exact ⟨rfl, rfl⟩
  · exact absurd rfl hstop
  · exact ⟨rfl, rfl⟩

/-- Running a script that is cut at the end of a line is running its lines up to the cut and then, unless they
were ended early, the rest as a script of its own. That is what the runs of the two parts in turn come to,
provided that the flush at the end of the first one has nothing to do; behind a part that was ended early nothing
is run at all. On surroundings whose output is held back at most until a flush the flush has indeed nothing to
do. A newline that is missing at the end of a script may as well be there. -/
theorem run_append (s : Session) :
    (∀ script, s.run .batch { bytes := script } = forgetFlow <$> s.runScript script) ∧
    (∀ first second : Bytes, first = [] ∨ first.getLast? = some Lines.newline →
      s.runScript (first ++ second) = (do
        match ← s.executeAll (Lines.decode first) with
        | (s', .ok .continue) => s'.runScript second
        | stopped => close stopped) ∧
      ∀ (σ : Type) (system : System σ) (t : σ), ClosesIdly system s (Lines.decode first) t →
        effects system (s.run .batch { bytes := first ++ second }) t =
          effects system (s.runInTurn first second) t ∧
        (((s.runScript first).run system t).1.2 ≠ .ok .continue →
          (s.run .batch { bytes := first ++ second }).run system t =
            (s.run .batch { bytes := first }).run system t ∧
          (s.run .batch { bytes := first ++ second }).history system t =
            (s.run .batch { bytes := first }).history system t)) ∧
    (∀ (σ : Type) (system : System σ) (idle : σ → Prop), Buffers system idle → ∀ t, idle t →
      ∀ lines, ClosesIdly system s lines t) ∧
    (∀ script : Bytes, script ≠ [] → script.getLast? ≠ some Lines.newline →
      s.run .batch { bytes := script ++ [Lines.newline] } = s.run .batch { bytes := script }) := by
  refine ⟨run_batch s, fun first second h => ⟨runScript_append s h, fun σ system t hclose => ?_⟩, ?_, ?_⟩
  · refine ⟨effects_append s h hclose, fun hstop => run_append_of_stopped system s t second h ?_⟩
    exact fun hcontinue => hstop (hclose.continues s hcontinue)
  · exact fun σ system idle hsys t ht lines => hsys.closesIdly s ht lines
  · intro script hne hlast
    rw [run_batch, run_batch, runScript_append_newline s hne hlast]

/-- The output of a machine holds nothing back. -/
theorem buffers_machine : Buffers Machine.system fun _ => True where
  flush_of_idle _ _ := rfl
  idle_of_flush _ _ := trivial
  idle_of_quiet _ _ _ _ := trivial

theorem run_append_machine :
    let s : Session := { config := { logDirectory := ⟨[]⟩ }, directory := ⟨[Path.slash]⟩ }
    let m : Machine := { tree := { entries := [] } }
    let first := Utf8.encode "which ls\nexit now\n"
    let second := Utf8.encode "which later"
    first.getLast? = some Lines.newline ∧ ClosesIdly Machine.system s (Lines.decode first) m ∧
      ((s.runScript first).run Machine.system m).1.2 ≠ .ok .continue ∧
      (s.run .batch { bytes := first ++ second }).run Machine.system m =
        (s.run .batch { bytes := first }).run Machine.system m ∧
      effects Machine.system (s.run .batch { bytes := first ++ second }) m =
        effects Machine.system (s.runInTurn first second) m ∧
      s.run .batch { bytes := second ++ [Lines.newline] } = s.run .batch { bytes := second } := by
  intro s m first second
  have hlast : first.getLast? = some Lines.newline := by decide +kernel
  have hexit : ((s.runScript first).run Machine.system m).1.2.toOption = some .exit := by decide +kernel
  have hstop : ((s.runScript first).run Machine.system m).1.2 ≠ .ok .continue := by
    intro hcontinue
    rw [hcontinue] at hexit
    cases hexit
  obtain ⟨-, happend, hidle, hnewline⟩ := run_append s
  have hclose : ClosesIdly Machine.system s (Lines.decode first) m := hidle _ _ _ buffers_machine m trivial _
  obtain ⟨heffects, hstopped⟩ := (happend first second (.inr hlast)).2 _ Machine.system m hclose
  exact ⟨hlast, hclose, hstop, (hstopped hstop).1, heffects, hnewline second (by decide +kernel) (by decide +kernel)⟩

/-- Surroundings in which each directory is there once the output has been flushed, and flushes go like this. -/
def awaiting (flushed : Except Fault Unit) : System Bool where
  answer r t := match r with
    | .flush .out => (flushed, true)
    | .canonicalize path => (if t then .ok path else .error (.os .enoent), t)
    | .examine _ => (.ok .directory, t)
    | .checkSearch _ => (.ok (), t)
    | r => ((Machine.system.answer r { tree := {} }).1, t)

/-- A first part that is closed by a flush which fails is not followed by the second one, though nothing has stopped it;
and a flush that does what has been held back may come too late for a line of the second part. -/
theorem run_append_unflushed :
    let s : Session := { config := { logDirectory := ⟨[]⟩ }, directory := .ofString "/a" }
    let second := Utf8.encode "cd /b\n"
    let torn := awaiting (.error (.os .epipe))
    let late := awaiting (.ok ())
    ((effects torn (s.run .batch { bytes := [] ++ second }) true).result.1.directory = .ofString "/b" ∧
      (effects torn (s.runInTurn [] second) true).result.1.directory = .ofString "/a") ∧
    (effects late (s.run .batch { bytes := [] ++ second }) false).result.1.directory = .ofString "/a" ∧
      (effects late (s.runInTurn [] second) false).result.1.directory = .ofString "/b" := by
  decide +kernel

end LineShell.Session
