import LineShell.Proofs.Launching
import Mathlib.Tactic.SplitIfs

/-!
How a plan ends and what it reports. The failures of a stage are read off the events: a redirect that cannot
be opened, a program that is refused, a wait that fails; and a stage without a program fails without any
event. On each of its courses a stage meets at most one failure, which decides its status; a stage that
meets none ends as its child does. A pipeline takes the status of its second stage, which goes its way as it
would alone, whatever becomes of the first.
-/

namespace LineShell
open LineShell.Action

/-! ### Failures -/

/-- The number that a stage ends with when it fails this way. -/
def LaunchError.code : LaunchError → Nat
  | .notFound _ => 127
  | .permissionDenied _ => 126
  | _ => 1

/-- The failure that an event is when a program is launched, if it is one. -/
def Event.launchFailure? (program : String) : Event → Option LaunchError
  | ⟨.openInput path, .error source⟩ => some (.redirect path source)
  | ⟨.openOutput path, .error source⟩ => some (.redirect path source)
  | ⟨.spawn _, .error source⟩ =>
    if source = .os .enoent then some (.notFound program)
    else if source ∈ [.os .eacces, .os .eperm] then some (.permissionDenied program)
    else some (.spawn program source)
  | _ => none

/-- The failure that an event is when a child is waited for, if it is one. -/
def Event.waitFailure? : Event → Option LaunchError
  | ⟨.wait _, .error source⟩ => some (.wait source)
  | _ => none

/-- The failures met when a child is waited for. -/
def waitFailures (h : List Event) : List LaunchError := h.filterMap Event.waitFailure?

theorem LaunchError.status_eq (e : LaunchError) : e.status = .ofShell e.code := by
  cases e <;> rfl

theorem launchFailure?_spawn (program : String) (l : Launch) (source : Fault) :
    Event.launchFailure? program ⟨.spawn l, .error source⟩ = some (LaunchError.ofSpawn program source) := by
  simp only [Event.launchFailure?, LaunchError.ofSpawn, List.mem_cons, List.not_mem_nil, or_false]
  split_ifs <;> rfl

theorem launchFailures_closing (program : String) (d : Option Descriptor) :
    (closing d).filterMap (Event.launchFailure? program) = [] := by
  cases d <;> rfl

namespace Stage

/-- The failures met when a stage is launched. -/
def launchFailures (s : Stage) (h : List Event) : List LaunchError :=
  match s.args with
  | [] => [.emptyCommand]
  | program :: _ => h.filterMap (Event.launchFailure? program)

variable {s : Stage} {directory : Path} {ends : PipeEnds} {kind : Redirect} {target : Option String}
  {h : List Event} {program : String}

theorem launchFailures_eq {args : List String} (hargs : s.args = program :: args) :
    s.launchFailures h = h.filterMap (Event.launchFailure? program) := by
  rw [launchFailures, hargs]

theorem launchFailures_opened {own : Option Descriptor} (hopened : Opened directory kind target h own) :
    h.filterMap (Event.launchFailure? program) = [] := by
  cases hopened with
  | none => rfl
  | some t d => cases kind <;> rfl

theorem launchFailures_refused {e : LaunchError} (hrefused : Refused directory kind target h e) :
    h.filterMap (Event.launchFailure? program) = [e] := by
  cases hrefused with
  | mk t source => cases kind <;> rfl

/-- A launch fails for the one failure that it meets. -/
theorem launchFailures_launch {started : Except LaunchError Child}
    (htrace : Trace (s.launch directory ends) h started) : s.launchFailures h = Plan.launchFailure started := by
  obtain ⟨k, rfl, hstarted⟩ := trace_launch htrace
  have hends (program : String) : ends.closing.filterMap (Event.launchFailure? program) = [] := by
    rw [PipeEnds.closing, List.filterMap_append, launchFailures_closing, launchFailures_closing, List.append_nil]
  cases hstarted with
  | noProgram hargs => rw [launchFailures, hargs, Plan.launchFailure]
  | inputRefused hargs input =>
    rw [launchFailures_eq hargs, List.filterMap_append, launchFailures_refused input, hends, List.append_nil,
      Plan.launchFailure]
  | outputRefused hargs input output =>
    rw [launchFailures_eq hargs, List.filterMap_append, List.filterMap_append, List.filterMap_append,
      launchFailures_opened input, launchFailures_refused output, launchFailures_closing, hends]
    rfl
  | @asked program args h k ownInput ownOutput answer hargs input output =>
    rw [launchFailures_eq hargs, List.filterMap_append, List.filterMap_append, List.filterMap_append,
      launchFailures_opened input, launchFailures_opened output, hends, List.filterMap_cons, List.filterMap_append,
      launchFailures_closing, launchFailures_closing]
    cases answer with
    | error source =>
      rw [launchFailure?_spawn]
      rfl
    | ok child => rfl

/-- A launch results in the child that was started. -/
theorem spawn_mem_launch {child : Child} (htrace : Trace (s.launch directory ends) h (.ok child)) :
    ∃ l, ⟨.spawn l, .ok child⟩ ∈ h := by
  obtain ⟨k, rfl, hstarted⟩ := trace_launch htrace
  generalize hr : (Except.ok child : Except LaunchError Child) = r at hstarted
  cases hstarted with
  | asked answer hargs input output =>
    cases answer with
    | error source => cases hr
    | ok child' =>
      cases hr
      exact ⟨_, List.mem_append_left _ (List.mem_append_right _ List.mem_cons_self)⟩
  | _ => cases hr

/-! ### The end of a stage -/

/-- How a stage ends: with the number of the one failure that it met, or without any as its child did. -/
inductive Ends (s : Stage) (launching waiting : List Event) : Status → Prop
  | failed {e : LaunchError} (hfailure : s.launchFailures launching ++ waitFailures waiting = [e]) :
    Ends s launching waiting (.ofShell e.code)
  | ended {l : Launch} {child : Child} {w : WaitStatus}
    (hfailure : s.launchFailures launching ++ waitFailures waiting = [])
    (hstart : ⟨.spawn l, .ok child⟩ ∈ launching) (hwait : waiting = [⟨.wait child, .ok w⟩]) :
    Ends s launching waiting (.ofProgram w)

/-- A stage that is launched and waited for by itself. -/
def alone (s : Stage) (directory : Path) (ends : PipeEnds) : Action Outcome := do
  let started ← s.launch directory ends
  let ending ← StageEnd.await started
  pure ⟨ending.status, Plan.launchFailure started ++ ending.failure.toList⟩

variable {launching waiting : List Event} {started : Except LaunchError Child} {ending : StageEnd}

theorem waitFailures_await (htrace : Trace (StageEnd.await started) waiting ending) :
    waitFailures waiting = ending.failure.toList := by
  cases trace_await htrace <;> rfl

theorem ends_await (hlaunch : Trace (s.launch directory ends) launching started)
    (hwait : Trace (StageEnd.await started) waiting ending) : s.Ends launching waiting ending.status := by
  have hlaunching := launchFailures_launch hlaunch
  have hwaiting := waitFailures_await hwait
  cases trace_await hwait with
  | notStarted e =>
    rw [e.status_eq]
    exact .failed (by rw [hlaunching, hwaiting]; rfl)
  | ended child w =>
    obtain ⟨l, hl⟩ := spawn_mem_launch hlaunch
    exact .ended (by rw [hlaunching, hwaiting]; rfl) hl rfl
  | lost child source =>
    have hfailure : s.launchFailures launching ++ waitFailures [⟨.wait child, .error source⟩] = [.wait source] := by
      rw [hlaunching, hwaiting]
      rfl
    exact .failed hfailure

theorem trace_alone (hlaunch : Trace (s.launch directory ends) launching started)
    (hwait : Trace (StageEnd.await started) waiting ending) :
    Trace (s.alone directory ends) (launching ++ waiting)
      ⟨ending.status, s.launchFailures launching ++ waitFailures waiting⟩ := by
  rw [launchFailures_launch hlaunch, waitFailures_await hwait]
  refine trace_bind.mpr ⟨_, started, waiting, hlaunch, trace_bind.mpr ⟨waiting, ending, [], hwait, ?_, ?_⟩, rfl⟩
  · exact trace_pure.mpr ⟨rfl, rfl⟩
  · rw [List.append_nil]

end Stage

/-! ### Plans -/

namespace Plan

/-- How a plan ends. Its failures are those of its launches and then those of its waits, each in the order
of the stages; its status is that of its last stage. -/
inductive Settled (p : Plan) (directory : Path) : List Event → Outcome → Prop
  | single {launching waiting : List Event} {status : Status} (hplan : p.second = none)
    (hends : p.first.Ends launching waiting status) :
    Settled p directory (launching ++ waiting) ⟨status, p.first.launchFailures launching ++ waitFailures waiting⟩
  | noPipe {second : Stage} (errno : Errno) (hplan : p.second = some second) :
    Settled p directory [⟨.makePipe, .error errno⟩] ⟨.ofShell 1, [.pipe errno]⟩
  | pipeline {second : Stage} {reader writer : Descriptor} {left right leftWait rightWait : List Event}
    {firstStatus status : Status} (hplan : p.second = some second)
    (hfirst : p.first.Ends left leftWait firstStatus) (hsecond : second.Ends right rightWait status)
    (hfirstAlone : Trace (p.first.alone directory { output := some writer }) (left ++ leftWait)
      ⟨firstStatus, p.first.launchFailures left ++ waitFailures leftWait⟩)
    (hsecondAlone : Trace (second.alone directory { input := some reader }) (right ++ rightWait)
      ⟨status, second.launchFailures right ++ waitFailures rightWait⟩) :
    Settled p directory (⟨.makePipe, .ok (reader, writer)⟩ :: (left ++ right ++ (leftWait ++ rightWait)))
      ⟨status, p.first.launchFailures left ++ second.launchFailures right ++ waitFailures leftWait ++
        waitFailures rightWait⟩

theorem settled_course {p : Plan} {directory : Path} {launching waiting : List Event} {o : Outcome}
    (hcourse : p.Course directory launching waiting o) : p.Settled directory (launching ++ waiting) o := by
  cases hcourse with
  | single hplan hlaunch hwait =>
    rw [← Stage.launchFailures_launch hlaunch, ← Stage.waitFailures_await hwait]
    exact .single hplan (Stage.ends_await hlaunch hwait)
  | noPipe errno hplan => exact .noPipe errno hplan
  | pipeline hplan hleft hright hleftWait hrightWait =>
    rw [← Stage.launchFailures_launch hleft, ← Stage.launchFailures_launch hright,
      ← Stage.waitFailures_await hleftWait, ← Stage.waitFailures_await hrightWait]
    exact .pipeline hplan (Stage.ends_await hleft hleftWait) (Stage.ends_await hright hrightWait)
      (Stage.trace_alone hleft hleftWait) (Stage.trace_alone hright hrightWait)

/-- Whatever the answers are, a plan reports exactly the failures that it meets, in order, and its status is
decided by its last stage alone. -/
theorem run_settles {σ : Type} (p : Plan) (directory : Path) (system : System σ) (t : σ) :
    p.Settled directory ((p.run directory).history system t) ((p.run directory).run system t).1 := by
  obtain ⟨launching, waiting, hhistory, hcourse⟩ := trace_run_plan (trace_run system (p.run directory) t)
  rw [hhistory]
  exact settled_course hcourse

end Plan
end LineShell
