import LineShell.Launch
import LineShell.Proofs.History

/-!
What running a plan does, event by event. Whatever the answers are, a launch takes one of four courses: the
stage has no program, its input cannot be opened, its output cannot be opened, or its program is started or
refused. A stage that was started is waited for once. Everything else about plans is read off these courses.
-/

namespace LineShell
open LineShell.Action

/-- The event of closing a descriptor, if there is one. -/
def closing (d : Option Descriptor) : List Event := d.toList.map fun d => ⟨.close d, ()⟩

/-- The event of opening the file of a redirect. -/
def opening : Redirect → Path → Except Fault Descriptor → Event
  | .input, path, answer => ⟨.openInput path, answer⟩
  | .output, path, answer => ⟨.openOutput path, answer⟩

/-- The events of closing the ends of a pipe that fell to a stage. -/
def PipeEnds.closing (ends : PipeEnds) : List Event := LineShell.closing ends.input ++ LineShell.closing ends.output

namespace Stage

/-! ### Redirects -/

/-- The file of a redirect, if there is one, has been opened as the given descriptor. -/
inductive Opened (directory : Path) (kind : Redirect) : Option String → List Event → Option Descriptor → Prop
  | none : Opened directory kind none [] none
  | some (t : String) (d : Descriptor) :
    Opened directory kind (some t) [opening kind (directory.join (.ofString t)) (.ok d)] (some d)

/-- The file of a redirect cannot be opened. -/
inductive Refused (directory : Path) (kind : Redirect) : Option String → List Event → LaunchError → Prop
  | mk (t : String) (source : Fault) :
    Refused directory kind (some t) [opening kind (directory.join (.ofString t)) (.error source)]
      (.redirect (directory.join (.ofString t)) source)

theorem trace_closeIfAny {d : Option Descriptor} {h : List Event} {u : Unit} :
    Trace (closeIfAny d) h u ↔ h = closing d := by
  cases d with
  | none =>
    rw [closeIfAny, trace_pure]
    simp [closing]
  | some d => exact trace_request

theorem trace_closeIfAny_bind {α : Type} {d : Option Descriptor} {f : Unit → Action α} {h : List Event} {a : α} :
    Trace (closeIfAny d >>= f) h a ↔ ∃ k, Trace (f ()) k a ∧ h = closing d ++ k := by
  simp only [trace_bind, trace_closeIfAny]
  constructor
  · rintro ⟨h₁, _, k, rfl, hrest, rfl⟩
    exact ⟨k, hrest, rfl⟩
  · rintro ⟨k, hrest, rfl⟩
    exact ⟨_, (), k, rfl, hrest, rfl⟩

theorem trace_openRedirect {directory : Path} {target : Option String} {kind : Redirect} {h : List Event}
    {r : Except LaunchError (Option Descriptor)} (htrace : Trace (openRedirect directory target kind) h r) :
    (∃ own, r = .ok own ∧ Opened directory kind target h own) ∨
      ∃ e, r = .error e ∧ Refused directory kind target h e := by
  cases target with
  | none =>
    obtain ⟨rfl, rfl⟩ := trace_pure.mp htrace
    exact .inl ⟨none, rfl, .none⟩
  | some t =>
    have hcourse : ∃ answer, h = [opening kind (directory.join (.ofString t)) answer] ∧
        ((∃ d, answer = .ok d ∧ r = .ok (some d)) ∨
          ∃ source, answer = .error source ∧ r = .error (.redirect (directory.join (.ofString t)) source)) := by
      cases kind <;>
        · obtain ⟨answer, k, hrest, rfl⟩ := trace_request_bind.mp htrace
          refine ⟨answer, ?_⟩
          obtain source | d := answer <;> obtain ⟨rfl, rfl⟩ := trace_pure.mp hrest
          · exact ⟨rfl, .inr ⟨source, rfl, rfl⟩⟩
          · exact ⟨rfl, .inl ⟨d, rfl, rfl⟩⟩
    obtain ⟨answer, rfl, ⟨d, rfl, rfl⟩ | ⟨source, rfl, rfl⟩⟩ := hcourse
    · exact .inl ⟨some d, rfl, .some t d⟩
    · exact .inr ⟨_, rfl, .mk t source⟩

/-! ### Starts and launches -/

/-- What a stage asks to be started, with the descriptors that were opened for it. -/
def ask (directory : Path) (ends : PipeEnds) (program : String) (args : List String)
    (ownInput ownOutput : Option Descriptor) : Launch where
  program := programPath directory program
  args := args
  directory := directory
  input := ownInput <|> ends.input
  output := ownOutput <|> ends.output

/-- The four courses of a start: what happens, and what comes of it. -/
inductive Started (s : Stage) (directory : Path) (ends : PipeEnds) :
    List Event → Except LaunchError Child → Prop
  | noProgram (hargs : s.args = []) : Started s directory ends [] (.error .emptyCommand)
  | inputRefused {program : String} {args : List String} {h : List Event} {e : LaunchError}
    (hargs : s.args = program :: args) (input : Refused directory .input s.input h e) :
    Started s directory ends h (.error e)
  | outputRefused {program : String} {args : List String} {h k : List Event} {ownInput : Option Descriptor}
    {e : LaunchError} (hargs : s.args = program :: args) (input : Opened directory .input s.input h ownInput)
    (output : Refused directory .output s.output k e) :
    Started s directory ends (h ++ k ++ closing ownInput) (.error e)
  | asked {program : String} {args : List String} {h k : List Event} {ownInput ownOutput : Option Descriptor}
    (answer : Except Fault Child) (hargs : s.args = program :: args)
    (input : Opened directory .input s.input h ownInput) (output : Opened directory .output s.output k ownOutput) :
    Started s directory ends
      (h ++ k ++ ⟨.spawn (ask directory ends program args ownInput ownOutput), answer⟩ ::
        (closing ownInput ++ closing ownOutput))
      (answer.mapError (LaunchError.ofSpawn program))

variable {s : Stage} {directory : Path} {ends : PipeEnds} {h : List Event} {r : Except LaunchError Child}

theorem trace_start (htrace : Trace (s.start directory ends) h r) : s.Started directory ends h r := by
  rw [start] at htrace
  cases hargs : s.args with
  | nil =>
    rw [hargs] at htrace
    obtain ⟨rfl, rfl⟩ := trace_pure.mp htrace
    exact .noProgram hargs
  | cons program args =>
    rw [hargs] at htrace
    obtain ⟨h₁, input, h', hinput, rest₁, rfl⟩ := trace_bind.mp htrace
    rcases trace_openRedirect hinput with ⟨ownInput, rfl, hopened⟩ | ⟨e, rfl, hrefused⟩
    · obtain ⟨h₂, output, h'', houtput, rest₂, rfl⟩ := trace_bind.mp rest₁
      rcases trace_openRedirect houtput with ⟨ownOutput, rfl, hopened'⟩ | ⟨e, rfl, hrefused⟩
      · obtain ⟨answer, h₃, rest₃, rfl⟩ := trace_request_bind.mp rest₂
        obtain ⟨h₄, rest₄, rfl⟩ := trace_closeIfAny_bind.mp rest₃
        obtain ⟨h₅, rest₅, rfl⟩ := trace_closeIfAny_bind.mp rest₄
        have hrest : h₅ = [] ∧ r = answer.mapError (LaunchError.ofSpawn program) := by
          cases answer with
          | error source => exact trace_pure.mp rest₅
          | ok child => exact trace_pure.mp rest₅
        obtain ⟨rfl, rfl⟩ := hrest
        have hcourse : s.Started directory ends _ _ := .asked answer hargs hopened hopened'
        simpa [ask] using hcourse
      · obtain ⟨h₃, rest₃, rfl⟩ := trace_closeIfAny_bind.mp rest₂
        obtain ⟨rfl, rfl⟩ := trace_pure.mp rest₃
        have hcourse : s.Started directory ends _ _ := .outputRefused hargs hopened hrefused
        simpa using hcourse
    · obtain ⟨rfl, rfl⟩ := trace_pure.mp rest₁
      rw [List.append_nil]
      exact .inputRefused hargs hrefused

/-- A launch is a start, after which the ends of the pipe that fell to the stage are closed. -/
theorem trace_launch (htrace : Trace (s.launch directory ends) h r) :
    ∃ k, h = k ++ ends.closing ∧ s.Started directory ends k r := by
  obtain ⟨h₁, started, h', hstart, rest₁, rfl⟩ := trace_bind.mp htrace
  obtain ⟨h₂, rest₂, rfl⟩ := trace_closeIfAny_bind.mp rest₁
  obtain ⟨h₃, rest₃, rfl⟩ := trace_closeIfAny_bind.mp rest₂
  obtain ⟨rfl, rfl⟩ := trace_pure.mp rest₃
  refine ⟨h₁, ?_, trace_start hstart⟩
  simp [PipeEnds.closing]

end Stage

/-! ### Waits -/

/-- A stage that was not started is not waited for; one that was started is waited for once. -/
inductive Awaited : Except LaunchError Child → List Event → StageEnd → Prop
  | notStarted (e : LaunchError) : Awaited (.error e) [] ⟨e.status, none⟩
  | ended (child : Child) (w : WaitStatus) : Awaited (.ok child) [⟨.wait child, .ok w⟩] ⟨.ofProgram w, none⟩
  | lost (child : Child) (source : Fault) :
    Awaited (.ok child) [⟨.wait child, .error source⟩] ⟨.failure, some (.wait source)⟩

theorem trace_await {started : Except LaunchError Child} {h : List Event} {ending : StageEnd}
    (htrace : Trace (StageEnd.await started) h ending) : Awaited started h ending := by
  cases started with
  | error e =>
    obtain ⟨rfl, rfl⟩ := trace_pure.mp htrace
    exact .notStarted e
  | ok child =>
    obtain ⟨answer, k, rest, rfl⟩ := trace_request_bind.mp htrace
    cases answer with
    | error source =>
      obtain ⟨rfl, rfl⟩ := trace_pure.mp rest
      exact .lost child source
    | ok w =>
      obtain ⟨rfl, rfl⟩ := trace_pure.mp rest
      exact .ended child w

/-! ### Plans -/

namespace Plan

/-- The three courses of a plan: what happens before the first wait, what happens from then on, and the
outcome. -/
inductive Course (p : Plan) (directory : Path) : List Event → List Event → Outcome → Prop
  | single {launching waiting : List Event} {started : Except LaunchError Child} {ending : StageEnd}
    (hplan : p.second = none) (hlaunch : Trace (p.first.launch directory {}) launching started)
    (hwait : Trace (StageEnd.await started) waiting ending) :
    Course p directory launching waiting ⟨ending.status, launchFailure started ++ ending.failure.toList⟩
  | noPipe {second : Stage} (errno : Errno) (hplan : p.second = some second) :
    Course p directory [⟨.makePipe, .error errno⟩] [] ⟨.failure, [.pipe errno]⟩
  | pipeline {second : Stage} {reader writer : Descriptor} {left right leftWait rightWait : List Event}
    {first' second' : Except LaunchError Child} {firstEnd secondEnd : StageEnd} (hplan : p.second = some second)
    (hleft : Trace (p.first.launch directory { output := some writer }) left first')
    (hright : Trace (second.launch directory { input := some reader }) right second')
    (hleftWait : Trace (StageEnd.await first') leftWait firstEnd)
    (hrightWait : Trace (StageEnd.await second') rightWait secondEnd) :
    Course p directory (⟨.makePipe, .ok (reader, writer)⟩ :: (left ++ right)) (leftWait ++ rightWait)
      ⟨secondEnd.status, launchFailure first' ++ launchFailure second' ++ firstEnd.failure.toList ++
        secondEnd.failure.toList⟩

theorem trace_run_plan {p : Plan} {directory : Path} {h : List Event} {o : Outcome}
    (htrace : Trace (p.run directory) h o) :
    ∃ launching waiting, h = launching ++ waiting ∧ p.Course directory launching waiting o := by
  rw [run] at htrace
  cases hplan : p.second with
  | none =>
    rw [hplan] at htrace
    obtain ⟨launching, started, h', hlaunch, rest₁, rfl⟩ := trace_bind.mp htrace
    obtain ⟨waiting, ending, h'', hwait, rest₂, rfl⟩ := trace_bind.mp rest₁
    obtain ⟨rfl, rfl⟩ := trace_pure.mp rest₂
    refine ⟨launching, waiting, ?_, .single hplan hlaunch hwait⟩
    rw [List.append_nil]
  | some second =>
    rw [hplan] at htrace
    obtain ⟨pipe, k, rest₁, rfl⟩ := trace_request_bind.mp htrace
    rcases pipe with errno | ⟨reader, writer⟩
    · obtain ⟨rfl, rfl⟩ := trace_pure.mp rest₁
      exact ⟨_, [], rfl, .noPipe errno hplan⟩
    · obtain ⟨left, first', h₂, hleft, rest₂, rfl⟩ := trace_bind.mp rest₁
      obtain ⟨right, second', h₃, hright, rest₃, rfl⟩ := trace_bind.mp rest₂
      obtain ⟨leftWait, firstEnd, h₄, hleftWait, rest₄, rfl⟩ := trace_bind.mp rest₃
      obtain ⟨rightWait, secondEnd, h₅, hrightWait, rest₅, rfl⟩ := trace_bind.mp rest₄
      obtain ⟨rfl, rfl⟩ := trace_pure.mp rest₅
      refine ⟨_, _, ?_, .pipeline hplan hleft hright hleftWait hrightWait⟩
      simp

end Plan
end LineShell
