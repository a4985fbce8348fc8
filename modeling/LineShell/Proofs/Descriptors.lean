import LineShell.Proofs.Launching
import Mathlib.Algebra.Order.Group.Multiset

/-!
What the shell has on its hands while it runs a plan: the descriptors that were opened and not closed, and
the children that were started and not waited for. Each launch gives back every descriptor that it got or
opened, on each of its courses, so nothing is held when the waiting begins; and each child is waited for
once, in the order of the starts.
-/

namespace LineShell
open LineShell.Action

/-! ### Descriptors in hand -/

/-- The descriptors that are handed to a program. -/
def Launch.handed (l : Launch) : List Descriptor := l.input.toList ++ l.output.toList

/-- What the shell holds after an event. It can only close, or hand on, what it holds. -/
def Event.hold (held : Multiset Descriptor) : Event → Option (Multiset Descriptor)
  | ⟨.makePipe, .ok (reader, writer)⟩ => some (reader ::ₘ writer ::ₘ held)
  | ⟨.openInput _, .ok d⟩ => some (d ::ₘ held)
  | ⟨.openOutput _, .ok d⟩ => some (d ::ₘ held)
  | ⟨.openAppend _, .ok d⟩ => some (d ::ₘ held)
  | ⟨.close d, _⟩ => if d ∈ held then some (held.erase d) else none
  | ⟨.spawn l, _⟩ => if ∀ d ∈ l.handed, d ∈ held then some held else none
  | _ => some held

/-- What the shell holds after some events. -/
def holding (held : Multiset Descriptor) (h : List Event) : Option (Multiset Descriptor) :=
  h.foldlM Event.hold held

/-- The descriptor that there may be, as a multiset. -/
def inHand (d : Option Descriptor) : Multiset Descriptor := d.toList

/-- The ends of a pipe that fell to a stage. -/
def PipeEnds.inHand (ends : PipeEnds) : Multiset Descriptor :=
  LineShell.inHand ends.input + LineShell.inHand ends.output

section
variable {held : Multiset Descriptor} {h k : List Event}

theorem holding_append : holding held (h ++ k) = (holding held h).bind fun held' => holding held' k :=
  List.foldlM_append

theorem holding_cons {e : Event} : holding held (e :: k) = (e.hold held).bind fun held' => holding held' k :=
  List.foldlM_cons

theorem holding_closing (d : Option Descriptor) : holding (inHand d + held) (closing d) = some held := by
  cases d with
  | none => simp [holding, closing, inHand]
  | some d => simp [holding, closing, inHand, Event.hold]

theorem holding_ends (ends : PipeEnds) : holding (ends.inHand + held) ends.closing = some held := by
  rw [PipeEnds.inHand, PipeEnds.closing, holding_append, add_assoc, holding_closing, Option.bind_some,
    holding_closing]

theorem hold_spawn {l : Launch} {answer : Except Fault Child} (hhanded : ∀ d ∈ l.handed, d ∈ held) :
    Event.hold held ⟨.spawn l, answer⟩ = some held := by
  simp only [Event.hold, if_pos hhanded]

end

namespace Stage

variable {s : Stage} {directory : Path} {ends : PipeEnds} {held : Multiset Descriptor} {kind : Redirect}
  {target : Option String} {h : List Event}

theorem holding_opened {own : Option Descriptor} (hopened : Opened directory kind target h own) :
    holding held h = some (inHand own + held) := by
  cases hopened with
  | none => simp [holding, inHand]
  | some t d => cases kind <;> simp [holding, inHand, opening, Event.hold]

theorem holding_refused {e : LaunchError} (hrefused : Refused directory kind target h e) :
    holding held h = some held := by
  cases hrefused with
  | mk t source => cases kind <;> simp [holding, opening, Event.hold]

theorem mem_ask {program : String} {args : List String} {ownInput ownOutput : Option Descriptor} {d : Descriptor}
    (hd : d ∈ (ask directory ends program args ownInput ownOutput).handed) :
    d ∈ inHand ownOutput + (inHand ownInput + (ends.inHand + held)) := by
  simp only [Launch.handed, ask, List.mem_append, Option.mem_toList, Option.orElse_eq_orElse,
    Option.orElse_eq_or, Option.or_eq_some_iff] at hd
  simp only [inHand, PipeEnds.inHand, Multiset.mem_add, Multiset.mem_coe, Option.mem_toList]
  tauto

/-- A start leaves the shell with what it held before. -/
theorem holding_started {r : Except LaunchError Child} (hstarted : s.Started directory ends h r) :
    holding (ends.inHand + held) h = some (ends.inHand + held) := by
  cases hstarted with
  | noProgram hargs => rfl
  | inputRefused hargs input => exact holding_refused input
  | outputRefused hargs input output =>
    rw [holding_append, holding_append, holding_opened input, Option.bind_some, holding_refused output,
      Option.bind_some, holding_closing]
  | asked answer hargs input output =>
    rw [holding_append, holding_append, holding_opened input, Option.bind_some, holding_opened output,
      Option.bind_some, holding_cons, hold_spawn fun d hd => mem_ask hd, Option.bind_some]
    -- The file that was opened first is closed first.
    rw [add_left_comm, holding_append, holding_closing, Option.bind_some, holding_closing]

/-- A launch gives back the ends of the pipe that fell to the stage. -/
theorem holding_launch (held : Multiset Descriptor) {r : Except LaunchError Child}
    (htrace : Trace (s.launch directory ends) h r) : holding (ends.inHand + held) h = some held := by
  obtain ⟨k, rfl, hstarted⟩ := trace_launch htrace
  rw [holding_append, holding_started hstarted, Option.bind_some, holding_ends]

end Stage

/-! ### Children -/

/-- The request is one to start a program. -/
def Request.isSpawn : Request → Bool
  | .spawn _ => true
  | _ => false

/-- The request is one to wait for a child. -/
def Request.isWait : Request → Bool
  | .wait _ => true
  | _ => false

/-- The child that an event started, if it started one. -/
def Event.child? : Event → Option Child
  | ⟨.spawn _, .ok child⟩ => some child
  | _ => none

/-- The children that some events started, in order. -/
def children (h : List Event) : List Child := h.filterMap Event.child?

/-- The event has nothing to do with children. -/
def Event.Aside (e : Event) : Prop := e.request.isSpawn = false ∧ e.request.isWait = false

theorem children_append (h k : List Event) : children (h ++ k) = children h ++ children k := List.filterMap_append

theorem children_aside {h : List Event} (haside : ∀ e ∈ h, e.Aside) : children h = [] := by
  rw [children, List.filterMap_eq_nil_iff]
  rintro ⟨request, answer⟩ he
  have hspawn := (haside _ he).1
  cases request <;> first | rfl | cases hspawn

theorem child?_spawn (l : Launch) (answer : Except Fault Child) :
    Event.child? ⟨.spawn l, answer⟩ = answer.toOption := by
  cases answer <;> rfl

theorem aside_closing (d : Option Descriptor) : ∀ e ∈ closing d, e.Aside := by
  cases d <;> simp [closing, Event.Aside, Request.isSpawn, Request.isWait]

/-! ### What a child is given -/

/-- A stream of a child is the file of its own redirect, opened before, if it has a redirect, and otherwise
what falls to it. -/
def Supplies (directory : Path) (kind : Redirect) (target : Option String) (before : List Event)
    (fallback given : Option Descriptor) : Prop :=
  match target with
  | none => given = fallback
  | some t => ∃ d, opening kind (directory.join (.ofString t)) (.ok d) ∈ before ∧ given = some d

namespace Stage

variable {s : Stage} {directory : Path} {ends : PipeEnds} {kind : Redirect} {target : Option String}
  {h : List Event}

/-- A redirect could not be opened. -/
def Hindered (h : List Event) : Prop := ∃ kind path source, opening kind path (.error source) ∈ h

/-- A stage asks for one program, which is given the streams of the stage, unless it names no program or
cannot open a redirect. -/
inductive Supplied (s : Stage) (directory : Path) (ends : PipeEnds) : List Event → Prop
  | unasked {h : List Event} (hspawn : ∀ e ∈ h, e.request.isSpawn = false) (hreason : s.args = [] ∨ Hindered h) :
    Supplied s directory ends h
  | asked {before after : List Event} {l : Launch} {answer : Except Fault Child}
    (hbefore : ∀ e ∈ before, e.request.isSpawn = false) (hafter : ∀ e ∈ after, e.request.isSpawn = false)
    (hinput : Supplies directory .input s.input before ends.input l.input)
    (houtput : Supplies directory .output s.output before ends.output l.output) :
    Supplied s directory ends (before ++ ⟨.spawn l, answer⟩ :: after)

theorem aside_opened {own : Option Descriptor} (hopened : Opened directory kind target h own) :
    ∀ e ∈ h, e.Aside := by
  cases hopened with
  | none => simp
  | some t d => cases kind <;> simp [opening, Event.Aside, Request.isSpawn, Request.isWait]

theorem aside_refused {e : LaunchError} (hrefused : Refused directory kind target h e) : ∀ e ∈ h, e.Aside := by
  cases hrefused with
  | mk t source => cases kind <;> simp [opening, Event.Aside, Request.isSpawn, Request.isWait]

theorem hindered_refused {e : LaunchError} (hrefused : Refused directory kind target h e) : Hindered h := by
  cases hrefused with
  | mk t source => exact ⟨kind, _, source, List.mem_singleton_self _⟩

theorem Hindered.mono {h k : List Event} (hindered : Hindered h) (hsub : h ⊆ k) : Hindered k := by
  obtain ⟨kind, path, source, hmem⟩ := hindered
  exact ⟨kind, path, source, hsub hmem⟩

theorem supplies_opened {before : List Event} {own fallback : Option Descriptor}
    (hopened : Opened directory kind target h own) (hbefore : ∀ e ∈ h, e ∈ before) :
    Supplies directory kind target before fallback (own <|> fallback) := by
  cases hopened with
  | none => rfl
  | some t d => exact ⟨d, hbefore _ (List.mem_singleton_self _), rfl⟩

/-- A launch does nothing to children, or it asks once for a program. -/
theorem launch_cases {r : Except LaunchError Child} (htrace : Trace (s.launch directory ends) h r) :
    ((∀ e ∈ h, e.Aside) ∧ (s.args = [] ∨ Hindered h) ∧ r.toOption = none) ∨
      ∃ before l answer after, h = before ++ ⟨.spawn l, answer⟩ :: after ∧ (∀ e ∈ before, e.Aside) ∧
        (∀ e ∈ after, e.Aside) ∧ Supplies directory .input s.input before ends.input l.input ∧
        Supplies directory .output s.output before ends.output l.output ∧ r.toOption = answer.toOption := by
  obtain ⟨k, rfl, hstarted⟩ := trace_launch htrace
  have hends : ∀ e ∈ ends.closing, e.Aside := List.forall_mem_append.mpr ⟨aside_closing _, aside_closing _⟩
  cases hstarted with
  | noProgram hargs => exact .inl ⟨hends, .inl hargs, rfl⟩
  | inputRefused hargs input =>
    have hindered := (hindered_refused input).mono (List.subset_append_left _ ends.closing)
    exact .inl ⟨List.forall_mem_append.mpr ⟨aside_refused input, hends⟩, .inr hindered, rfl⟩
  | @outputRefused program args h k ownInput e hargs input output =>
    have hopen := List.forall_mem_append.mpr ⟨aside_opened input, aside_refused output⟩
    have hclose := List.forall_mem_append.mpr ⟨hopen, aside_closing ownInput⟩
    have hindered : Hindered (h ++ k ++ closing ownInput ++ ends.closing) :=
      (hindered_refused output).mono fun e he => by simp [he]
    exact .inl ⟨List.forall_mem_append.mpr ⟨hclose, hends⟩, .inr hindered, rfl⟩
  | @asked program args h k ownInput ownOutput answer hargs input output =>
    have hbefore := List.forall_mem_append.mpr ⟨aside_opened input, aside_opened output⟩
    have hclose := List.forall_mem_append.mpr ⟨aside_closing ownInput, aside_closing ownOutput⟩
    have hafter := List.forall_mem_append.mpr ⟨hclose, hends⟩
    refine .inr ⟨h ++ k, _, answer, _, List.append_assoc .., hbefore, hafter, ?_, ?_, ?_⟩
    · exact supplies_opened input fun e he => List.mem_append_left _ he
    · exact supplies_opened output fun e he => List.mem_append_right _ he
    · cases answer <;> rfl

theorem supplied_launch {r : Except LaunchError Child} (htrace : Trace (s.launch directory ends) h r) :
    s.Supplied directory ends h := by
  rcases launch_cases htrace with ⟨haside, hreason, -⟩ |
    ⟨before, l, answer, after, rfl, hbefore, hafter, hinput, houtput, -⟩
  · exact .unasked (fun e he => (haside e he).1) hreason
  · exact .asked (fun e he => (hbefore e he).1) (fun e he => (hafter e he).1) hinput houtput

theorem children_launch {r : Except LaunchError Child} (htrace : Trace (s.launch directory ends) h r) :
    children h = r.toOption.toList := by
  rcases launch_cases htrace with ⟨haside, -, hr⟩ | ⟨before, l, answer, after, rfl, hbefore, hafter, -, -, hr⟩
  · rw [children_aside haside, hr, Option.toList_none]
  · rw [children_append, children_aside hbefore, List.nil_append, hr, ← child?_spawn l, children]
    rw [List.filterMap_cons, ← children, children_aside hafter]
    cases Event.child? ⟨.spawn l, answer⟩ <;> rfl

theorem noWait_launch {r : Except LaunchError Child} (htrace : Trace (s.launch directory ends) h r) :
    ∀ e ∈ h, e.request.isWait = false := by
  rcases launch_cases htrace with ⟨haside, -⟩ | ⟨before, l, answer, after, rfl, hbefore, hafter, -⟩
  · exact fun e he => (haside e he).2
  · intro e he
    rcases List.mem_append.mp he with he | he
    · exact (hbefore e he).2
    · rcases List.mem_cons.mp he with rfl | he
      · rfl
      · exact (hafter e he).2

end Stage

/-- A wait is for the child that was started, if one was. -/
theorem requests_await {started : Except LaunchError Child} {h : List Event} {ending : StageEnd}
    (htrace : Trace (StageEnd.await started) h ending) :
    h.map Event.request = started.toOption.toList.map Request.wait := by
  cases trace_await htrace <;> rfl

/-! ### Plans -/

namespace Plan

/-- Each stage of a plan is supplied: its input and its output come from its own redirects, else from the
pipe that joins it to the other stage, else from the shell. -/
inductive Supplied (p : Plan) (directory : Path) : List Event → Prop
  | single {h : List Event} (hplan : p.second = none) (hfirst : p.first.Supplied directory {} h) :
    Supplied p directory h
  | noPipe {second : Stage} (errno : Errno) (hplan : p.second = some second) :
    Supplied p directory [⟨.makePipe, .error errno⟩]
  | pipeline {second : Stage} {reader writer : Descriptor} {left right : List Event}
    (hplan : p.second = some second) (hfirst : p.first.Supplied directory { output := some writer } left)
    (hsecond : second.Supplied directory { input := some reader } right) :
    Supplied p directory (⟨.makePipe, .ok (reader, writer)⟩ :: (left ++ right))

variable {p : Plan} {directory : Path} {launching waiting : List Event} {o : Outcome}

theorem supplied_course (hcourse : p.Course directory launching waiting o) : p.Supplied directory launching := by
  cases hcourse with
  | single hplan hlaunch hwait => exact .single hplan (Stage.supplied_launch hlaunch)
  | noPipe errno hplan => exact .noPipe errno hplan
  | pipeline hplan hleft hright hleftWait hrightWait =>
    exact .pipeline hplan (Stage.supplied_launch hleft) (Stage.supplied_launch hright)

theorem noWait_course (hcourse : p.Course directory launching waiting o) :
    ∀ e ∈ launching, e.request.isWait = false := by
  cases hcourse with
  | single hplan hlaunch hwait => exact Stage.noWait_launch hlaunch
  | noPipe errno hplan => exact List.forall_mem_singleton.mpr rfl
  | pipeline hplan hleft hright hleftWait hrightWait =>
    have hstages := List.forall_mem_append.mpr ⟨Stage.noWait_launch hleft, Stage.noWait_launch hright⟩
    exact List.forall_mem_cons.mpr ⟨rfl, hstages⟩

theorem holding_course (hcourse : p.Course directory launching waiting o) (held : Multiset Descriptor) :
    holding held launching = some held := by
  cases hcourse with
  | single hplan hlaunch hwait =>
    have hfirst := Stage.holding_launch held hlaunch
    simpa [PipeEnds.inHand, inHand] using hfirst
  | noPipe errno hplan => rfl
  | @pipeline second reader writer left right _ _ _ _ _ _ hplan hleft hright hleftWait hrightWait =>
    have hfirst : holding (reader ::ₘ writer ::ₘ held) left = some (reader ::ₘ held) := by
      have hheld := Stage.holding_launch (reader ::ₘ held) hleft
      simpa [PipeEnds.inHand, inHand, Multiset.cons_swap] using hheld
    have hsecond : holding (reader ::ₘ held) right = some held := by
      have hheld := Stage.holding_launch held hright
      simpa [PipeEnds.inHand, inHand] using hheld
    rw [holding_cons, Event.hold, Option.bind_some, holding_append, hfirst, Option.bind_some, hsecond]

theorem requests_course (hcourse : p.Course directory launching waiting o) :
    waiting.map Event.request = (children launching).map Request.wait := by
  cases hcourse with
  | single hplan hlaunch hwait => rw [requests_await hwait, Stage.children_launch hlaunch]
  | noPipe errno hplan => rfl
  | @pipeline second reader writer left right _ _ _ _ _ _ hplan hleft hright hleftWait hrightWait =>
    show _ = (children (left ++ right)).map Request.wait
    rw [children_append, Stage.children_launch hleft, Stage.children_launch hright, List.map_append,
      List.map_append, requests_await hleftWait, requests_await hrightWait]

/-- A plan first starts its stages and then waits. When the waiting begins, the shell holds exactly what it
held before the plan; then it waits once for each child that it started, in order. -/
theorem run_releases_and_waits {σ : Type} (p : Plan) (directory : Path) (system : System σ) (t : σ) :
    ∃ launching waiting, (p.run directory).history system t = launching ++ waiting ∧
      (∀ e ∈ launching, e.request.isWait = false) ∧ p.Supplied directory launching ∧
      (∀ held, holding held launching = some held) ∧
      waiting.map Event.request = (children launching).map Request.wait := by
  obtain ⟨launching, waiting, hhistory, hcourse⟩ := trace_run_plan (trace_run system (p.run directory) t)
  exact ⟨launching, waiting, hhistory, noWait_course hcourse, supplied_course hcourse, holding_course hcourse,
    requests_course hcourse⟩

end Plan
end LineShell
