import LineShell.Proofs.Descriptors

/-!
What running a plan does to files. The shell itself creates or truncates nothing but the targets of output
redirects. A stage comes to its output only behind its own program name and its own input, and it comes to
its program only behind its output; the other stage has no part in this.
-/

namespace LineShell
open LineShell.Action

/-! ### The paths that are tried -/

/-- The path that a request opens to read from, or that it creates or truncates. What a started program does
is no matter of the request. -/
def Request.path? : Redirect → Request → Option Path
  | .input, .openInput path => some path
  | .output, .openOutput path => some path
  | .output, .openAppend path => some path
  | .output, .createDirectory path => some path
  | _, _ => none

/-- The paths that some events try to read from, or to create or truncate, in order. -/
def tried (kind : Redirect) (h : List Event) : List Path := h.filterMap fun e => e.request.path? kind

/-- Where a redirect leads from a directory, if there is one. -/
def Path.along (directory : Path) (target : Option String) : List Path :=
  target.toList.map fun t => directory.join (.ofString t)

/-- The file of a redirect, if there is one, has been opened. -/
def Served (directory : Path) (kind : Redirect) (target : Option String) (h : List Event) : Prop :=
  ∀ t ∈ target, ∃ d, opening kind (directory.join (.ofString t)) (.ok d) ∈ h

section
variable {h k : List Event} {directory : Path} {kind kind' : Redirect} {target : Option String}

theorem tried_append : tried kind (h ++ k) = tried kind h ++ tried kind k := List.filterMap_append

theorem tried_closing (d : Option Descriptor) : tried kind (closing d) = [] := by
  cases d <;> cases kind <;> rfl

theorem tried_ends (ends : PipeEnds) : tried kind ends.closing = [] := by
  rw [PipeEnds.closing, tried_append, tried_closing, tried_closing, List.append_nil]

theorem tried_spawn (l : Launch) (answer : Except Fault Child) :
    tried kind (⟨.spawn l, answer⟩ :: h) = tried kind h := by
  cases kind <;> rfl

theorem tried_opening {path : Path} {answer : Except Fault Descriptor} :
    tried kind' [opening kind path answer] = if kind' = kind then [path] else [] := by
  cases kind <;> cases kind' <;> rfl

theorem tried_waits (hwaits : ∀ e ∈ h, e.request.isWait = true) : tried kind h = [] := by
  rw [tried, List.filterMap_eq_nil_iff]
  rintro ⟨request, answer⟩ he
  have hwait := hwaits _ he
  cases request <;> cases kind <;> first | rfl | cases hwait

theorem Served.mono (hserved : Served directory kind target h) (hsub : h ⊆ k) :
    Served directory kind target k := by
  intro t ht
  obtain ⟨d, hd⟩ := hserved t ht
  exact ⟨d, hsub hd⟩

end

namespace Stage

variable {s : Stage} {directory : Path} {ends : PipeEnds} {kind kind' : Redirect} {target : Option String}
  {h : List Event}

theorem tried_opened {own : Option Descriptor} (hopened : Opened directory kind target h own) :
    tried kind' h = if kind' = kind then directory.along target else [] := by
  cases hopened with
  | none => cases kind <;> cases kind' <;> rfl
  | some t d => exact tried_opening

theorem tried_refused {e : LaunchError} (hrefused : Refused directory kind target h e) :
    tried kind' h = if kind' = kind then directory.along target else [] := by
  cases hrefused with
  | mk t source => exact tried_opening

theorem served_opened {own : Option Descriptor} (hopened : Opened directory kind target h own) :
    Served directory kind target h := by
  cases hopened with
  | none => simp [Served]
  | some t d =>
    rintro _ ⟨⟩
    exact ⟨d, List.mem_singleton_self _⟩

/-- A file that is refused has not been opened, if nothing before and after tries one of its kind. -/
theorem not_served_refused {e : LaunchError} {before after : List Event}
    (hrefused : Refused directory kind target h e) (hbefore : tried kind before = [])
    (hafter : tried kind after = []) : ¬Served directory kind target (before ++ h ++ after) := by
  cases hrefused with
  | mk t source =>
    intro hserved
    obtain ⟨d, hd⟩ := hserved t rfl
    have hout : ∀ events : List Event, tried kind events = [] →
        opening kind (directory.join (.ofString t)) (.ok d) ∉ events := by
      intro events hevents hmem
      have hnone := List.filterMap_eq_nil_iff.mp hevents _ hmem
      cases kind <;> cases hnone
    rcases List.mem_append.mp hd with hd | hd
    · rcases List.mem_append.mp hd with hd | hd
      · exact hout before hbefore hd
      · have hsame := List.mem_singleton.mp hd
        cases kind <;> cases hsame
    · exact hout after hafter hd

/-! ### Stages -/

/-- The stage names a program, and its input has been opened if it is a file. -/
def Ready (s : Stage) (directory : Path) (h : List Event) : Prop :=
  s.args ≠ [] ∧ Served directory .input s.input h

theorem Ready.mono {k : List Event} (hready : s.Ready directory h) (hsub : h ⊆ k) :
    s.Ready directory k :=
  ⟨hready.1, hready.2.mono hsub⟩

/-- How a stage treats files. It tries its input just if it names a program, and its output just if it is
ready. It asks once for its program if its output has been opened by then, and otherwise not at all. -/
structure Treats (s : Stage) (directory : Path) (h : List Event) : Prop where
  input : tried .input h = if s.args = [] then [] else directory.along s.input
  output : s.Ready directory h → tried .output h = directory.along s.output
  untouched : ¬s.Ready directory h → tried .output h = []
  asked : s.Ready directory h → Served directory .output s.output h →
    ∃ before l answer after, h = before ++ ⟨.spawn l, answer⟩ :: after ∧ s.Ready directory before ∧
      Served directory .output s.output before ∧ ∀ e ∈ before ++ after, e.request.isSpawn = false
  unasked : ¬(s.Ready directory h ∧ Served directory .output s.output h) → ∀ e ∈ h, e.request.isSpawn = false

theorem treats_of_not_ready (hready : ¬s.Ready directory h) (haside : ∀ e ∈ h, e.Aside)
    (hinput : tried .input h = if s.args = [] then [] else directory.along s.input)
    (houtput : tried .output h = []) : s.Treats directory h where
  input := hinput
  output h := absurd h hready
  untouched _ := houtput
  asked h := absurd h hready
  unasked _ := fun e he => (haside e he).1

theorem treats_launch {r : Except LaunchError Child} (htrace : Trace (s.launch directory ends) h r) :
    s.Treats directory h := by
  obtain ⟨k, rfl, hstarted⟩ := trace_launch htrace
  have hends : ∀ e ∈ ends.closing, e.Aside := List.forall_mem_append.mpr ⟨aside_closing _, aside_closing _⟩
  cases hstarted with
  | noProgram hargs =>
    refine treats_of_not_ready (fun hready => hready.1 hargs) hends ?_ (tried_ends ends)
    rw [if_pos hargs]
    exact tried_ends ends
  | inputRefused hargs input =>
    have hne : s.args ≠ [] := by simp [hargs]
    have haside := List.forall_mem_append.mpr ⟨aside_refused input, hends⟩
    have hunserved : ¬Served directory .input s.input ([] ++ _ ++ ends.closing) :=
      not_served_refused input rfl (tried_ends ends)
    refine treats_of_not_ready (fun hready => hunserved hready.2) haside ?_ ?_
    · simp [tried_append, tried_ends, tried_refused input, hne]
    · simp [tried_append, tried_ends, tried_refused input]
  | @outputRefused program args h k ownInput e hargs input output =>
    have hne : s.args ≠ [] := by simp [hargs]
    have hinput : Served directory .input s.input (h ++ (k ++ (closing ownInput ++ ends.closing))) :=
      (served_opened input).mono (List.subset_append_left h _)
    have hearlier : tried .output h = [] := tried_opened input
    have hlater : tried .output (closing ownInput ++ ends.closing) = [] := by
      simp [tried_append, tried_closing, tried_ends]
    have hunserved := not_served_refused output hearlier hlater
    have hclose := List.forall_mem_append.mpr ⟨aside_closing ownInput, hends⟩
    have hrefused := List.forall_mem_append.mpr ⟨aside_refused output, hclose⟩
    have haside := List.forall_mem_append.mpr ⟨aside_opened input, hrefused⟩
    rw [List.append_assoc] at hunserved
    rw [List.append_assoc, List.append_assoc]
    constructor
    · simp [tried_append, tried_closing, tried_ends, tried_opened input, tried_refused output, hne]
    · simp [tried_append, tried_closing, tried_ends, tried_opened input, tried_refused output]
    · exact fun hready => absurd ⟨hne, hinput⟩ hready
    · exact fun _ hserved => absurd hserved hunserved
    · exact fun _ e he => (haside e he).1
  | @asked program args h k ownInput ownOutput answer hargs input output =>
    have hne : s.args ≠ [] := by simp [hargs]
    have hready : s.Ready directory (h ++ k) := ⟨hne, (served_opened input).mono (List.subset_append_left h k)⟩
    have hserved := (served_opened output).mono (List.subset_append_right h k)
    have hclose := List.forall_mem_append.mpr ⟨aside_closing ownInput, aside_closing ownOutput⟩
    have hbefore := List.forall_mem_append.mpr ⟨aside_opened input, aside_opened output⟩
    have haside := List.forall_mem_append.mpr ⟨hbefore, List.forall_mem_append.mpr ⟨hclose, hends⟩⟩
    have hsub : h ++ k ⊆ h ++ k ++ ⟨.spawn (ask directory ends program args ownInput ownOutput), answer⟩ ::
        (closing ownInput ++ closing ownOutput ++ ends.closing) := List.subset_append_left _ _
    have hall := And.intro (hready.mono hsub) (hserved.mono hsub)
    rw [List.append_assoc, List.cons_append]
    constructor
    · simp [tried_append, tried_spawn, tried_closing, tried_ends, tried_opened input, tried_opened output, hne]
    · simp [tried_append, tried_spawn, tried_closing, tried_ends, tried_opened input, tried_opened output]
    · exact fun hno => absurd hall.1 hno
    · exact fun _ _ => ⟨_, _, _, _, rfl, hready, hserved, fun e he => (haside e he).1⟩
    · exact fun hno => absurd hall hno

theorem Treats.mem_along {path : Path} (htreats : s.Treats directory h) (hpath : path ∈ tried .output h) :
    path ∈ directory.along s.output := by
  by_cases hready : s.Ready directory h
  · rwa [htreats.output hready] at hpath
  · rw [htreats.untouched hready] at hpath
    cases hpath

end Stage

/-! ### Plans -/

theorem isWait_await {started : Except LaunchError Child} {h : List Event} {ending : StageEnd}
    (htrace : Trace (StageEnd.await started) h ending) : ∀ e ∈ h, e.request.isWait = true := by
  cases trace_await htrace <;> simp [Request.isWait]

namespace Plan

/-- The stages of a plan. -/
def stages (p : Plan) : List Stage := p.first :: p.second.toList

/-- How a plan treats files: each of its stages as if there were no other one, unless there is no pipe to
join them. -/
inductive Treats (p : Plan) (directory : Path) : List Event → Prop
  | single {launching waiting : List Event} {started : Except LaunchError Child} (hplan : p.second = none)
    (hlaunch : Trace (p.first.launch directory {}) launching started) (hfirst : p.first.Treats directory launching)
    (hwaiting : ∀ e ∈ waiting, e.request.isWait = true) : Treats p directory (launching ++ waiting)
  | noPipe {second : Stage} (errno : Errno) (hplan : p.second = some second) :
    Treats p directory [⟨.makePipe, .error errno⟩]
  | pipeline {second : Stage} {reader writer : Descriptor} {left right waiting : List Event}
    {first' second' : Except LaunchError Child} (hplan : p.second = some second)
    (hleft : Trace (p.first.launch directory { output := some writer }) left first')
    (hright : Trace (second.launch directory { input := some reader }) right second')
    (hfirst : p.first.Treats directory left) (hsecond : second.Treats directory right)
    (hwaiting : ∀ e ∈ waiting, e.request.isWait = true) :
    Treats p directory (⟨.makePipe, .ok (reader, writer)⟩ :: (left ++ right ++ waiting))

variable {p : Plan} {directory : Path}

theorem treats_course {launching waiting : List Event} {o : Outcome}
    (hcourse : p.Course directory launching waiting o) : p.Treats directory (launching ++ waiting) := by
  cases hcourse with
  | single hplan hlaunch hwait => exact .single hplan hlaunch (Stage.treats_launch hlaunch) (isWait_await hwait)
  | noPipe errno hplan => exact .noPipe errno hplan
  | pipeline hplan hleft hright hleftWait hrightWait =>
    have hwaiting := List.forall_mem_append.mpr ⟨isWait_await hleftWait, isWait_await hrightWait⟩
    exact .pipeline hplan hleft hright (Stage.treats_launch hleft) (Stage.treats_launch hright) hwaiting

theorem Treats.exists_along {h : List Event} {path : Path} (htreats : p.Treats directory h)
    (hpath : path ∈ tried .output h) : ∃ s ∈ p.stages, path ∈ directory.along s.output := by
  cases htreats with
  | single hplan hlaunch hfirst hwaiting =>
    rw [tried_append, tried_waits hwaiting, List.append_nil] at hpath
    exact ⟨p.first, List.mem_cons_self, hfirst.mem_along hpath⟩
  | noPipe errno hplan => cases hpath
  | pipeline hplan hleft hright hfirst hsecond hwaiting =>
    change path ∈ tried .output (_ ++ _) at hpath
    rw [tried_append, tried_append, tried_waits hwaiting, List.append_nil] at hpath
    rcases List.mem_append.mp hpath with hpath | hpath
    · exact ⟨p.first, List.mem_cons_self, hfirst.mem_along hpath⟩
    · exact ⟨_, List.mem_cons_of_mem _ (by simp [hplan]), hsecond.mem_along hpath⟩

/-- Whatever comes of the pipe, of the opens and of the starts, nothing but the targets of output redirects is
created or truncated, and each of them only for its own stage, when that stage is ready for it. -/
theorem run_treats_files {σ : Type} (p : Plan) (directory : Path) (system : System σ) (t : σ) :
    p.Treats directory ((p.run directory).history system t) ∧
      ∀ path ∈ tried .output ((p.run directory).history system t),
        ∃ s ∈ p.stages, path ∈ directory.along s.output := by
  obtain ⟨launching, waiting, hhistory, hcourse⟩ := trace_run_plan (trace_run system (p.run directory) t)
  rw [hhistory]
  have htreats := treats_course hcourse
  exact ⟨htreats, fun path hpath => htreats.exists_along hpath⟩

end Plan
end LineShell
