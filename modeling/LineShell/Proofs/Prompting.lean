import LineShell.Proofs.Broken
import LineShell.Proofs.Script

/-!
Interactive and batch runs. Both carry out the same lines in the same way. An interactive run shows a prompt in front
of each line, and one more if the lines end before one of them asks for the exit; it begins with a welcome and ends
with a goodbye. All of that is written to the output, so it can make no difference to a line as long as what
is written there makes no difference to the surroundings.
-/

namespace LineShell
open LineShell.Action

variable {σ : Type}

/-! ### Surroundings that do not listen -/

/-- The system with a screen beside it, which takes what the shell writes to its output: it is out of the sight of the
system and of all that runs on it. -/
def System.screened (system : System σ) : System (σ × Bytes) where
  answer
    | .write .out bytes, (t, screen) => (.ok (), (t, screen ++ bytes))
    | .flush .out, (t, screen) => (.ok (), (t, screen))
    | r, (t, screen) => ((system.answer r t).1, ((system.answer r t).2, screen))

theorem System.screened_of_quiet {system : System σ} {r : Request} (hr : Session.Quiet r) (t : σ) (screen : Bytes) :
    system.screened.answer r (t, screen) = ((system.answer r t).1, ((system.answer r t).2, screen)) := by
  cases r with
  | write channel bytes =>
    cases channel with
    | out => exact absurd rfl (hr.1 bytes)
    | err => rfl
  | flush channel =>
    cases channel with
    | out => exact absurd rfl hr.2
    | err => rfl
  | _ => rfl

namespace Session

/-- `alike` says of two states of a system that they differ at most in what the shell has written to its output: they
answer every other request in the same way. The shell can write to both of its streams. -/
structure Deaf (system : System σ) (alike : σ → σ → Prop) : Prop where
  equivalence : Equivalence alike
  write : ∀ channel bytes t, (system.answer (.write channel bytes) t).1 = .ok ()
  flush : ∀ channel t, (system.answer (.flush channel) t).1 = .ok ()
  output : ∀ r t, ¬Quiet r → alike (system.answer r t).2 t
  quiet : ∀ r t u, Quiet r → alike t u →
    (system.answer r t).1 = (system.answer r u).1 ∧ alike (system.answer r t).2 (system.answer r u).2

/-- Run from a state, an action has a result and a history, and it leaves a state that is like another. -/
def Comes {α : Type} (system : System σ) (alike : σ → σ → Prop) (x : Action α) (t : σ) (a : α) (h : List Event) (u : σ) :
    Prop :=
  (x.run system t).1 = a ∧ x.history system t = h ∧ alike (x.run system t).2 u

/-- A system is deaf to what is shown on a screen beside it. -/
theorem deaf_screened {system : System σ} (hwrite : ∀ bytes t, (system.answer (.write .err bytes) t).1 = .ok ())
    (hflush : ∀ t, (system.answer (.flush .err) t).1 = .ok ()) :
    Deaf system.screened fun t u => t.1 = u.1 where
  equivalence := ⟨fun _ => rfl, Eq.symm, Eq.trans⟩
  write channel bytes t := by
    cases channel with
    | out => rfl
    | err => exact hwrite bytes t.1
  flush channel t := by
    cases channel with
    | out => rfl
    | err => exact hflush t.1
  output r t hloud := by
    obtain ⟨bytes, rfl⟩ | rfl : (∃ bytes, r = .write .out bytes) ∨ r = .flush .out := by
      simpa [Quiet, imp_iff_not_or] using hloud
    · rfl
    · rfl
  quiet r t u hquiet hlike := by
    rw [System.screened_of_quiet hquiet, System.screened_of_quiet hquiet, hlike]
    exact ⟨rfl, rfl⟩

section
variable {system : System σ} {alike : σ → σ → Prop} {α β : Type} {x : Action α} {t u w : σ} {a : α} {h k : List Event}

theorem comes_pure (a : α) (hlike : alike t u) : Comes system alike (pure a) t a [] u := ⟨rfl, rfl, hlike⟩

theorem Comes.bind {f : α → Action β} {b : β} (hx : Comes system alike x t a h u)
    (hf : ∀ v, alike v u → Comes system alike (f a) v b k w) : Comes system alike (x >>= f) t b (h ++ k) w := by
  obtain ⟨rfl, rfl, hlike⟩ := hx
  obtain ⟨hresult, hhistory, hrest⟩ := hf _ hlike
  refine ⟨?_, ?_, ?_⟩
  · rw [run_bind, hresult]
  · rw [history_bind, hhistory]
  · rwa [run_bind]

variable (hdeaf : Deaf system alike)
include hdeaf

/-- No request tells states apart that are alike. -/
theorem Deaf.answer (r : Request) (hlike : alike t u) :
    (system.answer r t).1 = (system.answer r u).1 ∧ alike (system.answer r t).2 (system.answer r u).2 := by
  by_cases hr : Quiet r
  · exact hdeaf.quiet r t u hr hlike
  · refine ⟨?_, ?_⟩
    · cases r with
      | write channel bytes => rw [hdeaf.write, hdeaf.write]
      | flush channel => rw [hdeaf.flush, hdeaf.flush]
      | _ => exact absurd ⟨nofun, nofun⟩ hr
    · have htu := hdeaf.equivalence.trans (hdeaf.output r t hr) hlike
      exact hdeaf.equivalence.trans htu (hdeaf.equivalence.symm (hdeaf.output r u hr))

/-- An action takes the same course from states that are alike. -/
theorem Deaf.comes (x : Action α) (hlike : alike t u) :
    Comes system alike x t (x.run system u).1 (x.history system u) (x.run system u).2 := by
  induction x generalizing t u with
  | done a => exact ⟨rfl, rfl, hlike⟩
  | ask r next ih =>
    -- The same answer leads to the same rest of the tree, from states that are alike again.
    obtain ⟨hanswer, hafter⟩ := hdeaf.answer r hlike
    obtain ⟨hresult, hhistory, hrest⟩ := ih (system.answer r u).1 hafter
    refine ⟨?_, ?_, ?_⟩
    · simp only [Action.run, hanswer]
      exact hresult
    · simp only [Action.history, hanswer, hhistory]
    · simp only [Action.run, hanswer]
      exact hrest

/-! ### What is shown between the lines -/

end

/-- The events of bytes that are put on the output. -/
def putting (bytes : Bytes) : List Event := if bytes = [] then [] else [⟨.write .out bytes, .ok ()⟩]

/-- The output is flushed. -/
def flushed : Event := ⟨.flush .out, .ok ()⟩

/-- The events of a prompt, if the mode has one. -/
def prompting (s : Session) : Mode → List Event
  | .batch => []
  | .interactive => putting (Utf8.encode s.config.prompt) ++ [flushed]

theorem prompting_congr {s s' : Session} (hconfig : s'.config = s.config) (mode : Mode) :
    s'.prompting mode = s.prompting mode := by
  cases mode with
  | batch => rfl
  | interactive => simp only [prompting, hconfig]

/-- The events of the lines of a run, with a prompt in front of each of them and one more if they have ended. -/
def shown (prompt : List Event) (flow : Flow) (parts : List (List Event)) : List Event :=
  parts.flatMap (prompt ++ ·) ++ if flow = .continue then prompt else []

theorem shown_nil (prompt : List Event) : shown prompt .continue [] = prompt ++ [] := by simp [shown]

theorem shown_cons (prompt : List Event) (flow : Flow) (part : List Event) (parts : List (List Event)) :
    shown prompt flow (part :: parts) = prompt ++ (part ++ shown prompt flow parts) := by
  simp [shown]

/-- The events of a banner, if the mode has one. -/
def greeting (text : String) : Mode → List Event
  | .batch => []
  | .interactive => putting (Utf8.encode text)

section
variable {system : System σ} {alike : σ → σ → Prop} {t u : σ} (hdeaf : Deaf system alike)
include hdeaf

theorem Deaf.comes_put (bytes : Bytes) (hlike : alike t u) :
    Comes system alike (put .out bytes) t (.ok ()) (putting bytes) u := by
  unfold put putting
  by_cases hbytes : bytes = []
  · simp only [hbytes, List.isEmpty_nil, ↓reduceIte]
    exact comes_pure _ hlike
  · have hempty : ¬bytes.isEmpty = true := fun hempty => hbytes (List.isEmpty_iff.mp hempty)
    have hloud : ¬Quiet (.write .out bytes) := fun hquiet => hquiet.1 bytes rfl
    rw [if_neg hempty, if_neg hbytes]
    refine ⟨hdeaf.write .out bytes t, ?_, hdeaf.equivalence.trans (hdeaf.output _ t hloud) hlike⟩
    rw [history_request, hdeaf.write]

theorem Deaf.comes_flush (hlike : alike t u) :
    Comes system alike (request (.flush .out)) t (.ok ()) [flushed] u := by
  have hloud : ¬Quiet (.flush .out) := fun hquiet => hquiet.2 rfl
  refine ⟨hdeaf.flush .out t, ?_, hdeaf.equivalence.trans (hdeaf.output _ t hloud) hlike⟩
  rw [history_request, hdeaf.flush, flushed]

theorem Deaf.comes_prompt (s : Session) (mode : Mode) (hlike : alike t u) :
    Comes system alike (s.prompt mode) t (.ok ()) (s.prompting mode) u := by
  cases mode with
  | batch => exact comes_pure _ hlike
  | interactive => exact (hdeaf.comes_put _ hlike).bind fun v hv => hdeaf.comes_flush hv

theorem Deaf.comes_banner (text : String) (mode : Mode) (hlike : alike t u) :
    Comes system alike (banner text mode) t (.ok ()) (greeting text mode) u := by
  cases mode with
  | batch => exact comes_pure _ hlike
  | interactive => exact hdeaf.comes_put _ hlike

end

/-! ### Lines in a row -/

/-- Lines are carried out one after the other, from a session and a state to others, until they end or one of them
asks for the exit. Each line that is carried out has a history of its own. -/
inductive Passes (system : System σ) : Session → σ → List String → List (List Event) → Flow → Session → σ → Prop
  | ended (s : Session) (t : σ) : Passes system s t [] [] .continue s t
  | exited {s s' : Session} {t t' : σ} {line : String} {lines : List String}
    (hline : (s.execute line).run system t = ((s', .ok .exit), t')) :
    Passes system s t (line :: lines) [(s.execute line).history system t] .exit s' t'
  | next {s s' s'' : Session} {t t' t'' : σ} {line : String} {lines : List String} {parts : List (List Event)}
    {flow : Flow} (hline : (s.execute line).run system t = ((s', .ok .continue), t'))
    (hrest : Passes system s' t' lines parts flow s'' t'') :
    Passes system s t (line :: lines) ((s.execute line).history system t :: parts) flow s'' t''

theorem config_line {s : Session} {parsed : Except ParseError ParsedLine} {h : List Event}
    {r : Session × Except Fault Flow} (hcourse : s.LineCourse parsed h r) : r.1.config = s.config := by
  cases hcourse with
  | builtin hcommand hsay hcourse => cases hcourse <;> rfl
  | external hcommand hsay hcourse => cases hcourse <;> rfl
  | _ => rfl

/-- No line changes the settings. -/
theorem config_execute (system : System σ) (s : Session) (line : String) (t : σ) :
    ((s.execute line).run system t).1.1.config = s.config := by
  obtain ⟨reading, carrying, hhistory, hreading, hcourse⟩ := exists_lineCourse system s line t
  exact config_line hcourse

section
variable {system : System σ} {alike : σ → σ → Prop} {s s' : Session} {t t' u : σ} {lines : List String}
  {parts : List (List Event)} {flow : Flow} (hdeaf : Deaf system alike)
include hdeaf

theorem Deaf.exists_passes (s : Session) (lines : List String) (t : σ) :
    ∃ parts flow s' t', Passes system s t lines parts flow s' t' := by
  induction lines generalizing s t with
  | nil => exact ⟨[], .continue, s, t, .ended s t⟩
  | cons line lines ih =>
    have hstops := stopsAtFault_execute (trace_run system (s.execute line) t)
    rcases hline : (s.execute line).run system t with ⟨⟨s', fault | _ | _⟩, t'⟩
    · rw [hline] at hstops
      obtain ⟨e, he, hfault⟩ := hstops.exists_fault
      cases hfault.symm.trans (fine_of_writable hdeaf.write hdeaf.flush _ he)
    · obtain ⟨parts, flow, s'', t'', hrest⟩ := ih s' t'
      exact ⟨_, flow, s'', t'', .next hline hrest⟩
    · exact ⟨_, .exit, s', t', .exited hline⟩

theorem Deaf.comes_execute {flow : Flow} {line : String} (hline : (s.execute line).run system t = ((s', .ok flow), t'))
    (hlike : alike u t) : Comes system alike (s.execute line) u (s', .ok flow) ((s.execute line).history system t) t' := by
  have hcomes := hdeaf.comes (s.execute line) hlike
  rwa [hline] at hcomes

/-- The lines of a run take the same course in both modes, but for the prompts. -/
theorem Deaf.comes_runLines (mode : Mode) (hpasses : Passes system s t lines parts flow s' t') (hlike : alike u t) :
    Comes system alike (runLines mode none s lines) u (s', .ok ()) (shown (s.prompting mode) flow parts) t' := by
  induction hpasses generalizing u with
  | ended s t =>
    rw [runLines, shown_nil]
    exact (hdeaf.comes_prompt s mode hlike).bind fun v hv => comes_pure _ hv
  | @exited s s' t t' line lines hline =>
    rw [runLines, shown_cons]
    refine (hdeaf.comes_prompt s mode hlike).bind fun v hv => (hdeaf.comes_execute hline hv).bind fun v' hv' => ?_
    exact comes_pure _ hv'
  | @next s s' s'' t t' t'' line lines parts flow hline hrest ih =>
    -- The rest is led by the prompt of the session that the line leaves, which is still the first one.
    have hconfig : s'.config = s.config := by
      have hkept := config_execute system s line t
      rwa [hline] at hkept
    rw [runLines, shown_cons]
    refine (hdeaf.comes_prompt s mode hlike).bind fun v hv => (hdeaf.comes_execute hline hv).bind fun v' hv' => ?_
    rw [← prompting_congr hconfig]
    exact ih hv'

/-- A run in either mode carries the lines out between its banners, with its prompts in front of them. -/
theorem Deaf.comes_run (mode : Mode) (script : Bytes) (hpasses : Passes system s t (Lines.decode script) parts flow s' t')
    (hlike : alike u t) :
    Comes system alike (s.run mode { bytes := script }) u (s', .ok ())
      (greeting welcome mode ++ (shown (s.prompting mode) flow parts ++ (greeting goodbye mode ++ [flushed]))) t' := by
  rw [run, betweenBanners]
  refine (hdeaf.comes_banner welcome mode hlike).bind fun v hv => ?_
  refine (hdeaf.comes_runLines mode hpasses hv).bind fun v hv => ?_
  refine (hdeaf.comes_banner goodbye mode hv).bind fun v hv => ?_
  exact (hdeaf.comes_flush hv).bind fun v hv => comes_pure _ hv

end

/-! ### What is written -/

/-- The event writes to the output or flushes it. -/
def isOutput : Event → Bool
  | ⟨.write .out _, _⟩ => true
  | ⟨.flush .out, _⟩ => true
  | _ => false

/-- What has been written to a stream. -/
def written (channel : Channel) (h : List Event) : Bytes :=
  h.flatMap fun
    | ⟨.write target bytes, .ok ()⟩ => if target = channel then bytes else []
    | _ => []

@[simp] theorem written_append (channel : Channel) (h k : List Event) :
    written channel (h ++ k) = written channel h ++ written channel k := List.flatMap_append

@[simp] theorem written_flushed (channel : Channel) : written channel [flushed] = [] := rfl

@[simp] theorem written_putting (bytes : Bytes) : written .out (putting bytes) = bytes := by
  by_cases hbytes : bytes = [] <;> simp [putting, written, hbytes]

theorem written_flatten (channel : Channel) (parts : List (List Event)) :
    written channel parts.flatten = parts.flatMap (written channel) := by
  induction parts with
  | nil => rfl
  | cons part parts ih => rw [List.flatten_cons, written_append, ih, List.flatMap_cons]

theorem written_shown (channel : Channel) (prompt : List Event) (flow : Flow) (parts : List (List Event)) :
    written channel (shown prompt flow parts) =
      (parts.flatMap fun part => written channel prompt ++ written channel part) ++
        if flow = .continue then written channel prompt else [] := by
  induction parts with
  | nil => cases flow <;> simp [shown, written]
  | cons part parts ih => simp [shown_cons, ih]

/-- What is written to the error stream is not among what is asked of the output. -/
theorem written_err_filter (h : List Event) : written .err (h.filter fun e => !isOutput e) = written .err h := by
  induction h with
  | nil => rfl
  | cons e h ih =>
    have hcons : ∀ k, written .err (e :: k) = written .err [e] ++ written .err k := fun k => written_append .err [e] k
    rw [List.filter_cons]
    split
    · rw [hcons, ih, ← hcons]
    next hout =>
      have hnone : written .err [e] = [] := by
        obtain ⟨request, answer⟩ := e
        cases request with
        | write channel bytes =>
          cases channel with
          | out => cases answer <;> rfl
          | err => exact absurd rfl hout
        | _ => rfl
      rw [hcons, hnone, List.nil_append, ih]

theorem filter_putting (bytes : Bytes) : (putting bytes).filter (fun e => !isOutput e) = [] := by
  unfold putting
  split <;> rfl

theorem filter_prompting (s : Session) (mode : Mode) : (s.prompting mode).filter (fun e => !isOutput e) = [] := by
  cases mode with
  | batch => rfl
  | interactive => simp only [prompting, List.filter_append, filter_putting, List.nil_append]; rfl

theorem filter_shown {p : Event → Bool} {prompt : List Event} (hprompt : prompt.filter p = []) (flow : Flow)
    (parts : List (List Event)) : (shown prompt flow parts).filter p = parts.flatten.filter p := by
  induction parts with
  | nil => cases flow <;> simp [shown, hprompt]
  | cons part parts ih => simp only [shown_cons, List.filter_append, hprompt, ih, List.flatten_cons, List.nil_append]

theorem shown_batch (s : Session) (flow : Flow) (parts : List (List Event)) :
    shown (s.prompting .batch) flow parts = parts.flatten := by
  simp [shown, prompting, List.flatMap_id']

/-! ### The two modes -/

/-- The modes agree: an interactive run carries the same lines out as a batch run, comes to the same session and asks
the same of the surroundings, but for what it shows on the output. There it welcomes, puts the prompt in front of what
each line writes and once more if the lines have ended, and says goodbye. Nothing of that is shown by a batch run. -/
theorem run_interactive {system : System σ} {alike : σ → σ → Prop} (hdeaf : Deaf system alike) (s : Session)
    (script : Bytes) (t : σ) :
    let batch := s.run .batch { bytes := script }
    let interactive := s.run .interactive { bytes := script }
    let prompt := Utf8.encode s.config.prompt
    ∃ parts flow s' t', Passes system s t (Lines.decode script) parts flow s' t' ∧
      Comes system alike batch t (s', .ok ()) (parts.flatten ++ [flushed]) t' ∧
      Comes system alike interactive t (s', .ok ())
        (putting (Utf8.encode welcome) ++ shown (putting prompt ++ [flushed]) flow parts ++
          putting (Utf8.encode goodbye) ++ [flushed]) t' ∧
      (interactive.history system t).filter (fun e => !isOutput e) =
        (batch.history system t).filter (fun e => !isOutput e) ∧
      written .err (interactive.history system t) = written .err (batch.history system t) ∧
      written .out (batch.history system t) = parts.flatMap (written .out) ∧
      written .out (interactive.history system t) =
        Utf8.encode welcome ++ (parts.flatMap fun part => prompt ++ written .out part) ++
          (if flow = .continue then prompt else []) ++ Utf8.encode goodbye := by
  intro batch interactive prompt
  obtain ⟨parts, flow, s', t', hpasses⟩ := hdeaf.exists_passes s (Lines.decode script) t
  have hlike := hdeaf.equivalence.refl t
  have hbatch : Comes system alike batch t (s', .ok ()) (parts.flatten ++ [flushed]) t' := by
    have hcomes := hdeaf.comes_run .batch script hpasses hlike
    rwa [shown_batch] at hcomes
  have hinteractive : Comes system alike interactive t (s', .ok ())
      (putting (Utf8.encode welcome) ++ shown (putting prompt ++ [flushed]) flow parts ++
        putting (Utf8.encode goodbye) ++ [flushed]) t' := by
    have hcomes := hdeaf.comes_run .interactive script hpasses hlike
    simpa only [greeting, prompting, List.append_assoc] using hcomes
  have hsame : (interactive.history system t).filter (fun e => !isOutput e) =
      (batch.history system t).filter (fun e => !isOutput e) := by
    have hprompt : (putting prompt ++ [flushed]).filter (fun e => !isOutput e) = [] := filter_prompting s .interactive
    rw [hinteractive.2.1, hbatch.2.1]
    simp only [List.filter_append, filter_putting, filter_shown hprompt, List.nil_append, List.append_nil]
  refine ⟨parts, flow, s', t', hpasses, hbatch, hinteractive, hsame, ?_, ?_, ?_⟩
  · rw [← written_err_filter, hsame, written_err_filter]
  · rw [hbatch.2.1, written_append, written_flatten, written_flushed, List.append_nil]
  · rw [hinteractive.2.1]
    simp only [written_append, written_putting, written_flushed, written_shown, List.append_nil, List.append_assoc]

/-- A run that ends with `exit`, on a machine with a screen. -/
theorem run_interactive_exit :
    let s : Session := { config := { logDirectory := ⟨[]⟩ }, directory := ⟨[Path.slash]⟩ }
    let machine : System Machine := ⟨fun r m => Machine.system.answer r { m with closed := [] }⟩
    let t : Machine × Bytes := ({ tree := { entries := [] } }, [])
    let script := Utf8.encode "which hi\ncd\nexit\nwhich later"
    let batch := (s.run .batch { bytes := script }).history machine.screened t
    let interactive := (s.run .interactive { bytes := script }).history machine.screened t
    Deaf machine.screened (fun t u => t.1 = u.1) ∧
      interactive.filter (fun e => !isOutput e) = batch.filter (fun e => !isOutput e) ∧
      written .err interactive = written .err batch ∧ written .err batch = report "cd: wrong number of arguments" ∧
      written .out batch = Utf8.encode "hi\n" ∧
      written .out interactive = Utf8.encode "Welcome to my shell!\nmysh> hi\nmysh> mysh> Exiting my shell.\n" := by
  intro s machine t script batch interactive
  have hdeaf : Deaf machine.screened fun t u => t.1 = u.1 :=
    deaf_screened (fun bytes _ => Machine.write_of_open rfl .err bytes) fun _ => rfl
  obtain ⟨parts, flow, s', t', -, -, -, hsame, herr, -, -⟩ := run_interactive hdeaf s script t
  exact ⟨hdeaf, hsame, herr, by decide +kernel, by decide +kernel, by decide +kernel⟩

end Session
end LineShell
