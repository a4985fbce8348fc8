import LineShell.Proofs.Purposes

/-!
How a session carries a line out, event by event. A builtin achieves what it is for, or fails with a message and
changes nothing. What there is to show is shown at once, and the first fault of the session's own streams is the
last thing that happens; only then is the result an error, and the session is then the one from before
the line, unless it is a flush that failed.
-/

namespace LineShell
open LineShell.Action

/-! ### Faults of the session's own streams -/

/-- The fault of an event that writes to a stream of the shell's own or flushes it, if it has failed. -/
def Event.fault? : Event → Option Fault
  | ⟨.write _ _, .error fault⟩ => some fault
  | ⟨.flush _, .error fault⟩ => some fault
  | _ => none

/-- A result is an error just if the last event is a fault, and no earlier event is one. -/
inductive StopsAtFault {α : Type} : List Event → Except Fault α → Prop
  | fine {h : List Event} (a : α) (hfine : ∀ e ∈ h, e.fault? = none) : StopsAtFault h (.ok a)
  | fault {h : List Event} {e : Event} {fault : Fault} (hbefore : ∀ e ∈ h, e.fault? = none)
    (he : e.fault? = some fault) : StopsAtFault (h ++ [e]) (.error fault)

theorem fault?_eq_none {e : Event} (h : e.request.purpose ≠ .showing) : e.fault? = none := by
  obtain ⟨request, answer⟩ := e
  cases request <;> first | rfl | exact absurd rfl h

section
variable {α β : Type} {h k : List Event} {a : α}

theorem fine_of_for {x : Action α} {p : Purpose} (hx : x.For p) (hp : p ≠ .showing) (htrace : Trace x h a) :
    ∀ e ∈ h, e.fault? = none := fun e he => fault?_eq_none (purpose_ne_of_for hx hp htrace e he)

/-- Where the shell can always write to its streams, nothing fails. -/
theorem fine_of_writable {σ : Type} {system : System σ} {x : Action α} {t : σ}
    (hwrite : ∀ channel bytes t, (system.answer (.write channel bytes) t).1 = .ok ())
    (hflush : ∀ channel t, (system.answer (.flush channel) t).1 = .ok ()) : ∀ e ∈ x.history system t, e.fault? = none := by
  rintro ⟨request, answer⟩ he
  obtain ⟨u, hu⟩ := exists_answer_of_mem_history system he
  cases request with
  | write channel bytes =>
    obtain rfl : answer = .ok () := hu.trans (hwrite channel bytes u)
    rfl
  | flush channel =>
    obtain rfl : answer = .ok () := hu.trans (hflush channel u)
    rfl
  | _ => rfl

theorem StopsAtFault.behind {r : Except Fault α} (hh : ∀ e ∈ h, e.fault? = none) (hk : StopsAtFault k r) :
    StopsAtFault (h ++ k) r := by
  cases hk with
  | fine a hfine => exact .fine a (List.forall_mem_append.mpr ⟨hh, hfine⟩)
  | fault hbefore he =>
    rw [← List.append_assoc]
    exact .fault (List.forall_mem_append.mpr ⟨hh, hbefore⟩) he

theorem StopsAtFault.exists_fault {fault : Fault} (hstops : StopsAtFault h (.error fault : Except Fault α)) :
    ∃ e ∈ h, e.fault? = some fault := by
  cases hstops with
  | fault hbefore he => exact ⟨_, by simp, he⟩

/-- Behind a fault there is nothing. -/
theorem StopsAtFault.of_fault {before rest : List Event} {e : Event} {fault : Fault} {r : Except Fault α}
    (hstops : StopsAtFault (before ++ e :: rest) r) (he : e.fault? = some fault) : rest = [] ∧ r = .error fault := by
  generalize hh : before ++ e :: rest = h at hstops
  cases hstops with
  | fine a hfine => cases he.symm.trans (hfine e (by simp [← hh]))
  | @fault k last f hbefore hlast =>
    obtain rfl | ⟨rest, last', rfl⟩ := List.eq_nil_or_concat rest
    · obtain ⟨-, hsame⟩ := List.append_inj' hh rfl
      cases hsame
      cases he.symm.trans hlast
      exact ⟨rfl, rfl⟩
    · have hmem : e ∈ k := by
        rw [List.concat_eq_append, ← List.cons_append, ← List.append_assoc] at hh
        rw [← (List.append_inj' hh rfl).1]
        simp
      cases he.symm.trans (hbefore e hmem)

theorem StopsAtFault.cons {e : Event} {r : Except Fault α} (he : e.fault? = none) (hk : StopsAtFault k r) :
    StopsAtFault (e :: k) r := hk.behind (h := [e]) (List.forall_mem_singleton.mpr he)

theorem stopsAtFault_singleton {e : Event} {fault : Fault} (he : e.fault? = some fault) :
    StopsAtFault [e] (.error fault : Except Fault α) := .fault (h := []) (by simp) he

theorem StopsAtFault.fine_of_ok (hstops : StopsAtFault h (.ok a)) : ∀ e ∈ h, e.fault? = none := by
  cases hstops with
  | fine a hfine => exact hfine

theorem StopsAtFault.map {r : Except Fault α} (f : α → β) (hstops : StopsAtFault h r) : StopsAtFault h (r.map f) := by
  cases hstops with
  | fine a hfine => exact .fine (f a) hfine
  | fault hbefore he => exact .fault hbefore he

end

/-! ### Showing -/

namespace Session

theorem trace_put {channel : Channel} {bytes : Bytes} {h : List Event} {r : Except Fault Unit} :
    Trace (put channel bytes) h r ↔
      (bytes = [] ∧ h = [] ∧ r = .ok ()) ∨ (bytes ≠ [] ∧ h = [⟨.write channel bytes, r⟩]) := by
  rw [put]
  split
  · rename_i hempty
    have hbytes : bytes = [] := List.isEmpty_iff.mp hempty
    simp [hbytes, trace_pure]
  · rename_i hempty
    have hbytes : bytes ≠ [] := fun hbytes => hempty (List.isEmpty_iff.mpr hbytes)
    exact trace_request.trans (by simp [hbytes])

theorem stopsAtFault_put {channel : Channel} {bytes : Bytes} {h : List Event} {r : Except Fault Unit}
    (htrace : Trace (put channel bytes) h r) : StopsAtFault h r := by
  rcases trace_put.mp htrace with ⟨-, rfl, rfl⟩ | ⟨-, rfl⟩
  · exact .fine () (by simp)
  · cases r with
    | error fault => exact stopsAtFault_singleton rfl
    | ok u => exact .fine u (by simp [Event.fault?])

/-- The bytes that a message is shown as. -/
def report (message : String) : Bytes := Utf8.encode (marker ++ message ++ "\n")

theorem report_ne_nil (message : String) : report message ≠ [] := by
  simp [report, Utf8.encode, marker]

theorem complain_cons (message : String) (messages : List String) :
    complain (message :: messages) = (do
      match ← put .err (report message) with
      | .error e => pure (.error e)
      | .ok () => complain messages) := rfl

/-- Messages are shown until one of them cannot be. -/
theorem trace_complain_cons {message : String} {messages : List String} {h : List Event} {r : Except Fault Unit}
    (htrace : Trace (complain (message :: messages)) h r) :
    (∃ fault, h = [⟨.write .err (report message), .error fault⟩] ∧ r = .error fault) ∨
      ∃ k, h = ⟨.write .err (report message), .ok ()⟩ :: k ∧ Trace (complain messages) k r := by
  rw [complain_cons] at htrace
  obtain ⟨h₁, shown, k, hput, hrest, rfl⟩ := trace_bind.mp htrace
  rcases trace_put.mp hput with ⟨hnil, -⟩ | ⟨-, rfl⟩
  · exact absurd hnil (report_ne_nil message)
  · obtain fault | ⟨⟩ := shown
    · obtain ⟨rfl, rfl⟩ := trace_pure.mp hrest
      exact .inl ⟨fault, rfl, rfl⟩
    · exact .inr ⟨k, rfl, hrest⟩

theorem stopsAtFault_complain {messages : List String} {h : List Event} {r : Except Fault Unit}
    (htrace : Trace (complain messages) h r) : StopsAtFault h r := by
  induction messages generalizing h with
  | nil =>
    obtain ⟨rfl, rfl⟩ := trace_pure.mp htrace
    exact .fine () (by simp)
  | cons message messages ih =>
    rcases trace_complain_cons htrace with ⟨fault, rfl, rfl⟩ | ⟨k, rfl, hrest⟩
    · exact stopsAtFault_singleton rfl
    · exact (ih hrest).cons rfl

end Session

/-! ### Builtins -/

namespace Builtin

/-- A builtin achieves what it is for: the directory is there and can be entered, the working directory is still
there, or nothing can go wrong. -/
inductive Achieves (directory : Path) : Builtin → List String → List Event → BuiltinOutput × Path → Prop
  | cd {target : String} {canonical : Path} :
    Achieves directory .cd [target]
      [⟨.canonicalize (directory.join (.ofString target)), .ok canonical⟩, ⟨.examine canonical, .ok .directory⟩,
        ⟨.checkSearch canonical, .ok ()⟩]
      (.success, canonical)
  | pwd {kind : FileKind} :
    Achieves directory .pwd [] [⟨.examine directory, .ok kind⟩] (.line directory.display, directory)
  | which {name : String} : Achieves directory .which [name] [] (.line name, directory)
  | exit {args : List String} : Achieves directory .exit args [] (.exit, directory)

/-- The two courses of a builtin: it achieves what it is for, or it fails. -/
inductive Course (b : Builtin) (directory : Path) (args : List String) (h : List Event) : BuiltinOutput × Path → Prop
  | achieved {r : BuiltinOutput × Path} (hachieves : Achieves directory b args h r) : Course b directory args h r
  | failed (message : String) (hfails : ∀ r, ¬Achieves directory b args h r) :
    Course b directory args h (.failure message, directory)

variable {b : Builtin} {directory : Path} {args : List String} {h : List Event} {r : BuiltinOutput × Path}

theorem trace_changeDirectory {target : String} (htrace : Trace (changeDirectory directory target) h r) :
    Course .cd directory [target] h r := by
  rw [changeDirectory] at htrace
  obtain ⟨resolved, h₁, rest₁, rfl⟩ := trace_request_bind.mp htrace
  obtain e | canonical := resolved
  · obtain ⟨rfl, rfl⟩ := trace_pure.mp rest₁
    exact .failed _ nofun
  obtain ⟨examined, h₂, rest₂, rfl⟩ := trace_request_bind.mp rest₁
  obtain e | _ | _ | _ := examined
  · obtain ⟨rfl, rfl⟩ := trace_pure.mp rest₂
    exact .failed _ nofun
  · obtain ⟨rfl, rfl⟩ := trace_pure.mp rest₂
    exact .failed _ nofun
  · obtain ⟨searched, h₃, rest₃, rfl⟩ := trace_request_bind.mp rest₂
    obtain e | ⟨⟩ := searched
    · obtain ⟨rfl, rfl⟩ := trace_pure.mp rest₃
      exact .failed _ nofun
    · obtain ⟨rfl, rfl⟩ := trace_pure.mp rest₃
      exact .achieved .cd
  · obtain ⟨rfl, rfl⟩ := trace_pure.mp rest₂
    exact .failed _ nofun

/-- A builtin that does not take so many arguments achieves nothing. -/
theorem accepts_of_achieves (hachieves : Achieves directory b args h r) : b.arity.accepts args.length = true := by
  cases hachieves <;> rfl

theorem trace_invoke (htrace : Trace (b.invoke directory args) h r) : Course b directory args h r := by
  rw [invoke] at htrace
  split at htrace
  · rename_i hcount
    cases b with
    | cd =>
      obtain _ | ⟨target, _ | ⟨_, _⟩⟩ := args
      · contradiction
      · exact trace_changeDirectory htrace
      · contradiction
    | pwd =>
      obtain _ | ⟨_, _⟩ := args
      · obtain ⟨examined, k, hrest, rfl⟩ := trace_request_bind.mp htrace
        obtain e | kind := examined <;> obtain ⟨rfl, rfl⟩ := trace_pure.mp hrest
        · exact .failed _ nofun
        · exact .achieved .pwd
      · contradiction
    | which =>
      obtain _ | ⟨name, _ | ⟨_, _⟩⟩ := args
      · contradiction
      · obtain ⟨rfl, rfl⟩ := trace_pure.mp htrace
        exact .achieved .which
      · contradiction
    | exit =>
      obtain ⟨rfl, rfl⟩ := trace_pure.mp htrace
      exact .achieved .exit
  · rename_i hcount
    obtain ⟨rfl, rfl⟩ := trace_pure.mp htrace
    exact .failed _ fun r hachieves => hcount (accepts_of_achieves hachieves)

/-- A builtin that has something to show stays where it is. -/
theorem Course.quiet_or_stays (hcourse : Course b directory args h r) :
    (r.1.stdout = [] ∧ r.1.stderr = []) ∨ r.2 = directory := by
  cases hcourse with
  | achieved hachieves =>
    cases hachieves with
    | cd => exact .inl ⟨rfl, rfl⟩
    | pwd => exact .inr rfl
    | which => exact .inr rfl
    | exit => exact .inr rfl
  | failed message hfails => exact .inr rfl

end Builtin

/-! ### Lines -/

namespace Session

/-- What a session does with what a line was read as. -/
def carryOut (s : Session) : Except ParseError ParsedLine → Action (Session × Except Fault Flow)
  | .error e => do
    match ← complain [e.message] with
    | .error fault => pure (s, .error fault)
    | .ok () => pure ({ s with status := some .syntaxError }, .ok .continue)
  | .ok parsed => do
    match ← complain (parsed.diagnostics.map ExpansionError.message) with
    | .error fault => pure (s, .error fault)
    | .ok () => s.executeCommand parsed.command

theorem execute_eq (s : Session) (line : String) :
    s.execute line = parseIn line s.directory s.config.limits >>= s.carryOut := rfl

/-- The messages of a builtin. -/
def messages (output : BuiltinOutput) : List String := Lines.ofText (Utf8.decodeLossy output.stderr)

/-- The courses of a builtin: its output cannot be written, or cannot be flushed, or its messages cannot be
written, or all is shown. -/
inductive BuiltinCourse (s : Session) (i : Invocation) : List Event → Session × Except Fault Flow → Prop
  | unwritten {h k : List Event} {r : BuiltinOutput × Path} {fault : Fault}
    (hinvoke : Trace (i.builtin.invoke s.directory i.args) h r) (hput : Trace (put .out r.1.stdout) k (.error fault)) :
    BuiltinCourse s i (h ++ k) (s, .error fault)
  | unflushed {h k : List Event} {r : BuiltinOutput × Path} (fault : Fault)
    (hinvoke : Trace (i.builtin.invoke s.directory i.args) h r) (hput : Trace (put .out r.1.stdout) k (.ok ())) :
    BuiltinCourse s i (h ++ (k ++ [⟨.flush .out, .error fault⟩])) ({ s with directory := r.2 }, .error fault)
  | unsaid {h k l : List Event} {r : BuiltinOutput × Path} {fault : Fault}
    (hinvoke : Trace (i.builtin.invoke s.directory i.args) h r) (hput : Trace (put .out r.1.stdout) k (.ok ()))
    (hsay : Trace (complain (messages r.1)) l (.error fault)) :
    BuiltinCourse s i (h ++ (k ++ ⟨.flush .out, .ok ()⟩ :: l)) (s, .error fault)
  | shown {h k l : List Event} {r : BuiltinOutput × Path} (hinvoke : Trace (i.builtin.invoke s.directory i.args) h r)
    (hput : Trace (put .out r.1.stdout) k (.ok ())) (hsay : Trace (complain (messages r.1)) l (.ok ())) :
    BuiltinCourse s i (h ++ (k ++ ⟨.flush .out, .ok ()⟩ :: l))
      ({ s with directory := r.2, status := some r.1.status }, .ok r.1.flow)

/-- The courses of a plan: the output cannot be flushed, or the failures of the plan cannot be written, or all is
shown. -/
inductive PlanCourse (s : Session) (p : Plan) : List Event → Session × Except Fault Flow → Prop
  | unflushed (fault : Fault) : PlanCourse s p [⟨.flush .out, .error fault⟩] (s, .error fault)
  | unsaid {h k : List Event} {o : Outcome} {fault : Fault} (hrun : Trace (p.run s.directory) h o)
    (hsay : Trace (complain (o.failures.map LaunchError.message)) k (.error fault)) :
    PlanCourse s p (⟨.flush .out, .ok ()⟩ :: (h ++ k)) (s, .error fault)
  | shown {h k : List Event} {o : Outcome} (hrun : Trace (p.run s.directory) h o)
    (hsay : Trace (complain (o.failures.map LaunchError.message)) k (.ok ())) :
    PlanCourse s p (⟨.flush .out, .ok ()⟩ :: (h ++ k)) ({ s with status := some o.status }, .ok .continue)

/-- The courses of a line: it is refused, one of its diagnostics cannot be written, or it is blank, calls a builtin or
asks for a plan. -/
inductive LineCourse (s : Session) : Except ParseError ParsedLine → List Event → Session × Except Fault Flow → Prop
  | refusedUnsaid {e : ParseError} {h : List Event} {fault : Fault}
    (hsay : Trace (complain [e.message]) h (.error fault)) :
    LineCourse s (.error e) h (s, .error fault)
  | refused {e : ParseError} {h : List Event} (hsay : Trace (complain [e.message]) h (.ok ())) :
    LineCourse s (.error e) h ({ s with status := some .syntaxError }, .ok .continue)
  | undiagnosed {p : ParsedLine} {h : List Event} {fault : Fault}
    (hsay : Trace (complain (p.diagnostics.map ExpansionError.message)) h (.error fault)) :
    LineCourse s (.ok p) h (s, .error fault)
  | blank {p : ParsedLine} {h : List Event} (hcommand : p.command = .empty)
    (hsay : Trace (complain (p.diagnostics.map ExpansionError.message)) h (.ok ())) :
    LineCourse s (.ok p) h (s, .ok .continue)
  | builtin {p : ParsedLine} {i : Invocation} {h k : List Event} {r : Session × Except Fault Flow}
    (hcommand : p.command = .builtin i)
    (hsay : Trace (complain (p.diagnostics.map ExpansionError.message)) h (.ok ())) (hcourse : s.BuiltinCourse i k r) :
    LineCourse s (.ok p) (h ++ k) r
  | external {p : ParsedLine} {plan : Plan} {h k : List Event} {r : Session × Except Fault Flow}
    (hcommand : p.command = .external plan)
    (hsay : Trace (complain (p.diagnostics.map ExpansionError.message)) h (.ok ())) (hcourse : s.PlanCourse plan k r) :
    LineCourse s (.ok p) (h ++ k) r

variable {s : Session} {h : List Event} {r : Session × Except Fault Flow}

/-- A builtin that cannot show what it has to show has left the session as it was. -/
theorem trace_executeBuiltin {i : Invocation} (htrace : Trace (s.executeBuiltin i) h r) : s.BuiltinCourse i h r := by
  obtain ⟨h₁, output, h', hinvoke, rest₁, rfl⟩ := trace_bind.mp htrace
  have hstays := (Builtin.trace_invoke hinvoke).quiet_or_stays
  obtain ⟨h₂, written, h'', hput, rest₂, rfl⟩ := trace_bind.mp rest₁
  obtain fault | ⟨⟩ := written
  · -- Only a `cd` that succeeds moves, and it has nothing to show.
    have hdirectory : output.2 = s.directory := by
      refine hstays.resolve_left fun ⟨hstdout, _⟩ => ?_
      rw [hstdout] at hput
      rcases trace_put.mp hput with ⟨-, -, hok⟩ | ⟨hne, -⟩
      · cases hok
      · exact hne rfl
    obtain ⟨rfl, rfl⟩ := trace_pure.mp rest₂
    rw [List.append_nil, hdirectory]
    exact .unwritten hinvoke hput
  obtain ⟨flushed, h₃, rest₃, rfl⟩ := trace_request_bind.mp rest₂
  obtain fault | ⟨⟩ := flushed
  · obtain ⟨rfl, rfl⟩ := trace_pure.mp rest₃
    exact .unflushed fault hinvoke hput
  obtain ⟨h₄, said, h₅, hsay, rest₅, rfl⟩ := trace_bind.mp rest₃
  obtain fault | ⟨⟩ := said
  · have hdirectory : output.2 = s.directory := by
      refine hstays.resolve_left fun ⟨_, hstderr⟩ => ?_
      rw [hstderr] at hsay
      have hok := (trace_pure.mp hsay).2
      cases hok
    obtain ⟨rfl, rfl⟩ := trace_pure.mp rest₅
    rw [List.append_nil, hdirectory]
    exact .unsaid hinvoke hput hsay
  · obtain ⟨rfl, rfl⟩ := trace_pure.mp rest₅
    rw [List.append_nil]
    exact .shown hinvoke hput hsay

theorem trace_executePlan {p : Plan} (htrace : Trace (s.executePlan p) h r) : s.PlanCourse p h r := by
  obtain ⟨flushed, h₁, rest₁, rfl⟩ := trace_request_bind.mp htrace
  obtain fault | ⟨⟩ := flushed
  · obtain ⟨rfl, rfl⟩ := trace_pure.mp rest₁
    exact .unflushed fault
  obtain ⟨h₂, outcome, h', hrun, rest₂, rfl⟩ := trace_bind.mp rest₁
  obtain ⟨h₃, said, h₄, hsay, rest₃, rfl⟩ := trace_bind.mp rest₂
  obtain fault | ⟨⟩ := said <;> obtain ⟨rfl, rfl⟩ := trace_pure.mp rest₃ <;> rw [List.append_nil]
  · exact .unsaid hrun hsay
  · exact .shown hrun hsay

theorem trace_carryOut {parsed : Except ParseError ParsedLine} (htrace : Trace (s.carryOut parsed) h r) :
    s.LineCourse parsed h r := by
  cases parsed with
  | error e =>
    obtain ⟨h₁, said, h₂, hsay, rest, rfl⟩ := trace_bind.mp htrace
    obtain fault | ⟨⟩ := said <;> obtain ⟨rfl, rfl⟩ := trace_pure.mp rest <;> rw [List.append_nil]
    · exact .refusedUnsaid hsay
    · exact .refused hsay
  | ok p =>
    obtain ⟨h₁, said, h₂, hsay, rest, rfl⟩ := trace_bind.mp htrace
    obtain fault | ⟨⟩ := said
    · obtain ⟨rfl, rfl⟩ := trace_pure.mp rest
      rw [List.append_nil]
      exact .undiagnosed hsay
    · dsimp only at rest
      cases hcommand : p.command with
      | empty =>
        rw [hcommand] at rest
        obtain ⟨rfl, rfl⟩ := trace_pure.mp rest
        rw [List.append_nil]
        exact .blank hcommand hsay
      | builtin i =>
        rw [hcommand] at rest
        exact .builtin hcommand hsay (trace_executeBuiltin rest)
      | external plan =>
        rw [hcommand] at rest
        exact .external hcommand hsay (trace_executePlan rest)

/-- A line is read, and then it takes one of its courses. -/
theorem exists_lineCourse {σ : Type} (system : System σ) (s : Session) (line : String) (t : σ) :
    ∃ reading carrying, (s.execute line).history system t = reading ++ carrying ∧
      (∀ e ∈ reading, e.request.purpose = .listing) ∧
      s.LineCourse ((parseIn line s.directory s.config.limits).run system t).1 carrying
        ((s.execute line).run system t).1 := by
  have hreading := (for_parseIn line s.directory s.config.limits).trace (trace_run system _ t)
  have hhistory : (s.execute line).history system t = _ := history_bind system _ s.carryOut t
  have hrun : (s.execute line).run system t = _ := run_bind system _ s.carryOut t
  rw [hrun]
  exact ⟨_, _, hhistory, hreading, trace_carryOut (trace_run system _ _)⟩

/-- A builtin only looks and shows. -/
theorem purpose_builtin {i : Invocation} (hcourse : s.BuiltinCourse i h r) :
    ∀ e ∈ h, e.request.purpose = .looking ∨ e.request.purpose = .showing := by
  have hlooks : ∀ {k output}, Trace (i.builtin.invoke s.directory i.args) k output →
      ∀ e ∈ k, e.request.purpose = .looking ∨ e.request.purpose = .showing :=
    fun hinvoke e he => .inl ((for_invoke _ _ _).trace hinvoke e he)
  have hputs : ∀ {bytes k written}, Trace (put .out bytes) k written →
      ∀ e ∈ k, e.request.purpose = .looking ∨ e.request.purpose = .showing :=
    fun hput e he => .inr ((for_put _ _).trace hput e he)
  have hsays : ∀ {messages k said}, Trace (complain messages) k said →
      ∀ e ∈ k, e.request.purpose = .looking ∨ e.request.purpose = .showing :=
    fun hsay e he => .inr ((for_complain _).trace hsay e he)
  cases hcourse with
  | unwritten hinvoke hput => exact List.forall_mem_append.mpr ⟨hlooks hinvoke, hputs hput⟩
  | unflushed fault hinvoke hput =>
    refine List.forall_mem_append.mpr ⟨hlooks hinvoke, List.forall_mem_append.mpr ⟨hputs hput, ?_⟩⟩
    exact List.forall_mem_singleton.mpr (.inr rfl)
  | unsaid hinvoke hput hsay | shown hinvoke hput hsay =>
    refine List.forall_mem_append.mpr ⟨hlooks hinvoke, List.forall_mem_append.mpr ⟨hputs hput, ?_⟩⟩
    exact List.forall_mem_cons.mpr ⟨.inr rfl, hsays hsay⟩

/-! ### The first fault -/

theorem fine_invoke {b : Builtin} {directory : Path} {args : List String} {output : BuiltinOutput × Path}
    (hinvoke : Trace (b.invoke directory args) h output) : ∀ e ∈ h, e.fault? = none :=
  fine_of_for (for_invoke _ _ _) nofun hinvoke

theorem fine_run_plan {p : Plan} {directory : Path} {o : Outcome} (hrun : Trace (p.run directory) h o) :
    ∀ e ∈ h, e.fault? = none := fine_of_for (for_run_plan _ _) nofun hrun

theorem stopsAtFault_builtin {i : Invocation} (hcourse : s.BuiltinCourse i h r) : StopsAtFault h r.2 := by
  cases hcourse with
  | unwritten hinvoke hput => exact ((stopsAtFault_put hput).map fun _ => Flow.continue).behind (fine_invoke hinvoke)
  | unflushed fault hinvoke hput =>
    exact ((stopsAtFault_singleton rfl).behind (stopsAtFault_put hput).fine_of_ok).behind (fine_invoke hinvoke)
  | unsaid hinvoke hput hsay =>
    have hsaid := (stopsAtFault_complain hsay).map fun _ => Flow.continue
    exact ((hsaid.cons rfl).behind (stopsAtFault_put hput).fine_of_ok).behind (fine_invoke hinvoke)
  | @shown _ _ _ output hinvoke hput hsay =>
    have hsaid := (stopsAtFault_complain hsay).map fun _ => output.1.flow
    exact ((hsaid.cons rfl).behind (stopsAtFault_put hput).fine_of_ok).behind (fine_invoke hinvoke)

theorem stopsAtFault_plan {p : Plan} (hcourse : s.PlanCourse p h r) : StopsAtFault h r.2 := by
  cases hcourse with
  | unflushed fault => exact stopsAtFault_singleton rfl
  | unsaid hrun hsay =>
    have hsaid := (stopsAtFault_complain hsay).map fun _ => Flow.continue
    exact (hsaid.behind (fine_run_plan hrun)).cons rfl
  | shown hrun hsay =>
    have hsaid := (stopsAtFault_complain hsay).map fun _ => Flow.continue
    exact (hsaid.behind (fine_run_plan hrun)).cons rfl

theorem stopsAtFault_line {parsed : Except ParseError ParsedLine} (hcourse : s.LineCourse parsed h r) :
    StopsAtFault h r.2 := by
  cases hcourse with
  | refusedUnsaid hsay => exact (stopsAtFault_complain hsay).map fun _ => Flow.continue
  | refused hsay => exact (stopsAtFault_complain hsay).map fun _ => Flow.continue
  | undiagnosed hsay => exact (stopsAtFault_complain hsay).map fun _ => Flow.continue
  | blank hcommand hsay => exact (stopsAtFault_complain hsay).map fun _ => Flow.continue
  | builtin hcommand hsay hcourse => exact (stopsAtFault_builtin hcourse).behind (stopsAtFault_complain hsay).fine_of_ok
  | external hcommand hsay hcourse => exact (stopsAtFault_plan hcourse).behind (stopsAtFault_complain hsay).fine_of_ok

/-- A line fails only for a fault of the session's own streams, and no later than that. -/
theorem stopsAtFault_execute {line : String} (htrace : Trace (s.execute line) h r) : StopsAtFault h r.2 := by
  obtain ⟨h₁, parsed, h₂, hparse, hcarry, rfl⟩ := trace_bind.mp (execute_eq s line ▸ htrace)
  exact (stopsAtFault_line (trace_carryOut hcarry)).behind (fine_of_for (for_parseIn _ _ _) nofun hparse)

end Session
end LineShell
