import LineShell.Proofs.Messages
import LineShell.Proofs.Prompting

/-!
What a session reports. Nothing is written to its error stream but messages, each of which is marked where it begins.
So each line there is marked if each message is of one line, as it is where no name and no path has a newline in it.
Else a plan may fail with a message of several lines, and only the first of them is marked.
-/

namespace LineShell
open LineShell.Action

namespace Session

/-! ### Reports -/

/-- The bytes are reports of messages, each of which is as `P` says. -/
def Reported (P : String → Prop) (bs : Bytes) : Prop := ∃ said : List String, bs = said.flatMap report ∧ ∀ m ∈ said, P m

/-- Each line of the bytes begins with the marker. -/
def Marked (bs : Bytes) : Prop := ∀ line ∈ Lines.split bs, Utf8.encode marker <+: line

instance (bs : Bytes) : Decidable (Marked bs) :=
  inferInstanceAs (Decidable (∀ line ∈ Lines.split bs, Utf8.encode marker <+: line))

section
variable {P : String → Prop} {bs cs : Bytes} {m : String}

theorem reported_nil : Reported P [] := ⟨[], rfl, List.forall_mem_nil _⟩

theorem Reported.append (hbs : Reported P bs) (hcs : Reported P cs) : Reported P (bs ++ cs) := by
  obtain ⟨said, rfl, hsaid⟩ := hbs
  obtain ⟨later, rfl, hlater⟩ := hcs
  exact ⟨said ++ later, List.flatMap_append.symm, List.forall_mem_append.mpr ⟨hsaid, hlater⟩⟩

theorem report_eq (m : String) : report m = Utf8.encode marker ++ Utf8.encode m ++ [Lines.newline] := by
  simp [report, Utf8.encode]
  rfl

/-- Messages of one line are reported line by line. -/
theorem cut_reports {said : List String} (hsaid : ∀ m ∈ said, OneLine m) :
    Cut Lines.newline (said.flatMap report) (said.map report) := by
  induction said with
  | nil => exact .nil
  | cons m said ih =>
    obtain ⟨hm, hsaid⟩ := List.forall_mem_cons.mp hsaid
    have hfront : Lines.newline ∉ Utf8.encode marker ++ Utf8.encode m := by
      rw [List.mem_append, newline_mem_encode_iff, newline_mem_encode_iff]
      exact not_or.mpr ⟨by decide, hm⟩
    rw [List.flatMap_cons, List.map_cons, report_eq, List.append_assoc, List.singleton_append]
    exact .line hfront (ih hsaid)

theorem Reported.marked (h : Reported OneLine bs) : Marked bs := by
  obtain ⟨said, rfl, hsaid⟩ := h
  intro line hline
  rw [(Lines.cut_split _).unique (cut_reports hsaid)] at hline
  obtain ⟨m, -, rfl⟩ := List.mem_map.mp hline
  rw [report_eq, List.append_assoc]
  exact List.prefix_append _ _

end

/-! ### One line -/

/-- The request writes nothing to the error stream. -/
def Silent (r : Request) : Prop := ∀ bytes, r ≠ .write .err bytes

theorem silent_of_purpose {r : Request} (h : r.purpose ≠ .showing) : Silent r := by
  rintro bytes rfl
  exact h rfl

section
variable {h k : List Event} {P : String → Prop} {s : Session} {parsed : Except ParseError ParsedLine}
  {r : Session × Except Fault Flow}

theorem written_err_eq_nil (hsilent : ∀ e ∈ h, Silent e.request) : written .err h = [] := by
  refine List.flatMap_eq_nil_iff.mpr ?_
  rintro ⟨request, answer⟩ he
  cases request with
  | write channel bytes =>
    cases channel with
    | out => cases answer <;> rfl
    | err => exact absurd rfl (hsilent _ he bytes)
  | _ => rfl

theorem reported_silent (hsilent : ∀ e ∈ h, Silent e.request) : Reported P (written .err h) := by
  rw [written_err_eq_nil hsilent]
  exact reported_nil

theorem reported_for {α : Type} {x : Action α} {p : Purpose} {a : α} (hx : x.For p) (hp : p ≠ .showing)
    (htrace : Trace x h a) : Reported P (written .err h) :=
  reported_silent fun e he => silent_of_purpose (purpose_ne_of_for hx hp htrace e he)

theorem only_silent_put (bytes : Bytes) : (put .out bytes).Only Silent := by
  unfold put
  split
  · exact only_pure _
  · exact only_request nofun

theorem reported_complain {messages : List String} {said : Except Fault Unit} (hmessages : ∀ m ∈ messages, P m)
    (htrace : Trace (complain messages) h said) : Reported P (written .err h) := by
  induction messages generalizing h with
  | nil =>
    obtain ⟨rfl, -⟩ := trace_pure.mp htrace
    exact reported_nil
  | cons message messages ih =>
    obtain ⟨hmessage, hmessages⟩ := List.forall_mem_cons.mp hmessages
    rcases trace_complain_cons htrace with ⟨fault, rfl, -⟩ | ⟨k, rfl, hrest⟩
    · exact reported_nil
    · obtain ⟨said, hsaid, hP⟩ := ih hmessages hrest
      refine ⟨message :: said, ?_, List.forall_mem_cons.mpr ⟨hmessage, hP⟩⟩
      rw [List.flatMap_cons, ← hsaid]
      rfl

/-- All that a line can report is as `P` says: why it is refused, its diagnostics, the messages of its builtin and the
failures of its plan. -/
structure Reportable (P : String → Prop) (s : Session) (parsed : Except ParseError ParsedLine) : Prop where
  refusal : ∀ e, parsed = .error e → P e.message
  diagnostics : ∀ p, parsed = .ok p → ∀ e ∈ p.diagnostics, P e.message
  builtin : ∀ output : BuiltinOutput, ∀ m ∈ messages output, P m
  failures : ∀ p plan h o, parsed = .ok p → p.command = .external plan → Trace (plan.run s.directory) h o →
    ∀ e ∈ o.failures, P e.message

theorem reported_builtin {i : Invocation} (hmessages : ∀ output : BuiltinOutput, ∀ m ∈ messages output, P m)
    (hcourse : s.BuiltinCourse i h r) : Reported P (written .err h) := by
  have hlooks : ∀ {k output}, Trace (i.builtin.invoke s.directory i.args) k output → Reported P (written .err k) :=
    fun hinvoke => reported_for (for_invoke _ _ _) nofun hinvoke
  have hputs : ∀ {bytes k written'}, Trace (put .out bytes) k written' → Reported P (written .err k) :=
    fun hput => reported_silent ((only_silent_put _).trace hput)
  cases hcourse with
  | unwritten hinvoke hput =>
    rw [written_append]
    exact (hlooks hinvoke).append (hputs hput)
  | unflushed fault hinvoke hput =>
    rw [written_append, written_append]
    exact (hlooks hinvoke).append ((hputs hput).append reported_nil)
  | @unsaid h k l output fault hinvoke hput hsay | @shown h k l output hinvoke hput hsay =>
    have hsaid := reported_complain (hmessages output.1) hsay
    rw [written_append, written_append]
    exact (hlooks hinvoke).append ((hputs hput).append hsaid)

theorem reported_plan {p : Plan} (hfailures : ∀ h o, Trace (p.run s.directory) h o → ∀ e ∈ o.failures, P e.message)
    (hcourse : s.PlanCourse p h r) : Reported P (written .err h) := by
  have hruns : ∀ {k o}, Trace (p.run s.directory) k o → Reported P (written .err k) :=
    fun hrun => reported_for (for_run_plan _ _) nofun hrun
  cases hcourse with
  | unflushed fault => exact reported_nil
  | @unsaid h k o fault hrun hsay | @shown h k o hrun hsay =>
    have hsaid := reported_complain (List.forall_mem_map.mpr (hfailures h o hrun)) hsay
    have hall := (hruns hrun).append hsaid
    rwa [← written_append] at hall

theorem reported_line (hreportable : Reportable P s parsed) (hcourse : s.LineCourse parsed h r) :
    Reported P (written .err h) := by
  cases hcourse with
  | refusedUnsaid hsay | refused hsay =>
    exact reported_complain (List.forall_mem_singleton.mpr (hreportable.refusal _ rfl)) hsay
  | undiagnosed hsay | blank hcommand hsay =>
    exact reported_complain (List.forall_mem_map.mpr (hreportable.diagnostics _ rfl)) hsay
  | builtin hcommand hsay hcourse =>
    rw [written_append]
    have hsaid := reported_complain (List.forall_mem_map.mpr (hreportable.diagnostics _ rfl)) hsay
    exact hsaid.append (reported_builtin hreportable.builtin hcourse)
  | external hcommand hsay hcourse =>
    rw [written_append]
    have hsaid := reported_complain (List.forall_mem_map.mpr (hreportable.diagnostics _ rfl)) hsay
    exact hsaid.append (reported_plan (fun h o => hreportable.failures _ _ h o rfl hcommand) hcourse)

/-- Whatever becomes of a line, the working directory is then the old one or a path that is called canonical. -/
theorem directory_line {D : Path → Prop}
    (hcanonical : ∀ path canonical, ⟨.canonicalize path, .ok canonical⟩ ∈ h → D canonical) (hs : D s.directory)
    (hcourse : s.LineCourse parsed h r) : D r.1.directory := by
  have hinvoke : ∀ {i : Invocation} {k output}, Trace (i.builtin.invoke s.directory i.args) k output → k ⊆ h →
      D output.2 := by
    rintro ⟨b, args⟩ k output hinvoke hsub
    cases Builtin.trace_invoke hinvoke with
    | failed message hfails => exact hs
    | achieved hachieves =>
      cases hachieves with
      | @cd target canonical => exact hcanonical _ _ (hsub List.mem_cons_self)
      | _ => exact hs
  cases hcourse with
  | builtin hcommand hsay hcourse =>
    cases hcourse with
    | unwritten hinvoke' hput => exact hs
    | unsaid hinvoke' hput hsay => exact hs
    | unflushed fault hinvoke' hput | shown hinvoke' hput hsay => exact hinvoke hinvoke' fun e he => by simp [he]
  | external hcommand hsay hcourse => cases hcourse <;> exact hs
  | _ => exact hs

end

/-! ### Runs -/

section
variable {σ α β : Type} {system : System σ} {D : Path → Prop} {P : String → Prop}

/-- Wherever the action is run from, `D` holds of the working directory that it leaves, and what it reports is as `P`
says. -/
def Reports (system : System σ) (D : Path → Prop) (P : String → Prop) (x : Action (Session × α)) : Prop :=
  ∀ t, D (x.run system t).1.1.directory ∧ Reported P (written .err (x.history system t))

theorem reports_pure {s : Session} (hs : D s.directory) (a : α) : Reports system D P (pure (s, a)) :=
  fun _ => ⟨hs, reported_nil⟩

theorem Reports.bind {x : Action (Session × α)} {f : Session × α → Action (Session × β)} (hx : Reports system D P x)
    (hf : ∀ s a, D s.directory → Reports system D P (f (s, a))) : Reports system D P (x >>= f) := by
  intro t
  obtain ⟨hs, hsaid⟩ := hx t
  obtain ⟨hs', hsaid'⟩ := hf _ (x.run system t).1.2 hs (x.run system t).2
  rw [run_bind, history_bind, written_append]
  exact ⟨hs', hsaid.append hsaid'⟩

theorem Reports.after {x : Action α} {f : α → Action (Session × β)} (hx : x.Only Silent)
    (hf : ∀ a, Reports system D P (f a)) : Reports system D P (x >>= f) := by
  intro t
  obtain ⟨hs, hsaid⟩ := hf (x.run system t).1 (x.run system t).2
  rw [run_bind, history_bind, written_append]
  exact ⟨hs, (reported_silent (hx.trace (trace_run system x t))).append hsaid⟩

theorem only_silent_prompt (s : Session) (mode : Mode) : (s.prompt mode).Only Silent := by
  cases mode with
  | batch => exact only_pure _
  | interactive =>
    refine (only_silent_put _).bind fun shown => ?_
    obtain fault | ⟨⟩ := shown
    · exact only_pure _
    · exact only_request nofun

theorem only_silent_banner (text : String) (mode : Mode) : (banner text mode).Only Silent := by
  cases mode with
  | batch => exact only_pure _
  | interactive => exact only_silent_put _

theorem only_silent_nextLine (source : Option Descriptor) (rounds : Nat) (held : Bytes) :
    (nextLine source rounds held).Only Silent := by
  induction rounds generalizing held with
  | zero => exact only_pure _
  | succ rounds ih =>
    by_cases hheld : Lines.newline ∈ held
    · obtain ⟨front, rest, rfl, hfront⟩ := List.eq_append_cons_of_mem hheld
      rw [nextLine_of_newline hfront]
      exact only_pure _
    · rw [nextLine_of_notMem hheld]
      refine (only_request nofun).bind fun answer => ?_
      obtain fault | _ | ⟨b, piece⟩ := answer
      · exact only_pure _
      · exact only_pure _
      · exact ih _

theorem Reports.betweenBanners {s : Session} (hs : D s.directory) (mode : Mode)
    {body : Action (Session × Except Fault Unit)} (hbody : Reports system D P body) :
    Reports system D P (s.betweenBanners mode body) := by
  refine Reports.after (only_silent_banner _ mode) fun shown => ?_
  obtain fault | ⟨⟩ := shown
  · exact reports_pure hs _
  refine hbody.bind fun s' result hs' => ?_
  obtain fault | ⟨⟩ := result
  · exact reports_pure hs' _
  refine Reports.after (only_silent_banner _ mode) fun shown => ?_
  obtain fault | ⟨⟩ := shown
  · exact reports_pure hs' _
  · exact Reports.after (only_request nofun) fun flushed => reports_pure hs' _

section
variable (hline : ∀ (s : Session) (line : String), D s.directory → Reports system D P (s.execute line))
  {s : Session} (hs : D s.directory) (mode : Mode)
include hline hs

theorem reports_runLines (ending : Option Fault) (lines : List String) :
    Reports system D P (runLines mode ending s lines) := by
  induction lines generalizing s with
  | nil =>
    refine Reports.after (only_silent_prompt s mode) fun shown => ?_
    obtain fault | ⟨⟩ := shown <;> exact reports_pure hs _
  | cons line lines ih =>
    refine Reports.after (only_silent_prompt s mode) fun shown => ?_
    obtain fault | ⟨⟩ := shown
    · exact reports_pure hs _
    · refine (hline s line hs).bind fun s' flow hs' => ?_
      obtain fault | _ | _ := flow
      · exact reports_pure hs' _
      · exact ih hs'
      · exact reports_pure hs' _

theorem reports_runSource (source : Option Descriptor) (rounds : Nat) (held : Bytes) :
    Reports system D P (runSource mode source rounds s held) := by
  induction rounds generalizing s held with
  | zero => exact reports_pure hs _
  | succ rounds ih =>
    refine Reports.after (only_silent_prompt s mode) fun shown => ?_
    obtain fault | ⟨⟩ := shown
    · exact reports_pure hs _
    refine Reports.after (only_silent_nextLine source _ held) fun next => ?_
    obtain fault | ⟨_ | ⟨b, line⟩, rest⟩ := next
    · exact reports_pure hs _
    · exact reports_pure hs _
    · refine (hline s _ hs).bind fun s' flow hs' => ?_
      obtain fault | _ | _ := flow
      · exact reports_pure hs' _
      · exact ih hs' rest
      · exact reports_pure hs' _

theorem reports_run (input : Reading) : Reports system D P (s.run mode input) :=
  (reports_runLines hline hs mode input.failure (linesOf input)).betweenBanners hs mode

theorem reports_runLive (source : Option Descriptor) : Reports system D P (s.runLive mode source) :=
  (reports_runSource hline hs mode source manyPieces []).betweenBanners hs mode

end

/-- What holds of the first working directory and of canonical paths holds of all working directories, so that it is
enough if all that a line can report there is as `P` says. -/
theorem reports_execute {s : Session} (hs : D s.directory) (line : String)
    (hcanonical : ∀ path t canonical, (system.answer (.canonicalize path) t).1 = .ok canonical → D canonical)
    (hreportable : ∀ t, Reportable P s ((parseIn line s.directory s.config.limits).run system t).1) :
    Reports system D P (s.execute line) := by
  intro t
  obtain ⟨reading, carrying, hhistory, hreading, hcourse⟩ := exists_lineCourse system s line t
  have hlists : Reported P (written .err reading) :=
    reported_silent fun e he => silent_of_purpose (hreading e he ▸ nofun)
  refine ⟨directory_line (fun path canonical he => ?_) hs hcourse, ?_⟩
  · obtain ⟨u, hu⟩ := exists_answer_of_mem_history system (hhistory ▸ List.mem_append_right reading he)
    exact hcanonical path u canonical hu.symm
  · rw [hhistory, written_append]
    exact hlists.append (reported_line (hreportable t) hcourse)

theorem oneLine_reportable (hsystem : system.Plain) {s : Session} (hs : Lines.newline ∉ s.directory.bytes)
    (line : String) (t : σ) : Reportable OneLine s ((parseIn line s.directory s.config.limits).run system t).1 where
  refusal e _ := oneLine_parseError e
  diagnostics p hp e he := (plain_diagnostics hp e he).oneLine
  builtin := oneLine_messages
  failures := by
    rintro ⟨command, diagnostics⟩ plan h o hp rfl hrun e he
    exact (Plan.plain_run (plain_stages hsystem hp) hs hrun e he).oneLine

/-- Nothing but messages is ever written to the error stream, each marked where it begins. They are of one line, but
for those of plans that fail. -/
theorem run_reports (system : System σ) (s : Session) (mode : Mode) (input : Reading) (source : Option Descriptor)
    (t : σ) :
    let P : String → Prop := fun m => OneLine m ∨ ∃ e : LaunchError, m = e.message
    Reported P (written .err ((s.run mode input).history system t)) ∧
      Reported P (written .err ((s.runLive mode source).history system t)) := by
  intro P
  have hline : ∀ (s : Session) (line : String), True → Reports system (fun _ => True) P (s.execute line) := by
    intro s line _
    refine reports_execute trivial line (fun _ _ _ _ => trivial) fun t => ⟨?_, ?_, ?_, ?_⟩
    · exact fun e _ => .inl (oneLine_parseError e)
    · exact fun p hp e he => .inl (plain_diagnostics hp e he).oneLine
    · exact fun output m hm => .inl (oneLine_messages output m hm)
    · exact fun _ _ _ _ _ _ _ e _ => .inr ⟨e, rfl⟩
  exact ⟨(reports_run (D := fun _ => True) hline trivial mode input t).2,
    (reports_runLive (D := fun _ => True) hline trivial mode source t).2⟩

/-- Where no name and no path has a newline in it, each line of a session's error output is marked. -/
theorem run_marked {system : System σ} (hsystem : system.Plain) {s : Session} (hs : Lines.newline ∉ s.directory.bytes)
    (mode : Mode) (input : Reading) (source : Option Descriptor) (t : σ) :
    Marked (written .err ((s.run mode input).history system t)) ∧
      Marked (written .err ((s.runLive mode source).history system t)) := by
  let D : Path → Prop := fun directory => Lines.newline ∉ directory.bytes
  have hline : ∀ (s : Session) (line : String), D s.directory → Reports system D OneLine (s.execute line) :=
    fun s line hs => reports_execute hs line hsystem.canonical (oneLine_reportable hsystem hs line)
  exact ⟨(reports_run (D := D) hline hs mode input t).2.marked,
    (reports_runLive (D := D) hline hs mode source t).2.marked⟩

end

/-- A directory with one name in it, where no program can be found. -/
def single (name : Bytes) : System Unit where
  answer r t := (match r with
    | .listDirectory _ => .ok [name]
    | .canonicalize _ => .ok ⟨[Path.slash]⟩
    | .spawn _ => .error (.os .enoent)
    | r => (Machine.system.answer r { tree := {} }).1, t)

theorem plain_single {name : Bytes} (hname : Lines.newline ∉ name) : (single name).Plain where
  names := by
    rintro directory t names hnames other hother
    cases hnames
    rwa [List.mem_singleton.mp hother]
  canonical := by
    rintro path t canonical hcanonical
    cases hcanonical
    decide

/-- Messages of each kind, where the name is of one line. -/
theorem run_marked_single :
    let s : Session := { config := { logDirectory := ⟨[]⟩ }, directory := ⟨[Path.slash]⟩ }
    let system := single (Utf8.encode "a b")
    let input : Reading := { bytes := Utf8.encode "* x\n|\ncd\ntrue *[\n" }
    let said := written .err ((s.run .batch input).history system ())
    system.Plain ∧ Lines.newline ∉ s.directory.bytes ∧ Marked said ∧
      said = ["a b: command not found", "syntax error: missing command", "cd: wrong number of arguments",
        "invalid pattern `*[`: Pattern syntax error near position 1: invalid range pattern",
        "true: command not found"].flatMap report := by
  intro s system input said
  have hsystem : system.Plain := plain_single (by decide)
  have hs : Lines.newline ∉ s.directory.bytes := by decide
  exact ⟨hsystem, hs, (run_marked hsystem hs .batch input none ()).1, by decide +kernel⟩

/-- A program that cannot be found and has a name of two lines: the second one is not marked. -/
theorem run_unmarked :
    let s : Session := { config := { logDirectory := ⟨[]⟩ }, directory := ⟨[Path.slash]⟩ }
    let said := written .err ((s.run .batch { bytes := Utf8.encode "*\n" }).history (single (Utf8.encode "a\nb")) ())
    said = Utf8.encode "mysh: a\nb: command not found\n" ∧ ¬Marked said := by
  intro s said
  have hsaid : said = Utf8.encode "mysh: a\nb: command not found\n" := by decide +kernel
  exact ⟨hsaid, by rw [hsaid]; decide⟩

end Session
end LineShell
