import LineShell.Machine.System
import LineShell.Proofs.Encoding
import LineShell.Proofs.Failing
import LineShell.Startup

/-!
How a run of the program is prepared and how it ends. The preparations are taken one after the other, each by
requests of its own kind; the first one that fails is reported, and nothing comes behind it. Where they all
succeed, a session is run, and the exit code tells only whether something failed that the session itself has
read or written. A file of variables that cannot be read to its end gives those of the lines before the failure.
-/

namespace LineShell
open LineShell.Action

/-! ### What each preparation asks for -/

/-- The request leaves all files as they are. -/
def Request.Looks : Request → Prop
  | .currentDirectory | .examine _ | .openInput _ | .readAll _ | .close _ | .getVariable _ | .setVariable _ _
  | .isTerminal => True
  | _ => False

/-- The request is one for the log file and its directories. -/
def Request.Logs : Request → Prop
  | .openAppend _ | .createDirectory _ | .examine _ => True
  | _ => False

/-- The request is one for the directives on what is logged, or a complaint about them. -/
def Request.Filters : Request → Prop
  | .getVariable name => name = LogFilter.variableName
  | .write .err _ => True
  | _ => False

namespace EnvFile

theorem looks_textOf? (name : String) : (textOf? name).Only Request.Looks :=
  (only_request trivial).bind fun _ => only_pure _

theorem looks_valueOf (parts : List ValuePart) : (valueOf parts).Only Request.Looks := by
  induction parts with
  | nil => exact only_pure _
  | cons part parts ih =>
    obtain c | name := part
    · exact ih.bind fun _ => only_pure _
    · exact (looks_textOf? name).bind fun _ => ih.bind fun _ => only_pure _

theorem looks_loadLines (lines : List (Option (List Char))) : (loadLines lines).Only Request.Looks := by
  fun_induction loadLines lines with
  | case1 | case2 | case3 => exact only_pure _
  | case4 line lines hread ih => exact ih
  | case5 line lines entry hread ih =>
    refine (looks_valueOf _).bind fun value => (looks_textOf? _).bind fun found => ?_
    cases found with
    | some old => exact ih
    | none =>
      dsimp only
      split
      · exact only_pure _
      · exact (only_request trivial).bind fun _ => ih

theorem looks_find (n : Nat) (directory : Path) : (find n directory).Only Request.Looks := by
  induction n generalizing directory with
  | zero => exact only_pure _
  | succ n ih =>
    refine (only_request trivial).bind fun examined => ?_
    obtain e | _ | _ | _ := examined
    · dsimp only
      split
      · exact only_pure _
      · split
        · exact only_pure _
        · exact ih _
    · exact only_pure _
    · dsimp only
      split
      · exact only_pure _
      · exact ih _
    · dsimp only
      split
      · exact only_pure _
      · exact ih _

theorem looks_load : load.Only Request.Looks := by
  refine (only_request trivial).bind fun entered => ?_
  obtain e | directory := entered
  · exact only_pure _
  refine (looks_find _ _).bind fun found => ?_
  obtain _ | path := found
  · exact only_pure _
  refine (only_request trivial).bind fun opened => ?_
  obtain e | d := opened
  · exact only_pure _
  · exact (only_request trivial).bind fun reading => (only_request trivial).bind fun _ => looks_loadLines _

/-! ### Files that cannot be read to their end -/

section
variable {whole rest : Bytes} {e : Fault}

/-- Lines are joined up to a malformed one as they are with whatever else in its place. -/
theorem exists_join_append_none (read : List Char) (state : LineState) (lines : List (Option (List Char))) :
    ∃ joined, join read state (lines ++ [none]) = joined ++ [none] ∧
      ∀ more, joined <+: join read state (lines ++ more) := by
  induction lines generalizing read state with
  | nil => exact ⟨[], rfl, fun _ => List.nil_prefix⟩
  | cons line lines ih =>
    cases line with
    | none => exact ⟨[], rfl, fun _ => List.nil_prefix⟩
    | some line =>
      have hcons : ∀ first, ∃ joined, first :: join [] .plain (lines ++ [none]) = joined ++ [none] ∧
          ∀ more, joined <+: first :: join [] .plain (lines ++ more) := by
        intro first
        obtain ⟨joined, hjoined, hprefix⟩ := ih [] .plain
        exact ⟨first :: joined, by rw [hjoined, List.cons_append],
          fun more => List.cons_prefix_cons.mpr ⟨rfl, hprefix more⟩⟩
      simp only [List.cons_append, join]
      split
      · exact hcons _
      · split
        · exact hcons _
        · exact hcons _
        · exact ih _ _

theorem withoutMark_suffix (bs : Bytes) : withoutMark bs <:+ bs := by
  unfold withoutMark
  split
  · next bs => exact ⟨[0xEF, 0xBB, 0xBF], rfl⟩
  · exact List.suffix_rfl

/-- A mark does not go on behind the end of a line. -/
theorem exists_withoutMark_append (hwhole : whole.getLast? = some Lines.newline) :
    ∃ bs, (bs = [] ∨ bs.getLast? = some Lines.newline) ∧ ∀ more, withoutMark (whole ++ more) = bs ++ more := by
  by_cases hmark : [0xEF, 0xBB, 0xBF] <+: whole
  · obtain ⟨bs, rfl⟩ := hmark
    refine ⟨bs, ?_, fun _ => rfl⟩
    cases bs with
    | nil => exact .inl rfl
    | cons b bs => exact .inr (by simpa using hwhole)
  · refine ⟨whole, .inr hwhole, fun more => ?_⟩
    unfold withoutMark
    split
    · next bs heq =>
      have hprefix : [0xEF, 0xBB, 0xBF] <+: whole ++ more := ⟨bs, heq.symm⟩
      rcases List.prefix_or_prefix_of_prefix hprefix (List.prefix_append whole more) with hwithin | hwithin
      · exact absurd hwithin hmark
      · exact absurd (hwithin.subset (List.mem_of_getLast? hwhole)) (by decide)
    · rfl

/-- The lines of a file that cannot be read to its end are those before the failure. What has been read of the line
that it falls into is not used, and the lines before it are those of the whole file. -/
theorem linesOf_of_failure (hwhole : whole = [] ∨ whole.getLast? = some Lines.newline) (hrest : Lines.newline ∉ rest) :
    ∃ lines, linesOf ⟨whole ++ rest, some e⟩ = lines ++ [none] ∧ linesOf ⟨whole, some e⟩ = lines ++ [none] ∧
      ∀ more, lines <+: linesOf ⟨whole ++ more, none⟩ := by
  rcases hwhole with rfl | hwhole
  · have hnone : Lines.newline ∉ withoutMark rest := fun hmem => hrest ((withoutMark_suffix rest).subset hmem)
    have hlines : (Lines.split (withoutMark rest)).filter Lines.isComplete = [] :=
      Lines.filter_isComplete_split (.inl rfl) hnone
    exact ⟨[], by simp [linesOf, hlines, join], rfl, fun _ => List.nil_prefix⟩
  · obtain ⟨bs, hends, hmark⟩ := exists_withoutMark_append hwhole
    have hlines : ∀ rest, Lines.newline ∉ rest →
        linesOf ⟨whole ++ rest, some e⟩ = join [] .plain ((Lines.split bs).map text? ++ [none]) := by
      intro rest hrest
      simp only [linesOf, hmark, Lines.filter_isComplete_split hends hrest]
    obtain ⟨lines, hjoined, hprefix⟩ := exists_join_append_none [] .plain ((Lines.split bs).map text?)
    refine ⟨lines, (hlines rest hrest).trans hjoined, ?_, fun more => ?_⟩
    · rw [← List.append_nil whole]
      exact (hlines [] List.not_mem_nil).trans hjoined
    · simp only [linesOf, hmark, Lines.split_append hends, List.map_append]
      exact hprefix _

end

/-! ### Values with a NUL -/

/-- The file that has been read gives a variable a value with a NUL in it. -/
def GivesNul (h : List Event) (key : String) : Prop :=
  ∃ d reading line entry k value, ⟨.readAll (some d), reading⟩ ∈ h ∧ some line ∈ linesOf reading ∧
    readLine line = some (some entry) ∧ entry.key = key ∧ k <:+: h ∧ Trace (valueOf entry.value) k value ∧
    '\x00' ∈ value.toList

theorem exists_nul_of_loadLines {lines : List (Option (List Char))} {h : List Event} {e : ValueFault}
    (htrace : Trace (loadLines lines) h (.error e)) :
    ∃ line entry k value, some line ∈ lines ∧ readLine line = some (some entry) ∧ entry.key = e.key ∧ k <:+: h ∧
      Trace (valueOf entry.value) k value ∧ '\x00' ∈ value.toList := by
  fun_induction loadLines lines generalizing h with
  | case1 | case2 | case3 => cases (trace_pure.mp htrace).2
  | case4 line lines hread ih =>
    obtain ⟨line', entry, k, value, hline, hrest⟩ := ih htrace
    exact ⟨line', entry, k, value, List.mem_cons_of_mem _ hline, hrest⟩
  | case5 line lines entry hread ih =>
    obtain ⟨h₁, value, k₁, hvalue, rest₁, rfl⟩ := trace_bind.mp htrace
    obtain ⟨h₂, found, k₂, hfound, rest₂, rfl⟩ := trace_bind.mp rest₁
    cases found with
    | some old =>
      obtain ⟨line', entry', k, value', hline, hread', hkey, hpart, hrest⟩ := ih rest₂
      refine ⟨line', entry', k, value', List.mem_cons_of_mem _ hline, hread', hkey, ?_, hrest⟩
      rw [← List.append_assoc]
      exact hpart.trans (List.suffix_append _ _).isInfix
    | none =>
      dsimp only at rest₂
      split at rest₂
      · next hnul =>
        obtain ⟨rfl, herror⟩ := trace_pure.mp rest₂
        cases herror
        exact ⟨line, entry, h₁, value, List.mem_cons_self, hread, rfl, (List.prefix_append _ _).isInfix, hvalue,
          by simpa using hnul⟩
      · obtain ⟨answer, k₃, rest₃, rfl⟩ := trace_request_bind.mp rest₂
        obtain ⟨line', entry', k, value', hline, hread', hkey, hpart, hrest⟩ := ih rest₃
        refine ⟨line', entry', k, value', List.mem_cons_of_mem _ hline, hread', hkey, ?_, hrest⟩
        rw [List.append_cons, ← List.append_assoc, ← List.append_assoc]
        exact hpart.trans (List.suffix_append _ _).isInfix

/-- Only a value with a NUL in it is more than the program can stand. -/
theorem givesNul_of_load {h : List Event} {e : ValueFault} (htrace : Trace load h (.error e)) : GivesNul h e.key := by
  obtain ⟨entered, k₁, rest₁, rfl⟩ := trace_request_bind.mp htrace
  obtain fault | directory := entered
  · cases (trace_pure.mp rest₁).2
  obtain ⟨h₂, found, k₂, hfind, rest₂, rfl⟩ := trace_bind.mp rest₁
  obtain _ | path := found
  · cases (trace_pure.mp rest₂).2
  obtain ⟨opened, k₃, rest₃, rfl⟩ := trace_request_bind.mp rest₂
  obtain fault | d := opened
  · cases (trace_pure.mp rest₃).2
  obtain ⟨reading, k₄, rest₄, rfl⟩ := trace_request_bind.mp rest₃
  obtain ⟨closed, k₅, rest₅, rfl⟩ := trace_request_bind.mp rest₄
  obtain ⟨line, entry, k, value, hline, hread, hkey, hpart, hvalue, hnul⟩ := exists_nul_of_loadLines rest₅
  have hsuffix : k₅ <:+ ⟨.currentDirectory, .ok directory⟩ :: (h₂ ++ ⟨.openInput path, .ok d⟩ ::
      ⟨.readAll (some d), reading⟩ :: ⟨.close d, closed⟩ :: k₅) := by
    simp [List.suffix_cons_iff, List.suffix_append_of_suffix]
  exact ⟨d, reading, line, entry, k, value, by simp, hline, hread, hkey, hpart.trans hsuffix.isInfix, hvalue, hnul⟩

end EnvFile

namespace Config

theorem looks_temporaryDirectory : temporaryDirectory.Only Request.Looks :=
  (only_request trivial).bind fun _ => only_pure _

theorem looks_readText (path : Path) : (readText path).Only Request.Looks := by
  refine (only_request trivial).bind fun opened => ?_
  obtain e | d := opened
  · exact only_pure _
  refine (only_request trivial).bind fun reading => (only_request trivial).bind fun _ => ?_
  split <;> exact only_pure _

theorem looks_ofFile (path : Path) : (ofFile path).Only Request.Looks := by
  refine (looks_readText path).bind fun read => ?_
  obtain e | text := read
  · exact only_pure _
  refine looks_temporaryDirectory.bind fun temporary => ?_
  split <;> exact only_pure _

theorem looks_load : load.Only Request.Looks := by
  refine (only_request trivial).bind fun named => ?_
  cases named with
  | none => exact looks_temporaryDirectory.bind fun _ => only_pure _
  | some path => exact looks_ofFile _

end Config

namespace LogFile

theorem logs_isDirectory (path : Path) : (isDirectory path).Only Request.Logs := by
  refine (only_request trivial).bind fun examined => ?_
  obtain e | _ | _ | _ := examined <;> exact only_pure _

theorem logs_ensureDirectory (path : Path) : (ensureDirectory path).Only Request.Logs := by
  refine (only_request trivial).bind fun created => ?_
  obtain e | ⟨⟩ := created
  · exact (logs_isDirectory path).bind fun _ => only_pure _
  · exact only_pure _

theorem logs_ensureDirectories (n : Nat) (path : Path) : (ensureDirectories n path).Only Request.Logs := by
  induction n generalizing path with
  | zero => exact logs_ensureDirectory path
  | succ n ih =>
    unfold ensureDirectories
    split
    · exact only_pure _
    refine (only_request trivial).bind fun created => ?_
    obtain e | ⟨⟩ := created
    · dsimp only
      split
      · split
        · exact only_pure _
        · refine (ih _).bind fun ensured => ?_
          obtain e | ⟨⟩ := ensured
          · exact only_pure _
          · exact logs_ensureDirectory path
      · exact (logs_isDirectory path).bind fun _ => only_pure _
    · exact only_pure _

theorem logs_openIn (directory : Path) : (openIn directory).Only Request.Logs := by
  refine (only_request trivial).bind fun opened => ?_
  obtain e | d := opened
  · dsimp only
    split
    · exact only_pure _
    · refine (logs_ensureDirectories _ _).bind fun ensured => ?_
      obtain e | ⟨⟩ := ensured
      · exact only_pure _
      · exact only_request trivial
  · exact only_pure _

end LogFile

namespace LogFilter

theorem filters_complain (complaints : List String) : (complain complaints).Only Request.Filters := by
  induction complaints with
  | nil => exact only_pure _
  | cons complaint complaints ih =>
    refine (only_request trivial).bind fun written => ?_
    obtain e | ⟨⟩ := written
    · exact only_pure _
    · exact ih

theorem filters_load : load.Only Request.Filters := by
  have hasks : Request.Filters (.getVariable variableName) := rfl
  refine (only_request hasks).bind fun value => ?_
  split
  · exact only_pure _
  · exact filters_complain _

end LogFilter

namespace Startup

theorem looks_openInput (file : Option String) : (openInput file).Only Request.Looks := by
  cases file with
  | none => exact (only_request trivial).bind fun _ => only_pure _
  | some file =>
    refine (only_request trivial).bind fun opened => ?_
    obtain e | d := opened <;> exact only_pure _

/-! ### Courses -/

/-- What is shown of a run that cannot go on. -/
def reported (message : String) (written : Except Fault Unit) : Event :=
  ⟨.write .err (Utf8.encode ("Error: " ++ message ++ "\n")), written⟩

/-- The run has failed: the message is shown, or cannot be, and that is all. -/
def Fails (message : String) (h : List Event) (exit : Exit) : Prop :=
  exit = .failure ∧ ∃ written, h = [reported message written]

/-- The courses of a preparation, which makes only requests of its kind, and of what comes behind it: it fails, and
then the run stops, or it succeeds, and the run goes on with what it has given. -/
inductive Step {ε α : Type} (x : Action (Except ε α)) (asks : Request → Prop) (stop : ε → List Event → Exit → Prop)
    (next : α → List Event → Exit → Prop) : List Event → Exit → Prop
  | failed {h k : List Event} {e : ε} {exit : Exit} (htrace : Trace x h (.error e)) (hasks : ∀ e ∈ h, asks e.request)
    (hstop : stop e k exit) : Step x asks stop next (h ++ k) exit
  | passed {h k : List Event} {a : α} {exit : Exit} (htrace : Trace x h (.ok a)) (hasks : ∀ e ∈ h, asks e.request)
    (hnext : next a k exit) : Step x asks stop next (h ++ k) exit

/-- The courses of a session: it has nowhere to start, something fails that it reads or writes, or nothing does, and
then the run succeeds. -/
inductive SessionCourse (config : Config) (mode : Mode) (source : Option Descriptor) : List Event → Exit → Prop
  | nowhere (e : Fault) (written : Except Fault Unit) :
    SessionCourse config mode source [⟨.currentDirectory, .error e⟩, reported e.message written] .failure
  | failed {directory : Path} {s : Session} {h : List Event} {fault : Fault} (written : Except Fault Unit)
    (htrace : Trace (Session.runLive { config, directory } mode source) h (s, .error fault))
    (hfails : ∃ before last, h = before ++ [last] ∧ (∀ e ∈ before, e.failure? = none) ∧ last.failure? = some fault) :
    SessionCourse config mode source
      (⟨.currentDirectory, .ok directory⟩ :: (h ++ [reported fault.message written])) .failure
  | finished {directory : Path} {s : Session} {h : List Event}
    (htrace : Trace (Session.runLive { config, directory } mode source) h (s, .ok ()))
    (hfine : ∀ e ∈ h, e.failure? = none) :
    SessionCourse config mode source (⟨.currentDirectory, .ok directory⟩ :: h) .success

/-- The courses of a run once the environment is there: the settings, the log file, what is logged, the source of the
lines, and the session, each only where all before it have succeeded. -/
def Prepares (file : Option String) : List Event → Exit → Prop :=
  Step Config.load Request.Looks (fun e => Fails e.message) fun config =>
    Step (LogFile.openIn config.logDirectory) Request.Logs
      (fun e => Fails s!"failed to open log file in {config.logDirectory.display}: {e.message}") fun _ =>
        Step LogFilter.load Request.Filters (fun _ h exit => h = [] ∧ exit = .broken) fun _ =>
          Step (openInput file) Request.Looks Fails fun input => SessionCourse config input.1 input.2

/-- The courses of a run that is given a file or none. Nothing is said of what follows where a variable is to be
given a value with a NUL in it. -/
inductive StartCourse (file : Option String) : List Event → Exit → Prop
  | valueless {h k : List Event} {e : EnvFile.ValueFault} {exit : Exit} (hload : Trace EnvFile.load h (.error e))
    (hlooks : ∀ e ∈ h, e.request.Looks) (hnul : EnvFile.GivesNul h e.key) : StartCourse file (h ++ k) exit
  | loaded {h k : List Event} {exit : Exit} (hload : Trace EnvFile.load h (.ok ()))
    (hlooks : ∀ e ∈ h, e.request.Looks) (hprepares : Prepares file k exit) : StartCourse file (h ++ k) exit

/-- The courses of a run with its arguments, as they are given to it. -/
inductive Course : List Bytes → List Event → Exit → Prop
  | textless {args : List Bytes} {arg : Bytes} (harg : arg ∈ args) (hno : ∀ text, arg ≠ Utf8.encode text)
    (written : Except Fault Unit) : Course args [reported "an argument is no text" written] .broken
  | usage {args : List String} (hmany : 1 < args.length) :
    Course (args.map Utf8.encode) [⟨.write .err (Utf8.encode usage), .ok ()⟩] .failure
  | usageUnshown {args : List String} (hmany : 1 < args.length) (fault : Fault) :
    Course (args.map Utf8.encode) [⟨.write .err (Utf8.encode usage), .error fault⟩] .broken
  | started {file : Option String} {h : List Event} {exit : Exit} (hstarts : StartCourse file h exit) :
    Course (file.toList.map Utf8.encode) h exit

section
variable {h : List Event} {exit : Exit}

theorem trace_fail {message : String} (htrace : Trace (fail message) h exit) : Fails message h exit := by
  obtain ⟨written, k, hrest, rfl⟩ := trace_request_bind.mp htrace
  obtain ⟨rfl, rfl⟩ := trace_pure.mp hrest
  exact ⟨rfl, written, rfl⟩

/-- A preparation is followed by what is done with its result. -/
theorem trace_step {ε α : Type} {x : Action (Except ε α)} {f : Except ε α → Action Exit} {asks : Request → Prop}
    {stop : ε → List Event → Exit → Prop} {next : α → List Event → Exit → Prop} (hx : x.Only asks)
    (hstop : ∀ e k exit, Trace (f (.error e)) k exit → stop e k exit)
    (hnext : ∀ a k exit, Trace (f (.ok a)) k exit → next a k exit) (htrace : Trace (x >>= f) h exit) :
    Step x asks stop next h exit := by
  obtain ⟨h₁, r, k, hresult, hrest, rfl⟩ := trace_bind.mp htrace
  have hasks := hx.trace hresult
  cases r with
  | error e => exact .failed hresult hasks (hstop e k exit hrest)
  | ok a => exact .passed hresult hasks (hnext a k exit hrest)

theorem trace_runSession {config : Config} {mode : Mode} {source : Option Descriptor}
    (htrace : Trace (runSession config mode source) h exit) : SessionCourse config mode source h exit := by
  obtain ⟨entered, k₁, rest₁, rfl⟩ := trace_request_bind.mp htrace
  obtain e | directory := entered
  · obtain ⟨rfl, written, rfl⟩ := trace_fail rest₁
    exact .nowhere e written
  obtain ⟨h₂, ⟨s, ran⟩, k₂, hrun, rest₂, rfl⟩ := trace_bind.mp rest₁
  have hstops := Session.stopsAtFailure_runLive hrun
  obtain fault | ⟨⟩ := ran
  · obtain ⟨rfl, written, rfl⟩ := trace_fail rest₂
    exact .failed written hrun hstops
  · obtain ⟨rfl, rfl⟩ := trace_pure.mp rest₂
    rw [List.append_nil]
    exact .finished hrun hstops

theorem trace_start {file : Option String} (htrace : Trace (start file) h exit) : StartCourse file h exit := by
  obtain ⟨h₁, loaded, k, hload, hrest, rfl⟩ := trace_bind.mp htrace
  have hlooks := EnvFile.looks_load.trace hload
  obtain e | ⟨⟩ := loaded
  · exact .valueless hload hlooks (EnvFile.givesNul_of_load hload)
  refine .loaded hload hlooks (trace_step Config.looks_load (fun _ _ _ => trace_fail) (fun config _ _ => ?_) hrest)
  refine trace_step (LogFile.logs_openIn _) (fun _ _ _ => trace_fail) fun _ _ _ => ?_
  refine trace_step LogFilter.filters_load (fun _ _ _ hbroken => trace_pure.mp hbroken) fun _ _ _ => ?_
  exact trace_step (looks_openInput file) (fun _ _ _ => trace_fail) fun _ _ _ => trace_runSession

theorem trace_run_texts {args : List String} (htrace : Trace (run args) h exit) :
    Course (args.map Utf8.encode) h exit := by
  match args with
  | [] => exact (.started (trace_start htrace) : Course ((Option.toList none).map Utf8.encode) h exit)
  | [file] => exact (.started (trace_start htrace) : Course ((Option.toList (some file)).map Utf8.encode) h exit)
  | first :: second :: rest =>
    obtain ⟨written, k, hrest, rfl⟩ := trace_request_bind.mp htrace
    obtain fault | ⟨⟩ := written <;> obtain ⟨rfl, rfl⟩ := trace_pure.mp hrest
    · exact .usageUnshown (by simp) fault
    · exact .usage (by simp)

/-- Whatever it is given, a run takes one of its courses. -/
theorem run_course {σ : Type} (system : System σ) (args : List Bytes) (t : σ) :
    Course args ((runGiven args).history system t) ((runGiven args).run system t).1 := by
  have htrace := trace_run system (runGiven args) t
  generalize (runGiven args).history system t = h, ((runGiven args).run system t).1 = exit at htrace
  unfold runGiven at htrace
  cases htexts : args.mapM Utf8.decode? with
  | some texts =>
    rw [htexts] at htrace
    rw [Utf8.mapM_decode?_eq_some_iff.mp htexts]
    exact trace_run_texts htrace
  | none =>
    rw [htexts] at htrace
    obtain ⟨arg, harg, hno⟩ := Utf8.exists_notText_of_mapM htexts
    obtain ⟨h₁, failed, k, hfail, hrest, rfl⟩ := trace_bind.mp htrace
    obtain ⟨-, written, rfl⟩ := trace_fail hfail
    obtain ⟨rfl, rfl⟩ := trace_pure.mp hrest
    exact .textless harg hno written

end

/-- Surroundings in which each path names a file with these bytes in it. -/
def filled (data : Bytes) (directory : Except Fault Path) (said : Except Fault Unit) : System Unit where
  answer r t := (match r with
    | .currentDirectory => directory
    | .examine _ => .ok .file
    | .openInput _ => .ok ⟨3⟩
    | .openAppend _ => .ok ⟨4⟩
    | .readAll _ => ⟨data, none⟩
    | .read _ _ => .ok []
    | .write .err _ => said
    | r => (Machine.system.answer r { tree := {} }).1, t)

/-- The surroundings with these directives on what is logged. -/
def directed {σ : Type} (directives : String) (system : System σ) : System σ where
  answer r t := match r with
    | .getVariable name =>
      if name = LogFilter.variableName then (some (Utf8.encode directives), t) else system.answer (.getVariable name) t
    | r => system.answer r t

/-- The settings, the log file and the input are there, and nothing is read or written wrongly; but a run fails where
the working directory is gone. It breaks where its argument is no text, and where the usage or a complaint about a
directive cannot be shown. -/
theorem run_unsuccessful :
    let data := Utf8.encode "A=xy\n"
    let root : Except Fault Path := .ok ⟨[Path.slash]⟩
    let plain := filled data root (.ok ())
    let gone := filled data (.error (.os .enoent)) (.ok ())
    let mute := filled data root (.error (.os .epipe))
    let objecting := directed "sh=loud" mute
    let opened : System Unit → Prop := fun system =>
      (Config.load.run system ()).1 = .ok (.standard (.ofString "/tmp")) ∧
        ((LogFile.openIn (.ofString "/tmp")).run system ()).1 = .ok ⟨4⟩ ∧
        ((openInput none).run system ()).1 = .ok (.batch, none)
    let fine : System Unit → Prop := fun system => ∀ e ∈ (runGiven []).history system (), e.failure? = none
    (opened plain ∧ fine plain ∧ ((runGiven []).run plain ()).1.code = 0) ∧
      (opened gone ∧ fine gone ∧ ((runGiven []).run gone ()).1.code = 1) ∧
      (opened objecting ∧ ((runGiven []).run objecting ()).1.code = 101) ∧
      ((runGiven [[0xFF]]).run plain ()).1.code = 101 ∧
      ((runGiven (["a", "b"].map Utf8.encode)).run mute ()).1.code = 101 := by
  decide +kernel

/-- A value with a NUL in it breaks a run, whatever else is there. -/
theorem run_of_valueless {σ : Type} (system : System σ) (file : Option String) (t : σ) {e : EnvFile.ValueFault}
    (h : (EnvFile.load.run system t).1 = .error e) : ((start file).run system t).1 = .broken := by
  rw [start, run_bind, h]
  rfl

end Startup
end LineShell
