import LineShell.Machine.Standard
import LineShell.Machine.System
import LineShell.Proofs.Encoding
import LineShell.Proofs.Outcome
import LineShell.Proofs.Resolution
import Mathlib.Logic.Relation

/-!
What it means that a program is not found. A program is started from the working directory, which is entered first,
and it may be a script, which names another program to run it. The surroundings give the same answer wherever
something is missing on this way. So a stage that is reported as not found may lack its program, its working directory
or an interpreter, and nothing else. What is relied on is stated as laws (`Launcher.Laws`), which a machine keeps.
-/

namespace LineShell
open LineShell.Action

/-! ### The state in which a request is answered -/

/-- The state that a system is in after some events. -/
def System.after {σ : Type} (system : System σ) (h : List Event) (t : σ) : σ :=
  h.foldl (fun t e => (system.answer e.request t).2) t

/-- Each request of a run is answered in the state that the earlier ones have left. -/
theorem answer_of_history_eq {σ α : Type} {system : System σ} {x : Action α} {t : σ} {before after : List Event}
    {e : Event} (h : x.history system t = before ++ e :: after) :
    e.answer = (system.answer e.request (system.after before t)).1 := by
  induction x generalizing t before with
  | done a => simp [history] at h
  | ask r next ih =>
    cases before with
    | nil =>
      obtain ⟨rfl, -⟩ := List.cons.inj h
      rfl
    | cons first before =>
      obtain ⟨rfl, hrest⟩ := List.cons.inj h
      have hanswer := ih _ hrest
      exact hanswer

/-! ### Starting a process -/

/-- What surroundings do when a process is started, and what they say of the files on its way. -/
structure Launcher (σ Place : Type) where
  /-- The place that the shell itself is in. -/
  here : σ → Place
  /-- Entering the directory that a path leads to. -/
  enter : σ → Path → Except Fault Place
  /-- Executing the program of a launch from a place. -/
  execute : σ → Place → Launch → Except Fault Unit
  /-- The paths at which a name is looked for in the search path. -/
  candidates : σ → Path → List Path
  /-- The path leads nowhere from the place. -/
  Absent : σ → Place → Path → Prop
  /-- The first path leads to a script that is run by what the second one leads to. -/
  Interprets : σ → Place → Path → Path → Prop

namespace Launcher

variable {σ Place : Type} (launcher : Launcher σ Place) (t : σ)

/-- What the path leads to is missing, or an interpreter that it calls for. -/
def Breaks (place : Place) (p : Path) : Prop :=
  ∃ q, Relation.ReflTransGen (launcher.Interprets t place) p q ∧ launcher.Absent t place q

/-- The paths that are tried for a program: where its name leads from the working directory if there is a slash in
it, and else where it would be in each directory of the search path. -/
def attempts (directory : Path) (program : String) : List Path :=
  if '/' ∈ program.toList then [directory.join (.ofString program)] else launcher.candidates t (.ofString program)

/-- What can be missing when a program is to be started from a directory: the directory, the program, or an
interpreter of the program. -/
inductive Lacks (directory : Path) (program : String) : Prop
  | directory (hdirectory : launcher.Absent t (launcher.here t) directory)
  | program {place : Place} (hentered : launcher.enter t directory = .ok place)
    (hprogram : ∀ p ∈ launcher.attempts t directory program, launcher.Absent t place p)
  | interpreter {place : Place} {p q : Path} (hentered : launcher.enter t directory = .ok place)
    (hp : p ∈ launcher.attempts t directory program) (hscript : Relation.TransGen (launcher.Interprets t place) p q)
    (hq : launcher.Absent t place q)

/-- A process is started by entering its directory and then executing its program, and the error is that of the step
that has failed. Where nothing is found the path of the program breaks, or, of a bare name, each of its candidates. -/
structure Laws (system : System σ) : Prop where
  spawn : ∀ {t l e}, (system.answer (.spawn l) t).1 = .error (.os e) →
    launcher.enter t l.directory = .error (.os e) ∨
      ∃ place, launcher.enter t l.directory = .ok place ∧ launcher.execute t place l = .error (.os e)
  enter : ∀ {t directory}, launcher.enter t directory = .error (.os .enoent) →
    launcher.Absent t (launcher.here t) directory
  path : ∀ {t place l}, launcher.execute t place l = .error (.os .enoent) → Path.slash ∈ l.program.bytes →
    launcher.Breaks t place l.program
  search : ∀ {t place l}, launcher.execute t place l = .error (.os .enoent) → Path.slash ∉ l.program.bytes →
    ∀ p ∈ launcher.candidates t l.program, launcher.Breaks t place p

theorem slash_mem_encode_iff {s : String} : Path.slash ∈ Utf8.encode s ↔ '/' ∈ s.toList := by
  constructor
  · intro hmem
    obtain ⟨c, hc, hslash⟩ := List.mem_flatMap.mp hmem
    have hchar : String.utf8EncodeChar c = String.utf8EncodeChar '/' :=
      Utf8.eq_singleton_of_mem (by decide) hslash
    obtain rfl : c = '/' := Utf8.encodeChar_prefix_inj ⟨[], by rw [List.append_nil, hchar]⟩
    exact hc
  · intro hmem
    exact List.mem_flatMap.mpr ⟨'/', hmem, by decide⟩

theorem slash_mem_join {directory : Path} {program : String} (h : '/' ∈ program.toList) :
    Path.slash ∈ (directory.join (.ofString program)).bytes := by
  have hmem : Path.slash ∈ (Path.ofString program).bytes := slash_mem_encode_iff.mpr h
  unfold Path.join
  split
  · exact hmem
  · split <;> simp [hmem]

variable {launcher t} {system : System σ} {directory : Path} {program : String} {launch : Launch}

/-- Each path that is tried for a program that is not found breaks. -/
theorem Laws.breaks (hlaws : launcher.Laws system) {place : Place}
    (hprogram : launch.program = Stage.programPath directory program)
    (h : launcher.execute t place launch = .error (.os .enoent)) :
    ∀ p ∈ launcher.attempts t directory program, launcher.Breaks t place p := by
  unfold attempts
  by_cases hslash : '/' ∈ program.toList
  · have hpath : launch.program = directory.join (.ofString program) := by
      simp [hprogram, Stage.programPath, hslash]
    rw [if_pos hslash, ← hpath]
    exact List.forall_mem_singleton.mpr (hlaws.path h (hpath ▸ slash_mem_join hslash))
  · have hpath : launch.program = .ofString program := by
      simp [hprogram, Stage.programPath, hslash]
    have hname : Path.slash ∉ (Path.ofString program).bytes := fun hmem => hslash (slash_mem_encode_iff.mp hmem)
    rw [if_neg hslash, ← hpath]
    exact hlaws.search h (hpath ▸ hname)

/-- A program that is not found lacks one of the three. -/
theorem Laws.lacks (hlaws : launcher.Laws system) (hdirectory : launch.directory = directory)
    (hprogram : launch.program = Stage.programPath directory program)
    (h : (system.answer (.spawn launch) t).1 = .error (.os .enoent)) : launcher.Lacks t directory program := by
  subst hdirectory
  rcases hlaws.spawn h with hentered | ⟨place, hentered, hexecuted⟩
  · exact .directory (hlaws.enter hentered)
  · have hbreaks := hlaws.breaks hprogram hexecuted
    by_cases hpresent : ∃ p ∈ launcher.attempts t launch.directory program, ¬launcher.Absent t place p
    · obtain ⟨p, hp, hpresent⟩ := hpresent
      obtain ⟨q, hchain, hq⟩ := hbreaks p hp
      rcases Relation.reflTransGen_iff_eq_or_transGen.mp hchain with rfl | hscript
      · exact absurd hq hpresent
      · exact .interpreter hentered hp hscript hq
    · exact .program hentered fun p hp => by_contra fun hp' => hpresent ⟨p, hp, hp'⟩

end Launcher

namespace Machine

namespace FileTree

/-! ### Paths that lead nowhere -/

section
variable {t : FileTree} {base here goal : Location} {links n : Nat} {path : Path}

variable (t) in
/-- The path leads nowhere. -/
def Absent (base : Location) (path : Path) : Prop := ∀ goal, ¬t.Realpath base maxLinks path goal

/-- A walk along names that lead somewhere gets there, or it is refused. -/
theorem walk_of_resolves {slashed : Bool} {names : List Name} (hn : n ≤ links)
    (h : t.Resolves n here (names ++ if slashed then [dot] else []) goal) :
    walk t .reach links here slashed names = .ok (.taken goal) ∨
      walk t .reach links here slashed names = .error .eacces ∨
      walk t .reach links here slashed names = .error .enametoolong := by
  fun_induction walk t .reach links here slashed names generalizing n with
  | case1 links here slashed =>
    cases slashed with
    | false =>
      cases h
      exact .inl rfl
    | true =>
      obtain ⟨-, hrest⟩ := resolves_cons_iff.mp h
      cases hrest
      exact .inl rfl
  | case3 => exact .inr (.inl rfl)
  | case4 links here slashed rest mode isSealed hget hsearch ih =>
    exact ih hn (by simpa using (resolves_cons_iff.mp h).2)
  | case5 links here slashed rest mode isSealed hget hsearch hname ih =>
    exact ih hn (by simpa [hname] using (resolves_cons_iff.mp h).2)
  | case7 => exact .inr (.inr rfl)
  | case10 links here slashed name rest mode isSealed hget hsearch hdot hdotDot _ _ mode' isSealed' hnext ih =>
    exact ih hn (by simpa [hdot, hdotDot, hnext] using (resolves_cons_iff.mp h).2)
  | case14 here slashed name rest mode isSealed hget hsearch hdot hdotDot _ _ target hlink _ links path htarget =>
    rename_i ih
    rw [List.cons_append, resolves_cons_iff, if_neg hdot, if_neg hdotDot, hlink] at h
    obtain ⟨-, k, rfl, -, hrest⟩ := h
    rw [dite_eq_ite, ← followed_append] at ih
    exact ih (Nat.le_of_succ_le_succ hn) hrest
  | _ => simp_all [resolves_cons_iff, isDirectory]

/-- Where nothing is found, or a directory is missing on the way, there is nothing to find. -/
theorem absent_of_reach {e : Errno} (he : e = .enoent ∨ e = .enotdir) (h : t.reach base path = .error (.os e)) :
    t.Absent base path := by
  rintro goal ⟨hne, hnul, n, hn, hresolves⟩
  have hwalk := walk_of_resolves hn hresolves
  have hfollow : t.follow .reach base path = (walk t .reach maxLinks (if path.isAbsolute then [] else base)
      path.endsInSlash path.names).mapError .os := by
    rw [follow, if_neg (by simpa using hnul), if_neg hne]
  unfold reach locate at h
  split at h
  · cases h
    rcases he with he | he <;> cases he
  · rw [hfollow] at h
    rcases hwalk with hwalk | hwalk | hwalk <;> rw [hwalk] at h <;> cases h <;> rcases he with he | he <;> cases he

/-- A name that the root does not have. -/
theorem reach_gone (h : t.get? (locationOf ["gone"]) = none) :
    t.reach base (.ofString "/gone") = .error (.os .enoent) := by
  have hwalk : walk t .reach maxLinks [] false (locationOf ["gone"]) = .ok (.free (locationOf ["gone"])) := by
    have hnone : t.get? ([] ++ [Utf8.encode "gone"]) = none := h
    rw [locationOf, List.map_cons, walk, hnone]
    rfl
  have hfollow : t.follow .reach base (.ofString "/gone") = .ok (.free (locationOf ["gone"])) := by
    rw [follow, if_neg (by decide), if_neg (by decide)]
    exact congrArg (Except.mapError Fault.os) hwalk
  rw [reach, locate, if_neg (by decide), hfollow]
  rfl

end
end FileTree

namespace Execution

/-! ### Interpreters -/

section
variable {t : FileTree} {base : Location} {name searchPath : Bytes} {args : List Bytes} {p q : Path} {ps : List Path}
  {e : Errno}

/-- The first path leads to a script that is run by what the second one leads to. -/
def Interprets (t : FileTree) (base : Location) (p q : Path) : Prop :=
  ∃ l number extra, t.reach base p = .ok l ∧ t.get? l = some (.file number) ∧
    interpreter? (t.body number).data = some (q.bytes, extra)

/-- How a file is executed that is there. -/
theorem ofPathWithin_of_reach {l : Location} (h : t.reach base p = .ok l) (depth : Nat) :
    ofPathWithin t base name args (depth + 1) p =
      match t.get? l with
      | some (.tool tool) => if isTooLong (name :: args) then .error (.os .e2big) else .ok ⟨tool, name, args⟩
      | some (.file number) =>
        if !isExecutable (t.body number).mode then .error (.os .eacces)
        else if isTooLong (name :: args) then .error (.os .e2big)
        else match interpreter? (t.body number).data with
          | none => .error (.os .enoexec)
          | some (program, extra) => ofPathWithin t base program (extra ++ p.bytes :: args) depth ⟨program⟩
      | _ => .error (.os .eacces) := by
  rw [ofPathWithin, h]
  rfl

/-- What is missing when a file cannot be executed: the file, or an interpreter on the way. -/
theorem exists_absent_of_ofPath (he : e = .enoent ∨ e = .enotdir) (h : ofPath t base p name args = .error (.os e)) :
    ∃ q, Relation.ReflTransGen (Interprets t base) p q ∧ t.Absent base q := by
  rw [ofPath] at h
  generalize maxDepth = depth at h
  induction depth generalizing name p args with
  | zero =>
    cases h
    exact he.elim nofun nofun
  | succ depth ih =>
    cases hreach : t.reach base p with
    | error fault =>
      rw [ofPathWithin, hreach] at h
      cases h
      exact ⟨p, .refl, FileTree.absent_of_reach he hreach⟩
    | ok l =>
      rw [ofPathWithin_of_reach hreach] at h
      -- Whatever else is wrong with a file that is there, it is not that something is missing.
      have hother : ∀ {e' : Errno}, (.error (.os e') : Except Fault Execution) = .error (.os e) →
          e' ∉ [.enoent, .enotdir] → False := by
        rintro _ ⟨⟩ hnot
        exact hnot (by simpa using he)
      split at h
      · split at h
        · exact (hother h (by decide)).elim
        · cases h
      · next number hget =>
        split at h
        · exact (hother h (by decide)).elim
        split at h
        · exact (hother h (by decide)).elim
        split at h
        · exact (hother h (by decide)).elim
        · next program extra hinterpreter =>
          obtain ⟨q, hchain, hq⟩ := ih h
          exact ⟨q, .head ⟨l, number, extra, hreach, hget, hinterpreter⟩ hchain, hq⟩
      · exact (hother h (by decide)).elim

/-- A search that was refused once does not end with an absence. -/
theorem search_ne_enoent (last : Fault) :
    search t base name args ps (some (.os .eacces)) last ≠ .error (.os .enoent) := by
  induction ps generalizing last with
  | nil => nofun
  | cons p ps ih =>
    rw [search]
    split
    · nofun
    · split
      · next hrefused => exact hrefused ▸ ih _
      · split
        · exact ih _
        · next hmissing =>
          intro h
          cases h
          exact hmissing (.inl rfl)

/-- A search that ends with an absence has found something missing on each path. -/
theorem absent_of_search {last : Fault} (h : search t base name args ps none last = .error (.os .enoent)) :
    ∀ p ∈ ps, ∃ q, Relation.ReflTransGen (Interprets t base) p q ∧ t.Absent base q := by
  induction ps generalizing last with
  | nil => simp
  | cons p ps ih =>
    rw [search] at h
    split at h
    · cases h
    · next fault hpath =>
      split at h
      · next hrefused =>
        rw [hrefused] at h
        exact absurd h (search_ne_enoent _)
      · split at h
        · next hmissing =>
          obtain ⟨e, he, rfl⟩ : ∃ e : Errno, (e = .enoent ∨ e = .enotdir) ∧ fault = .os e := by
            rcases hmissing with rfl | rfl
            · exact ⟨_, .inl rfl, rfl⟩
            · exact ⟨_, .inr rfl, rfl⟩
          exact List.forall_mem_cons.mpr ⟨exists_absent_of_ofPath he hpath, ih h⟩
        · next hmissing =>
          cases h
          exact absurd (.inl rfl) hmissing

end
end Execution

/-! ### Programs -/

section
variable {m : Machine} {directory : Path} {base : Location}

theorem enterable_of_reach {setting : Setting} {l : Location} (h : m.tree.reach setting.directory directory = .ok l) :
    m.enterable setting directory = match m.tree.get? l with
      | some (.directory mode _) => if isSearchable mode then .ok l else .error (.os .eacces)
      | _ => .error (.os .enotdir) := by
  rw [enterable, h]
  rfl

theorem absent_of_enterable {setting : Setting} (h : m.enterable setting directory = .error (.os .enoent)) :
    m.tree.Absent setting.directory directory := by
  cases hreach : m.tree.reach setting.directory directory with
  | error fault =>
    rw [enterable, hreach] at h
    cases h
    exact FileTree.absent_of_reach (.inl rfl) hreach
  | ok l =>
    rw [enterable_of_reach hreach] at h
    split at h
    · split at h <;> cases h
    · cases h

/-- What a machine does when it starts a process. -/
def launcher : Launcher Machine Location where
  here m := m.directory
  enter m directory := m.enterable m.shellSetting directory
  execute m base launch := (Execution.ofName m.tree base (m.environment.lookup (Utf8.encode "PATH"))
    launch.program.bytes (launch.args.map Utf8.encode)).map fun _ => ()
  candidates m name := if name.bytes = [] then [] else Execution.candidates
    ((m.environment.lookup (Utf8.encode "PATH")).getD Execution.defaultSearchPath) name.bytes
  Absent m base p := m.tree.Absent base p
  Interprets m base := Execution.Interprets m.tree base

theorem execute_eq_error_iff {launch : Launch} {e : Fault} : launcher.execute m base launch = .error e ↔
    Execution.ofName m.tree base (m.environment.lookup (Utf8.encode "PATH")) launch.program.bytes
      (launch.args.map Utf8.encode) = .error e := by
  have hmap : ∀ x : Except Fault Execution, x.map (fun _ => ()) = .error e ↔ x = .error e := by
    rintro (_ | _) <;> simp [Except.map]
  exact hmap _

/-- Which step of a start has failed. -/
theorem start_error_cases {launch : Launch} {e : Errno} (h : m.start launch = .error (.os e)) :
    launcher.enter m launch.directory = .error (.os e) ∨
      ∃ base, launcher.enter m launch.directory = .ok base ∧ launcher.execute m base launch = .error (.os e) := by
  unfold start at h
  dsimp only at h
  split at h
  · cases h
  cases hentered : m.enterable m.shellSetting launch.directory with
  | error fault =>
    rw [hentered] at h
    cases h
    exact .inl hentered
  | ok base =>
    rw [hentered] at h
    refine .inr ⟨base, hentered, execute_eq_error_iff.mpr ?_⟩
    simp only [Bind.bind, Except.bind] at h
    split at h
    · next fault hname =>
      cases h
      exact hname
    · cases h

theorem launcher_laws : launcher.Laws system where
  spawn := by
    intro m launch e h
    refine start_error_cases ?_
    change (answer (.spawn launch) m).1 = _ at h
    rw [answer] at h
    split at h
    · cases h
    · next fault hstart =>
      cases h
      exact hstart
  enter h := absent_of_enterable h
  path := by
    intro m base launch h hslash
    have hexecuted := execute_eq_error_iff.mp h
    rw [Execution.ofName, if_pos (by simpa using hslash)] at hexecuted
    exact Execution.exists_absent_of_ofPath (.inl rfl) hexecuted
  search := by
    intro m base launch h hname p hp
    have hexecuted := execute_eq_error_iff.mp h
    rw [Execution.ofName, if_neg (by simpa using hname)] at hexecuted
    change p ∈ (if launch.program.bytes = [] then [] else _) at hp
    split at hp
    · cases hp
    · next hne =>
      rw [if_neg hne] at hexecuted
      split at hexecuted
      · cases hexecuted
      · exact Execution.absent_of_search hexecuted p hp

/-- A directory that is there, and may be searched, is entered by its path. -/
theorem enterable_ofNames {setting : Setting} {l : Location} {mode : Nat} {isSealed : Bool} (ht : m.tree.Wellformed)
    (hopen : m.tree.Open) (hl : m.tree.get? l = some (.directory mode isSealed)) (hmode : isSearchable mode = true)
    (hlong : (Path.ofNames l).bytes.length < maxPath) : m.enterable setting (.ofNames l) = .ok l := by
  have hreach : m.tree.reach setting.directory (.ofNames l) = .ok l :=
    (FileTree.reach_ofNames_eq_ok_iff ht hopen ⟨_, hl, nofun⟩).mpr ⟨rfl, hlong⟩
  rw [enterable_of_reach hreach, hl]
  exact if_pos hmode

/-- What is refused before a program begins is refused altogether. -/
theorem start_eq_error {launch : Launch} {e : Fault}
    (hnul : (launch.program.bytes :: launch.directory.bytes :: launch.args.map Utf8.encode).any (·.contains 0) = false)
    (h : (m.enterable m.shellSetting launch.directory >>= fun base => Execution.ofName m.tree base
      (m.environment.lookup (Utf8.encode "PATH")) launch.program.bytes (launch.args.map Utf8.encode)) = .error e) :
    m.start launch = .error e := by
  unfold start
  dsimp only
  rw [if_neg (by rw [hnul]; exact Bool.false_ne_true)]
  simp only [Bind.bind, Except.bind] at h ⊢
  split at h <;> simp_all

end

end Machine

namespace Stage

/-! ### Stages -/

section
variable {s : Stage} {directory : Path} {ends : PipeEnds} {h : List Event}

theorem ofSpawn_eq_notFound {program name : String} {source : Fault}
    (h : LaunchError.ofSpawn program source = .notFound name) : source = .os .enoent ∧ name = program := by
  unfold LaunchError.ofSpawn at h
  split at h
  · next hsource =>
    cases h
    exact ⟨hsource, rfl⟩
  · split at h <;> cases h

theorem redirect_of_refused {kind : Redirect} {target : Option String} {e : LaunchError}
    (hrefused : Refused directory kind target h e) : ∃ path source, e = .redirect path source := by
  cases hrefused with
  | mk t source => exact ⟨_, _, rfl⟩

/-- A stage that is reported as not found has opened its redirects and has been refused its program. -/
theorem exists_spawn_of_notFound {name : String}
    (htrace : Trace (s.launch directory ends) h (.error (.notFound name))) :
    ∃ before l after, h = before ++ ⟨.spawn l, .error (.os .enoent)⟩ :: after ∧ s.args.head? = some name ∧
      l.program = programPath directory name ∧ l.directory = directory := by
  obtain ⟨k, rfl, hstarted⟩ := trace_launch htrace
  generalize hr : (.error (.notFound name) : Except LaunchError Child) = r at hstarted
  cases hstarted with
  | noProgram hargs => cases hr
  | inputRefused hargs input =>
    obtain ⟨path, source, rfl⟩ := redirect_of_refused input
    cases hr
  | outputRefused hargs input output =>
    obtain ⟨path, source, rfl⟩ := redirect_of_refused output
    cases hr
  | asked answer hargs input output =>
    cases answer with
    | ok child => cases hr
    | error source =>
      obtain ⟨rfl, rfl⟩ := ofSpawn_eq_notFound (Except.error.inj hr).symm
      refine ⟨_, _, _, by rw [List.append_assoc, List.cons_append], by rw [hargs]; rfl, rfl, rfl⟩

/-- A stage is reported as not found only if, when its program is to be started, the program is missing, or the
working directory, or an interpreter that the program calls for. -/
theorem launch_notFound {σ Place : Type} {system : System σ} {launcher : Launcher σ Place}
    (hlaws : launcher.Laws system) (s : Stage) (directory : Path) (ends : PipeEnds) (t : σ) {name : String}
    (hresult : ((s.launch directory ends).run system t).1 = .error (.notFound name)) :
    (LaunchError.notFound name).message = name ++ ": command not found" ∧
      (LaunchError.notFound name).status.code = 127 ∧ s.args.head? = some name ∧
      ∃ before l after, (s.launch directory ends).history system t =
          before ++ ⟨.spawn l, .error (.os .enoent)⟩ :: after ∧
        launcher.Lacks (system.after before t) directory name := by
  have htrace := trace_run system (s.launch directory ends) t
  rw [hresult] at htrace
  obtain ⟨before, l, after, hhistory, hargs, hprogram, hdirectory⟩ := exists_spawn_of_notFound htrace
  have hanswer : _ = (system.answer (.spawn l) (system.after before t)).1 := answer_of_history_eq hhistory
  exact ⟨rfl, rfl, hargs, before, l, after, hhistory, hlaws.lacks hdirectory hprogram hanswer.symm⟩

/-- A stage without redirects asks for its program alone. -/
theorem run_launch_unredirected {σ : Type} (system : System σ) (t : σ) (directory : Path) (program : String)
    (args : List String) :
    ((({ args := program :: args } : Stage).launch directory {}).run system t).1 =
      (system.answer (.spawn (ask directory {} program args none none)) t).1.mapError (.ofSpawn program) := by
  simp only [launch, start, openRedirect, closeIfAny, ask, run_bind, run_pure]
  rw [run_request]
  split <;> next h => rw [h]; rfl

/-- A program that is refused as missing is reported as not found. -/
theorem launch_eq_notFound {m : Machine} {program : String} {args : List String}
    (h : m.start (ask directory {} program args none none) = .error (.os .enoent)) :
    ((({ args := program :: args } : Stage).launch directory {}).run Machine.system m).1 =
      .error (.notFound program) := by
  have hanswer : (Machine.system.answer (.spawn (ask directory {} program args none none)) m).1 =
      .error (.os .enoent) := by
    change (Machine.answer (.spawn _) m).1 = _
    rw [Machine.answer, h]
  rw [run_launch_unredirected, hanswer]
  rfl

/-- A program where there is none. -/
theorem launch_notFound_missing :
    let m : Machine := { tree := {} }
    let s : Stage := { args := ["/gone"] }
    let root : Path := .ofNames []
    ((s.launch root {}).run Machine.system m).1 = .error (.notFound "/gone") ∧
      ∃ before l after, (s.launch root {}).history Machine.system m =
          before ++ ⟨.spawn l, .error (.os .enoent)⟩ :: after ∧
        Machine.launcher.Lacks (Machine.system.after before m) root "/gone" := by
  intro m s root
  have hgone : m.tree.reach [] (.ofString "/gone") = .error (.os .enoent) := Machine.FileTree.reach_gone rfl
  have hentered : m.enterable m.shellSetting root = .ok [] :=
    Machine.enterable_ofNames (by decide) (by decide) rfl rfl (by decide)
  have hstart : m.start (ask root {} "/gone" [] none none) = .error (.os .enoent) := by
    refine Machine.start_eq_error (by decide) ?_
    rw [show (ask root {} "/gone" [] none none).directory = root from rfl, hentered]
    change (m.tree.reach [] (.ofString "/gone") >>= _) = _
    rw [hgone]
    rfl
  have hresult := launch_eq_notFound hstart
  obtain ⟨-, -, -, hlacks⟩ := launch_notFound Machine.launcher_laws s root {} m hresult
  exact ⟨hresult, hlacks⟩

/-- A program that is there, started where the working directory is gone; and a script that is there, and calls for an
interpreter that is not. -/
theorem launch_notFound_present :
    let tree : Machine.FileTree := {
      entries := [(Machine.locationOf ["bin"], .directory 0o755 false),
        (Machine.locationOf ["bin", "true"], .tool .trueTool), (Machine.locationOf ["bin", "run"], .file 0)]
      bodies := [(0, { mode := 0o755, data := Utf8.encode "#!/gone\n" })] }
    let m : Machine := { tree }
    let program : Stage := { args := ["/bin/true"] }
    let script : Stage := { args := ["/bin/run"] }
    ((program.launch (.ofString "/gone") {}).run Machine.system m).1 = .error (.notFound "/bin/true") ∧
      tree.Realpath [] Machine.maxLinks (.ofString "/bin/true") (Machine.locationOf ["bin", "true"]) ∧
      ((script.launch (.ofString "/bin") {}).run Machine.system m).1 = .error (.notFound "/bin/run") ∧
      tree.Realpath [] Machine.maxLinks (.ofString "/bin/run") (Machine.locationOf ["bin", "run"]) := by
  intro tree m program script
  have hwell : tree.Wellformed := by decide
  have hopen : tree.Open := by decide
  have hgone : tree.reach [] (.ofString "/gone") = .error (.os .enoent) := Machine.FileTree.reach_gone rfl
  have htrue : tree.Stands (Machine.locationOf ["bin", "true"]) := ⟨.tool .trueTool, rfl, nofun⟩
  have hrun : tree.Stands (Machine.locationOf ["bin", "run"]) := ⟨.file 0, rfl, nofun⟩
  refine ⟨launch_eq_notFound ?_, Machine.FileTree.realpath_ofNames hwell htrue, launch_eq_notFound ?_,
    Machine.FileTree.realpath_ofNames hwell hrun⟩
  · have hentered : m.enterable m.shellSetting (.ofString "/gone") = .error (.os .enoent) := by
      change (tree.reach [] (.ofString "/gone") >>= _) = _
      rw [hgone]
      rfl
    refine Machine.start_eq_error (by decide) ?_
    rw [show (ask (.ofString "/gone") {} "/bin/true" [] none none).directory = .ofString "/gone" from rfl, hentered]
    rfl
  · have hentered : m.enterable m.shellSetting (.ofString "/bin") = .ok (Machine.locationOf ["bin"]) :=
      Machine.enterable_ofNames (l := Machine.locationOf ["bin"]) hwell hopen rfl rfl (by decide)
    have hreach : tree.reach (Machine.locationOf ["bin"]) (.ofString "/bin/run") =
        .ok (Machine.locationOf ["bin", "run"]) :=
      (Machine.FileTree.reach_ofNames_eq_ok_iff hwell hopen hrun).mpr ⟨rfl, by decide⟩
    have hexecuted : Machine.Execution.ofPath tree (Machine.locationOf ["bin"]) (.ofString "/bin/run")
        (Utf8.encode "/bin/run") [] = .error (.os .enoent) := by
      have hget : tree.get? (Machine.locationOf ["bin", "run"]) = some (.file 0) := rfl
      have hinterpreter : Machine.Execution.interpreter? (tree.body 0).data = some (Utf8.encode "/gone", []) := by
        decide
      rw [Machine.Execution.ofPath, Machine.Execution.maxDepth, Machine.Execution.ofPathWithin_of_reach hreach, hget]
      dsimp only
      rw [if_neg (by decide), if_neg (by decide), hinterpreter]
      change (tree.reach _ (.ofString "/gone") >>= _) = _
      rw [Machine.FileTree.reach_gone rfl]
      rfl
    refine Machine.start_eq_error (by decide) ?_
    rw [show (ask (.ofString "/bin") {} "/bin/run" [] none none).directory = .ofString "/bin" from rfl, hentered]
    exact hexecuted

end

end Stage
end LineShell
