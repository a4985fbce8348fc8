import LineShell.Proofs.Boundaries
import LineShell.Proofs.Carrying
import LineShell.Proofs.Listings
import LineShell.Proofs.Targets

/-!
Messages of one line. The messages of a builtin are cut into lines. All others are one line by what they say, but
for the patterns, programs and paths that they name. A word of a line has no newline in it, so that a message can
have one only from a name in a directory or from the path of the working directory.
-/

namespace LineShell
open LineShell.Action

/-! ### Messages of one line -/

/-- The text has no newline in it. -/
def OneLine (s : String) : Prop := '\n' ∉ s.toList

instance (s : String) : Decidable (OneLine s) := inferInstanceAs (Decidable ('\n' ∉ s.toList))

theorem OneLine.append {s t : String} (hs : OneLine s) (ht : OneLine t) : OneLine (s ++ t) := by
  rw [OneLine, String.toList_append, List.mem_append]
  exact not_or.mpr ⟨hs, ht⟩

theorem oneLine_toString (n : Nat) : OneLine (toString n) := by
  intro hmem
  have hdigit := Nat.isDigit_of_mem_toDigits (b := 10) (n := n) (by decide) (by decide) (by simpa using hmem)
  revert hdigit
  decide

theorem newline_mem_encode_iff {s : String} : Lines.newline ∈ Utf8.encode s ↔ '\n' ∈ s.toList := by
  constructor
  · intro hmem
    obtain ⟨front, rest, hsplit, -⟩ := List.eq_append_cons_of_mem hmem
    rw [← Utf8.decodeLossy_encode s, hsplit, Utf8.decodeLossy_append_newline]
    simp
  · intro hmem
    exact List.mem_flatMap.mpr ⟨'\n', hmem, by decide⟩

/-- A value of the table of error numbers is one line. -/
theorem oneLine_table {n : Nat} {symbol text : String} (h : Errno.table.lookup n = some (symbol, text)) :
    OneLine symbol ∧ OneLine text := by
  obtain ⟨before, after, htable, -⟩ := List.lookup_eq_some_iff.mp h
  have hall : ∀ entry ∈ Errno.table, OneLine entry.2.1 ∧ OneLine entry.2.2 := by decide +kernel
  exact hall (n, symbol, text) (by rw [htable]; simp)

theorem oneLine_errno (e : Errno) : OneLine e.text ∧ OneLine e.symbolAndText := by
  unfold Errno.text Errno.symbolAndText
  cases hentry : Errno.table.lookup e.code with
  | none =>
    have hunknown : OneLine "Unknown error " := by decide
    exact ⟨hunknown.append (oneLine_toString _), by decide +revert⟩
  | some entry =>
    obtain ⟨hsymbol, htext⟩ := oneLine_table hentry
    exact ⟨htext, (hsymbol.append (by decide)).append htext⟩

theorem oneLine_fault (e : Fault) : OneLine e.message := by
  cases e with
  | os e => exact (((oneLine_errno e).1.append (by decide)).append (oneLine_toString _)).append (by decide)
  | _ => decide

theorem oneLine_patternError (e : PatternError) : OneLine e.message := by
  have hfront : OneLine "Pattern syntax error near position " := by decide
  have hfault : OneLine e.fault.message := by
    cases e.fault <;> decide
  exact ((hfront.append (oneLine_toString _)).append (by decide)).append hfault

theorem oneLine_parseError (e : ParseError) : OneLine e.message := by
  cases e with
  | missingRedirectTarget kind => cases kind <;> decide
  | lineTooLong length limit =>
    have hfront : OneLine "line is " := by decide
    exact ((hfront.append (oneLine_toString _)).append (by decide)).append (oneLine_toString _)
  | tooManyArguments count limit =>
    have hfront : OneLine "too many arguments (" := by decide
    exact ((hfront.append (oneLine_toString _)).append (by decide)).append (oneLine_toString _)
  | _ => decide

/-- The error names no word with a newline in it. -/
def ExpansionError.Plain : ExpansionError → Prop
  | .unreadableDirectory _ => True
  | .invalidPattern pattern _ => OneLine pattern

theorem ExpansionError.Plain.oneLine {e : ExpansionError} (h : e.Plain) : OneLine e.message := by
  cases e with
  | unreadableDirectory source =>
    have hfront : OneLine "cannot read working directory: " := by decide
    exact hfront.append (oneLine_fault source)
  | invalidPattern pattern source =>
    have hfront : OneLine "invalid pattern `" := by decide
    exact ((hfront.append h).append (by decide)).append (oneLine_patternError source)

/-- The error names no program and no path with a newline in it. -/
def LaunchError.Plain : LaunchError → Prop
  | .notFound program => OneLine program
  | .permissionDenied program => OneLine program
  | .spawn program _ => OneLine program
  | .redirect path _ => Lines.newline ∉ path.bytes
  | _ => True

theorem LaunchError.Plain.oneLine {e : LaunchError} (h : e.Plain) : OneLine e.message := by
  cases e with
  | emptyCommand => decide
  | notFound program => exact OneLine.append h (by decide)
  | permissionDenied program => exact OneLine.append h (by decide)
  | spawn program source => exact (OneLine.append h (by decide)).append (oneLine_fault source)
  | redirect path source =>
    have hpath : OneLine path.display := Utf8.newline_notMem_decodeLossy h
    exact (hpath.append (by decide)).append (oneLine_fault source)
  | pipe errno =>
    have hfront : OneLine "failed to create pipe: " := by decide
    exact hfront.append (oneLine_errno errno).2
  | wait source =>
    have hfront : OneLine "failed to wait for child: " := by decide
    exact hfront.append (oneLine_fault source)

theorem newline_mem_of_withoutEnd {line : List Char} (h : '\n' ∈ Lines.withoutEnd line) : '\n' ∈ line.dropLast := by
  obtain rfl | ⟨front, c, rfl⟩ := List.eq_nil_or_concat line
  · cases h
  · rw [List.concat_eq_append] at h ⊢
    rw [List.dropLast_concat]
    rw [Lines.withoutEnd, List.reverse_concat] at h
    split at h
    · rename_i cs hcs
      rw [← List.mem_reverse, (List.cons.inj hcs).2]
      exact List.mem_cons_of_mem _ (List.mem_reverse.mp h)
    · rename_i cs hcs
      rwa [← (List.cons.inj hcs).2, List.reverse_reverse] at h
    · rename_i hno hno'
      rcases List.mem_append.mp h with h | h
      · exact h
      · exact absurd (by rw [List.mem_singleton.mp h]) (hno' front.reverse)

theorem oneLine_messages (output : BuiltinOutput) : ∀ m ∈ Session.messages output, OneLine m := by
  intro m hm
  obtain ⟨line, hline, rfl⟩ := List.mem_map.mp hm
  rw [OneLine, String.toList_ofList]
  exact fun hnewline => ((Lines.cut_splitText _).shape line hline).2 (newline_mem_of_withoutEnd hnewline)

/-! ### What plans fail with -/

/-- The stage names nothing with a newline in it. -/
structure Stage.Plain (s : Stage) : Prop where
  args : ∀ a ∈ s.args, OneLine a
  input : ∀ t ∈ s.input, OneLine t
  output : ∀ t ∈ s.output, OneLine t

section
variable {directory : Path} {h k : List Event}

theorem newline_notMem_join {t : String} (hdirectory : Lines.newline ∉ directory.bytes) (ht : OneLine t) :
    Lines.newline ∉ (directory.join (.ofString t)).bytes := by
  have hpath : Lines.newline ∉ (Path.ofString t).bytes := fun hmem => ht (newline_mem_encode_iff.mp hmem)
  have hslash : Lines.newline ≠ Path.slash := by decide
  unfold Path.join
  split
  · exact hpath
  · split <;> simp [hdirectory, hpath, hslash]

theorem Stage.plain_refused {kind : Redirect} {target : Option String} {e : LaunchError}
    (hdirectory : Lines.newline ∉ directory.bytes) (htarget : ∀ t ∈ target, OneLine t)
    (hrefused : Refused directory kind target h e) : e.Plain := by
  cases hrefused with
  | mk t source => exact newline_notMem_join hdirectory (htarget t rfl)

theorem Stage.plain_launch {s : Stage} {ends : PipeEnds} {r : Except LaunchError Child} (hs : s.Plain)
    (hdirectory : Lines.newline ∉ directory.bytes) (htrace : Trace (s.launch directory ends) h r) :
    ∀ e ∈ Plan.launchFailure r, e.Plain := by
  obtain ⟨k, rfl, hstarted⟩ := trace_launch htrace
  cases hstarted with
  | noProgram hargs => exact List.forall_mem_singleton.mpr trivial
  | inputRefused hargs input => exact List.forall_mem_singleton.mpr (plain_refused hdirectory hs.input input)
  | outputRefused hargs input output =>
    exact List.forall_mem_singleton.mpr (plain_refused hdirectory hs.output output)
  | @asked program args h k ownInput ownOutput answer hargs input output =>
    have hprogram : OneLine program := hs.args program (by simp [hargs])
    cases answer with
    | ok child => exact List.forall_mem_nil _
    | error source =>
      refine List.forall_mem_singleton.mpr ?_
      unfold LaunchError.ofSpawn
      split
      · exact hprogram
      · split
        · exact hprogram
        · exact hprogram

theorem plain_await {started : Except LaunchError Child} {ending : StageEnd}
    (htrace : Trace (StageEnd.await started) h ending) : ∀ e ∈ ending.failure.toList, e.Plain := by
  cases trace_await htrace with
  | notStarted e => exact List.forall_mem_nil _
  | ended child w => exact List.forall_mem_nil _
  | lost child source => exact List.forall_mem_singleton.mpr trivial

theorem Plan.plain_run {p : Plan} {o : Outcome} (hstages : ∀ s ∈ p.stages, s.Plain)
    (hdirectory : Lines.newline ∉ directory.bytes) (htrace : Trace (p.run directory) h o) :
    ∀ e ∈ o.failures, e.Plain := by
  obtain ⟨launching, waiting, -, hcourse⟩ := trace_run_plan htrace
  have hfirst := hstages p.first List.mem_cons_self
  cases hcourse with
  | single hplan hlaunch hwait =>
    exact List.forall_mem_append.mpr ⟨Stage.plain_launch hfirst hdirectory hlaunch, plain_await hwait⟩
  | noPipe errno hplan => exact List.forall_mem_singleton.mpr trivial
  | @pipeline second reader writer left right leftWait rightWait first' second' firstEnd secondEnd hplan hleft
      hright hleftWait hrightWait =>
    have hsecond := hstages second (List.mem_cons_of_mem _ (by simp [hplan]))
    have hlaunches := List.forall_mem_append.mpr
      ⟨Stage.plain_launch hfirst hdirectory hleft, Stage.plain_launch hsecond hdirectory hright⟩
    have hwaits := List.forall_mem_append.mpr ⟨hlaunches, plain_await hleftWait⟩
    exact List.forall_mem_append.mpr ⟨hwaits, plain_await hrightWait⟩

end

/-! ### What lines are read as -/

theorem oneLine_word {line w : String} (h : .word w ∈ Token.scan line) : OneLine w := by
  obtain ⟨run, hrun, hword⟩ := List.mem_map.mp h
  have htext : run = w.toList := by rw [← Token.text_ofRun run, hword, Token.text]
  intro hnewline
  have hseparator := (Token.shape_of_mem_runs hrun).2 '\n' (htext ▸ hnewline)
  cases hseparator

section
variable {σ : Type} {system : System σ} {directory : Path} {limits : Limits} {t : σ} {line : String}

theorem plain_argumentsOf {listing : Listing} {w : String} (hw : OneLine w) :
    ∀ e ∈ (Parse.argumentsOf listing w).2, e.Plain := by
  unfold Parse.argumentsOf Wildcard.expand
  split
  · cases Pattern.compile w with
    | error source => exact List.forall_mem_singleton.mpr hw
    | ok items =>
      cases listing with
      | error source => exact List.forall_mem_singleton.mpr trivial
      | ok names => exact List.forall_mem_nil _
  · exact List.forall_mem_nil _

theorem diagnostics_setCurrent (d : Parse.Draft) (s : Stage) : (d.setCurrent s).diagnostics = d.diagnostics := by
  unfold Parse.Draft.setCurrent
  split <;> rfl

theorem plain_readIn {d e : Parse.Draft} {ts : List Token} (hts : ∀ w, .word w ∈ ts → OneLine w)
    (hd : ∀ x ∈ d.diagnostics, x.Plain) (hrun : ((Parse.readIn directory limits d ts).run system t).1 = .ok e) :
    ∀ x ∈ e.diagnostics, x.Plain := by
  fun_induction Parse.readIn directory limits d ts generalizing t with
  | case1 d =>
    cases hrun
    exact hd
  | case2 d kind w ts ih =>
    refine ih (fun w' hw' => hts w' (by simp [hw'])) ?_ hrun
    rwa [Parse.Draft.redirect, diagnostics_setCurrent]
  | case3 d token ts hnot ih =>
    rw [Action.run_bind] at hrun
    generalize (Parse.listingFor directory token).run system t = r at hrun
    cases hread : Parse.read limits r.1 d [token] with
    | error e => simp [hread] at hrun
    | ok d' =>
      rw [hread] at hrun
      refine ih d' (fun w hw => hts w (List.mem_cons_of_mem _ hw)) ?_ hrun
      cases token with
      | redirect kind => cases hread
      | pipe =>
        obtain ⟨first, second, diagnostics⟩ := d
        cases second with
        | some second => cases hread
        | none =>
          cases hread
          exact hd
      | word w =>
        simp only [Parse.read, Parse.Draft.addWord] at hread
        split at hread
        · cases hread
        · cases hread
          exact List.forall_mem_append.mpr ⟨hd, plain_argumentsOf (hts w List.mem_cons_self)⟩

theorem diagnostics_finish {d : Parse.Draft} {p : ParsedLine} (h : d.finish = .ok p) :
    p.diagnostics = d.diagnostics := by
  unfold Parse.Draft.finish at h
  split at h
  · cases h
  · split at h
    · cases h
    · cases h
      rfl

theorem plain_diagnostics {p : ParsedLine} (h : ((parseIn line directory limits).run system t).1 = .ok p) :
    ∀ e ∈ p.diagnostics, e.Plain := by
  rw [run_parseIn] at h
  split at h
  · cases h
  · split at h
    · cases h
      exact List.forall_mem_nil _
    · cases hdraft : ((Parse.draftIn line directory limits).run system t).1 with
      | error e =>
        rw [hdraft] at h
        cases h
      | ok d =>
        rw [hdraft] at h
        have hd : ∀ x ∈ d.diagnostics, x.Plain :=
          plain_readIn (fun w hw => oneLine_word hw) (List.forall_mem_nil _) hdraft
        rwa [diagnostics_finish h]

/-- No name in a directory and no canonical path has a newline in it. -/
structure System.Plain (system : System σ) : Prop where
  names : ∀ directory t names, (system.answer (.listDirectory directory) t).1 = .ok names →
    ∀ name ∈ names, Lines.newline ∉ name
  canonical : ∀ path t canonical, (system.answer (.canonicalize path) t).1 = .ok canonical →
    Lines.newline ∉ canonical.bytes

theorem oneLine_woven {lists : Listing → Prop} {words args : List String} (hwoven : Grammar.Woven lists words args)
    (hwords : ∀ w ∈ words, OneLine w)
    (hlists : ∀ names, lists (.ok names) → ∀ name ∈ names, Lines.newline ∉ name) : ∀ a ∈ args, OneLine a := by
  induction hwoven with
  | nil => exact List.forall_mem_nil _
  | plain hword hrest ih =>
    obtain ⟨hw, hwords⟩ := List.forall_mem_cons.mp hwords
    exact List.forall_mem_cons.mpr ⟨hw, ih hwords⟩
  | pattern hlisting hblock hrest ih =>
    obtain ⟨-, hwords⟩ := List.forall_mem_cons.mp hwords
    refine List.forall_mem_append.mpr ⟨fun a ha => ?_, ih hwords⟩
    obtain ⟨names, rfl, name, hname, htext⟩ := hblock.names a ha
    obtain rfl := Utf8.decode?_eq_some_iff.mp htext
    exact fun hnewline => hlists names hlisting _ hname (newline_mem_encode_iff.mpr hnewline)

theorem plain_spelt {lists : Listing → Prop} {g : List Grammar.Item} {s : Stage} (hspelt : Grammar.Spelt lists g s)
    (hwords : ∀ w, .word w ∈ g.flatMap Grammar.Item.tokens → OneLine w)
    (hlists : ∀ names, lists (.ok names) → ∀ name ∈ names, Lines.newline ∉ name) : s.Plain := by
  have htarget : ∀ kind, ∀ t ∈ Grammar.target kind g, OneLine t := by
    intro kind t ht
    obtain ⟨item, hitem, htext⟩ := List.mem_filterMap.mp (List.mem_of_getLast? ht)
    refine hwords t (List.mem_flatMap.mpr ⟨item, hitem, ?_⟩)
    cases item with
    | argument word => cases htext
    | redirect k target =>
      rw [Grammar.Item.target?] at htext
      split at htext
      · cases htext
        simp [Grammar.Item.tokens]
      · cases htext
  refine ⟨oneLine_woven hspelt.args (fun w hw => ?_) hlists, ?_, ?_⟩
  · obtain ⟨item, hitem, htext⟩ := List.mem_filterMap.mp hw
    refine hwords w (List.mem_flatMap.mpr ⟨item, hitem, ?_⟩)
    cases item with
    | argument word =>
      cases htext
      exact List.mem_cons_self
    | redirect k target => cases htext
  · rw [hspelt.input]
    exact htarget .input
  · rw [hspelt.output]
    exact htarget .output

theorem plain_stages (hsystem : system.Plain) {p : Plan} {diagnostics : List ExpansionError}
    (h : ((parseIn line directory limits).run system t).1 = .ok ⟨.external p, diagnostics⟩) :
    ∀ s ∈ p.stages, s.Plain := by
  obtain ⟨l, htokens, hspells⟩ := Grammar.exists_spells_parseIn h
  have hwords : ∀ w, .word w ∈ l.tokens → OneLine w := fun w hw => oneLine_word (htokens ▸ hw)
  have hlists : ∀ names, Grammar.Lists system directory (.ok names) → ∀ name ∈ names, Lines.newline ∉ name :=
    fun names ⟨t, ht⟩ => hsystem.names directory t names ht
  have hfirst := plain_spelt hspells.first (fun w hw => hwords w (List.mem_append_left _ hw)) hlists
  refine List.forall_mem_cons.mpr ⟨hfirst, fun s hs => ?_⟩
  obtain ⟨first, second⟩ := l
  have hsecond := hspells.second
  rw [Option.mem_toList.mp hs] at hsecond
  cases hsecond with
  | some hspelt =>
    exact plain_spelt hspelt (fun w hw => hwords w (List.mem_append_right _ (List.mem_cons_of_mem _ hw))) hlists

end

end LineShell
