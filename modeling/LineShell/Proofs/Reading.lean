import LineShell.Proofs.Offences
import LineShell.Proofs.Purposes

/-!
Lines that are read in a directory. What a line is read as is settled by its draft: nothing if the line is blank,
and otherwise a call of the builtin whose name is the first argument of the first stage, or a plan if there is
no such builtin. As long as the directory is listed in the same way, that is what the parser of texts gives.
-/

namespace LineShell

/-- The line holds nothing but separators. -/
def Blank (line : String) : Prop := ∀ c ∈ line.toList, Token.isSeparator c = true

/-- The stages of a line, read in a directory. -/
def Parse.draftIn (line : String) (directory : Path) (limits : Limits) : Action (Except ParseError Parse.Draft) :=
  Parse.readIn directory limits {} (Token.scan (Parse.body line))

/-! ### Blank lines -/

theorem scan_eq_nil_iff {line : String} : Token.scan line = [] ↔ Blank line := by
  rw [Token.scan, List.map_eq_nil_iff, Token.runs_eq_nil_iff, Blank]

/-- The newline that ends a line is a separator. -/
theorem blank_body {line : String} : Blank (Parse.body line) ↔ Blank line := by
  have hbody := Grammar.isBody_body line
  generalize Parse.body line = body at hbody
  obtain rfl | ⟨rfl, -⟩ := hbody
  · simp [Blank, or_imp, forall_and, Token.isSeparator]
  · rfl

/-! ### Commands -/

theorem ofStages_ne_empty (first : Stage) (second : Option Stage) : Command.ofStages first second ≠ .empty := by
  unfold Command.ofStages
  split
  · nofun
  · split <;> nofun

/-- A line calls the builtin whose name is its first argument. -/
theorem ofStages_eq_builtin_iff {first : Stage} {second : Option Stage} {b : Builtin} :
    (∃ args, Command.ofStages first second = .builtin ⟨b, args⟩) ↔ first.args.head? = some b.name := by
  unfold Command.ofStages
  split
  · rename_i hnil
    simp [hnil]
  · rename_i name args hargs
    rw [hargs, List.head?_cons, Option.some_inj, ← Grammar.ofName?_eq_some]
    cases Builtin.ofName? name <;> simp

theorem eq_of_ofStages_eq_external {first : Stage} {second : Option Stage} {p : Plan}
    (h : Command.ofStages first second = .external p) : p = ⟨first, second⟩ := by
  unfold Command.ofStages at h
  split at h
  · cases h
    rfl
  · split at h
    · cases h
    · cases h
      rfl

theorem finish_eq_ok {d : Parse.Draft} {p : ParsedLine} (h : d.finish = .ok p) :
    p.command = Command.ofStages d.first d.second := by
  unfold Parse.Draft.finish at h
  split at h
  · cases h
  · split at h
    · cases h
    · cases h
      rfl

/-! ### Runs of the parser -/

section
variable {σ : Type} {system : System σ} {line : String} {directory : Path} {limits : Limits} {t : σ}

/-- How a line is read: not at all if it is too long or blank, and else as its draft. -/
theorem run_parseIn :
    ((parseIn line directory limits).run system t).1 =
      if limits.maxLineLength < (Parse.body line).utf8ByteSize then
        .error (.lineTooLong (Parse.body line).utf8ByteSize limits.maxLineLength)
      else if Token.scan (Parse.body line) = [] then .ok ⟨.empty, []⟩
      else ((Parse.draftIn line directory limits).run system t).1 >>= Parse.Draft.finish := by
  rw [parseIn]
  split
  · rfl
  · split
    · rename_i hscan
      rw [if_pos hscan]
      rfl
    · rename_i hscan
      rw [if_neg hscan, Action.run_bind]
      rfl

theorem command_eq_empty_iff {p : ParsedLine} (h : ((parseIn line directory limits).run system t).1 = .ok p) :
    p.command = .empty ↔ Blank line := by
  rw [← blank_body, ← scan_eq_nil_iff]
  rw [run_parseIn] at h
  split at h
  · cases h
  · split at h
    · cases h
      exact iff_of_true rfl ‹_›
    · refine iff_of_false ?_ ‹_›
      generalize ((Parse.draftIn line directory limits).run system t).1 = draft at h
      obtain e | d := draft
      · cases h
      · rw [finish_eq_ok h]
        exact ofStages_ne_empty _ _

/-- A line that is accepted calls the builtin whose name is the first argument of its first stage. -/
theorem command_eq_builtin_iff {p : ParsedLine} {b : Builtin}
    (h : ((parseIn line directory limits).run system t).1 = .ok p) :
    (∃ args, p.command = .builtin ⟨b, args⟩) ↔
      ∃ d, ((Parse.draftIn line directory limits).run system t).1 = .ok d ∧ d.first.args.head? = some b.name := by
  rw [run_parseIn] at h
  split at h
  · cases h
  · split at h
    · rename_i hscan
      cases h
      have hdraft : ((Parse.draftIn line directory limits).run system t).1 = .ok {} := by
        rw [Parse.draftIn, hscan]
        rfl
      simp [hdraft]
    · generalize ((Parse.draftIn line directory limits).run system t).1 = draft at h
      obtain e | d := draft
      · cases h
      · rw [finish_eq_ok h, ofStages_eq_builtin_iff]
        simp

/-! ### The parser of texts -/

variable {listing : Listing}

/-- Only a pattern that can be read is looked up. -/
theorem argumentsOf_congr {word : String} (h : ¬(Wildcard.isPattern word && (Pattern.compile word).isOk) = true)
    (listing listing' : Listing) : Parse.argumentsOf listing word = Parse.argumentsOf listing' word := by
  unfold Parse.argumentsOf
  split
  · rename_i hpattern
    have hcompile : ¬(Pattern.compile word).isOk = true := fun hok => h (by simp [hpattern, hok])
    unfold Wildcard.expand
    cases hitems : Pattern.compile word with
    | error source => rfl
    | ok items => simp [hitems, Except.isOk, Except.toBool] at hcompile
  · rfl

/-- A listing makes a difference to a word only through what the word then stands for. -/
theorem addWord_congr {word : String} {listing' : Listing}
    (h : Parse.argumentsOf listing word = Parse.argumentsOf listing' word) (d : Parse.Draft) :
    d.addWord limits listing word = d.addWord limits listing' word := by
  rw [Parse.Draft.addWord, Parse.Draft.addWord, h]

/-- The listing that a token is read against gives the same as another one, or it makes no difference. -/
theorem read_listingFor {token : Token}
    (hword : ∀ word, token = .word word →
      ∀ u, Parse.argumentsOf (system.answer (.listDirectory directory) u).1 word = Parse.argumentsOf listing word)
    (d : Parse.Draft) :
    Parse.read limits ((Parse.listingFor directory token).run system t).1 d [token] =
      Parse.read limits listing d [token] := by
  cases token with
  | pipe => rfl
  | redirect kind => rfl
  | word w =>
    rw [Parse.listingFor]
    split
    · rw [Action.run_request]
      simp only [Parse.read, addWord_congr (hword w rfl t)]
    · -- Nothing is looked up for the word, and it gives the same whatever is listed.
      rename_i hplain
      simp only [Parse.read, Action.run_pure, addWord_congr (argumentsOf_congr hplain _ listing)]

theorem read_cons {d : Parse.Draft} {token : Token} {tokens : List Token}
    (h : ∀ kind target rest, token = .redirect kind → tokens = .word target :: rest → False) :
    Parse.read limits listing d (token :: tokens) =
      Parse.read limits listing d [token] >>= fun d => Parse.read limits listing d tokens := by
  cases token with
  | pipe => cases hpipe : d.addPipe <;> simp [Parse.read, hpipe, bind, Except.bind]
  | word w => cases hword : d.addWord limits listing w <;> simp [Parse.read, hword, bind, Except.bind]
  | redirect kind =>
    obtain _ | ⟨next, rest⟩ := tokens
    · rfl
    · cases next with
      | word target => exact (h kind target rest rfl rfl).elim
      | _ => rfl

theorem mem_argumentWords_cons {token : Token} {tokens : List Token} {word : String}
    (hnot : ∀ kind target rest, token = .redirect kind → tokens = .word target :: rest → False) :
    word ∈ Grammar.argumentWords (token :: tokens) ↔ token = .word word ∨ word ∈ Grammar.argumentWords tokens := by
  cases token with
  | pipe => simp [Grammar.argumentWords]
  | word w => simp [Grammar.argumentWords, eq_comm]
  | redirect kind =>
    obtain _ | ⟨next, rest⟩ := tokens
    · simp [Grammar.argumentWords]
    · cases next with
      | word target => exact (hnot kind target rest rfl rfl).elim
      | _ => simp [Grammar.argumentWords]

theorem run_readIn {tokens : List Token}
    (hwords : ∀ word ∈ Grammar.argumentWords tokens,
      ∀ u, Parse.argumentsOf (system.answer (.listDirectory directory) u).1 word = Parse.argumentsOf listing word)
    (d : Parse.Draft) :
    ((Parse.readIn directory limits d tokens).run system t).1 = Parse.read limits listing d tokens := by
  fun_induction Parse.readIn directory limits d tokens generalizing t with
  | case1 d => rfl
  | case2 d kind target tokens ih => exact ih hwords
  | case3 d token tokens hnot ih =>
    have hrest := fun word hword => hwords word ((mem_argumentWords_cons hnot).mpr (.inr hword))
    have htoken := fun word hword => hwords word ((mem_argumentWords_cons hnot).mpr (.inl hword))
    rw [Action.run_bind, read_listingFor htoken, read_cons hnot]
    cases Parse.read limits listing d [token] with
    | error e => rfl
    | ok d => exact ih d hrest

/-- In a directory a line is read as the text that it is, against any listing that gives its argument words the same as
the directory does. -/
theorem run_parseIn_of_words
    (hwords : ∀ word ∈ Grammar.argumentWords (Token.scan (Parse.body line)),
      ∀ u, Parse.argumentsOf (system.answer (.listDirectory directory) u).1 word = Parse.argumentsOf listing word) :
    ((parseIn line directory limits).run system t).1 = parse line listing limits := by
  rw [run_parseIn, Parse.draftIn, run_readIn hwords, parse]
  split
  · rfl
  · cases Token.scan (Parse.body line) <;> rfl

/-- In a directory that is always listed in the same way a line is read as the text that it is. -/
theorem run_parseIn_eq_parse (hlisting : ∀ u, (system.answer (.listDirectory directory) u).1 = listing) :
    ((parseIn line directory limits).run system t).1 = parse line listing limits :=
  run_parseIn_of_words fun word _ u => by rw [hlisting]

end

end LineShell
