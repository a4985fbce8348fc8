import LineShell.Command.Parse
import LineShell.Proofs.Runs

/-!
The grammar of lines. A line is one segment, or two with a pipe between them, and a segment is a
sequence of items: argument words and redirects. What a segment stands for is read off its items as a
whole, so that the order of the scan plays no part in it. Parsing accepts exactly the lines of this
grammar whose segments give neither no argument nor too many, and it gives each its meaning.
-/

namespace LineShell.Grammar

/-! ### Segments -/

/-- What a segment is made of. -/
inductive Item where
  | argument (word : String)
  | redirect (kind : Redirect) (target : String)
  deriving DecidableEq, Repr

/-- The tokens that an item is written as. -/
def Item.tokens : Item → List Token
  | .argument word => [.word word]
  | .redirect kind target => [.redirect kind, .word target]

/-- The word of an argument. -/
def Item.word? : Item → Option String
  | .argument word => some word
  | .redirect _ _ => none

/-- The target of a redirect of the given kind. -/
def Item.target? (kind : Redirect) : Item → Option String
  | .argument _ => none
  | .redirect k target => if k = kind then some target else none

/-- What a word expands to: all matches of a pattern, and any other word to itself. -/
def expansion (listing : Listing) (word : String) : Except ExpansionError (List String) :=
  if Wildcard.isPattern word then Wildcard.expand word listing else .ok [word]

/-- The error of a failed expansion. -/
def error? {α : Type} : Except ExpansionError α → Option ExpansionError
  | .ok _ => none
  | .error e => some e

section
variable (listing : Listing)

/-- The arguments of a segment: what its words expand to, in order. -/
def arguments (g : List Item) : List String :=
  (g.filterMap Item.word?).flatMap fun word => (expansion listing word).toOption.getD []

/-- The errors of a segment: those of its words that cannot be expanded, in order. -/
def diagnostics (g : List Item) : List ExpansionError :=
  (g.filterMap Item.word?).filterMap fun word => error? (expansion listing word)

/-- The target of a segment's last redirect of the given kind. -/
def target (kind : Redirect) (g : List Item) : Option String := (g.filterMap (Item.target? kind)).getLast?

/-- The stage that a segment stands for. -/
def stage (g : List Item) : Stage := ⟨arguments listing g, target .input g, target .output g⟩

/-- A segment gives an argument, and no more than are allowed. -/
structure Fits (limits : Limits) (g : List Item) : Prop where
  pos : 1 ≤ (arguments listing g).length
  le : (arguments listing g).length ≤ limits.maxArgs

end

/-! ### Lines -/

/-- One segment, or two that a pipe joins. -/
structure Line where
  first : List Item
  second : Option (List Item) := none
  deriving DecidableEq, Repr

namespace Line

/-- The segments of a line. -/
def segments (l : Line) : List (List Item) := l.first :: l.second.toList

/-- The tokens that a line is written as. -/
def tokens (l : Line) : List Token :=
  l.first.flatMap Item.tokens ++ match l.second with
    | none => []
    | some g => .pipe :: g.flatMap Item.tokens

section
variable (listing : Listing)

/-- The errors of a line. -/
def diagnostics (l : Line) : List ExpansionError := l.segments.flatMap (Grammar.diagnostics listing)

/-- The plan that a line spells out. -/
def plan (l : Line) : Plan := ⟨stage listing l.first, l.second.map (stage listing)⟩

/-- What a line asks for: the builtin that its first argument names, and else its plan. -/
inductive Asks (l : Line) : Command → Prop
  | builtin {b : Builtin} {args : List String} (h : arguments listing l.first = b.name :: args) :
    Asks l (.builtin ⟨b, args⟩)
  | external (h : ∀ b : Builtin, (arguments listing l.first).head? ≠ some b.name) :
    Asks l (.external (l.plan listing))

end
end Line

/-- What tokens mean: nothing if there are none, and else what the line that they spell asks for. -/
inductive Means (limits : Limits) (listing : Listing) : List Token → ParsedLine → Prop
  | blank : Means limits listing [] ⟨.empty, []⟩
  | line {l : Line} {c : Command} (hfit : ∀ g ∈ l.segments, Fits listing limits g) (hasks : l.Asks listing c) :
    Means limits listing l.tokens ⟨c, l.diagnostics listing⟩

/-- `body` is `line` without the newline that ends it, if there is one. -/
def IsBody (line body : String) : Prop :=
  line = body ++ "\n" ∨ line = body ∧ body.toList.getLast? ≠ some '\n'

theorem body_append_newline (body : String) : Parse.body (body ++ "\n") = body := by
  simp [Parse.body, String.ofList_toList]

theorem body_eq_self {line : String} (h : line.toList.getLast? ≠ some '\n') : Parse.body line = line := by
  unfold Parse.body
  split
  · rename_i cs hcs
    exact absurd (by rw [List.getLast?_eq_head?_reverse, hcs]; rfl) h
  · rfl

theorem isBody_body (line : String) : IsBody line (Parse.body line) := by
  by_cases h : line.toList.getLast? = some '\n'
  · obtain ⟨cs, hcs⟩ := List.getLast?_eq_some_iff.mp h
    have hline : line = String.ofList cs ++ "\n" := by
      rw [← String.toList_inj, hcs]
      simp
    left
    rw [hline, body_append_newline]
  · right
    rw [body_eq_self h]
    exact ⟨rfl, h⟩

theorem IsBody.eq {line body : String} (h : IsBody line body) : body = Parse.body line := by
  rcases h with rfl | ⟨rfl, hend⟩
  · exact (body_append_newline body).symm
  · exact (body_eq_self hend).symm

/-! ### Reading a segment -/

theorem isPattern_eq_false_iff {word : String} :
    Wildcard.isPattern word = false ↔ ∀ c ∈ word.toList, c ≠ '*' ∧ c ≠ '?' := by
  simp [Wildcard.isPattern]

section
variable (listing : Listing)

@[simp] theorem arguments_nil : arguments listing [] = [] := rfl

@[simp] theorem diagnostics_nil : diagnostics listing [] = [] := rfl

@[simp] theorem arguments_redirect (kind : Redirect) (t : String) : arguments listing [.redirect kind t] = [] := rfl

theorem arguments_append (g h : List Item) :
    arguments listing (g ++ h) = arguments listing g ++ arguments listing h := by
  simp [arguments, List.filterMap_append]

theorem diagnostics_append (g h : List Item) :
    diagnostics listing (g ++ h) = diagnostics listing g ++ diagnostics listing h := by
  simp [diagnostics, List.filterMap_append]

theorem target_append (kind : Redirect) (g h : List Item) :
    target kind (g ++ h) = (target kind h).or (target kind g) := by
  simp [target, List.filterMap_append, List.getLast?_append]

/-- What an argument word adds to a draft is what the word expands to. -/
theorem argumentsOf_eq (word : String) :
    Parse.argumentsOf listing word = (arguments listing [.argument word], diagnostics listing [.argument word]) := by
  unfold Parse.argumentsOf
  split
  · rename_i hp
    cases he : Wildcard.expand word listing <;>
      simp [arguments, diagnostics, expansion, Item.word?, error?, hp, he, Except.toOption]
  · rename_i hp
    simp [arguments, diagnostics, expansion, Item.word?, error?, hp, Except.toOption]

/-- A draft after the items of a segment have been added to its current stage. -/
def extend (d : Parse.Draft) (g : List Item) : Parse.Draft :=
  { d.setCurrent {
      args := d.current.args ++ arguments listing g
      input := (target .input g).or d.current.input
      output := (target .output g).or d.current.output } with
    diagnostics := d.diagnostics ++ diagnostics listing g }

@[simp] theorem current_setCurrent (d : Parse.Draft) (s : Stage) : (d.setCurrent s).current = s := by
  obtain ⟨first, _ | second, diagnostics⟩ := d <;> rfl

@[simp] theorem setCurrent_current (d : Parse.Draft) : d.setCurrent d.current = d := by
  obtain ⟨first, _ | second, diagnostics⟩ := d <;> rfl

@[simp] theorem setCurrent_setCurrent (d : Parse.Draft) (s t : Stage) :
    (d.setCurrent s).setCurrent t = d.setCurrent t := by
  obtain ⟨first, _ | second, diagnostics⟩ := d <;> rfl

@[simp] theorem isSome_second_extend (d : Parse.Draft) (g : List Item) :
    (extend listing d g).second.isSome = d.second.isSome := by
  obtain ⟨first, _ | second, diagnostics⟩ := d <;> rfl

@[simp] theorem current_extend (d : Parse.Draft) (g : List Item) :
    (extend listing d g).current.args = d.current.args ++ arguments listing g := by
  obtain ⟨first, _ | second, diagnostics⟩ := d <;> rfl

theorem extend_nil (d : Parse.Draft) : extend listing d [] = d := by
  obtain ⟨first, _ | second, diagnostics⟩ := d <;> simp [extend, target, Parse.Draft.setCurrent, Parse.Draft.current]

theorem extend_append (d : Parse.Draft) (g h : List Item) :
    extend listing d (g ++ h) = extend listing (extend listing d g) h := by
  obtain ⟨first, _ | second, diagnostics⟩ := d <;>
    simp [extend, Parse.Draft.setCurrent, Parse.Draft.current, arguments_append, diagnostics_append, target_append,
      Option.or_assoc]

theorem extend_cons (d : Parse.Draft) (i : Item) (g : List Item) :
    extend listing d (i :: g) = extend listing (extend listing d [i]) g :=
  extend_append listing d [i] g

theorem redirect_eq (d : Parse.Draft) (kind : Redirect) (t : String) :
    d.redirect kind t = extend listing d [.redirect kind t] := by
  obtain ⟨first, _ | second, diagnostics⟩ := d <;> cases kind <;>
    simp [extend, Parse.Draft.redirect, Parse.Draft.setCurrent, Parse.Draft.current, Stage.redirect, arguments,
      Grammar.diagnostics, target, Item.word?, Item.target?]

variable (limits : Limits)

/-- A word is added as long as the stage does not get too many arguments by it. -/
theorem addWord_eq (d : Parse.Draft) (word : String) :
    d.addWord limits listing word =
      if limits.maxArgs < (extend listing d [.argument word]).current.args.length then
        .error (.tooManyArguments (extend listing d [.argument word]).current.args.length limits.maxArgs)
      else .ok (extend listing d [.argument word]) := by
  have hextend : extend listing d [.argument word] =
      { d.setCurrent { d.current with args := d.current.args ++ arguments listing [.argument word] } with
        diagnostics := d.diagnostics ++ diagnostics listing [.argument word] } := by
    simp [extend, target, Item.target?]
  rw [current_extend, hextend]
  simp only [Parse.Draft.addWord, argumentsOf_eq]

theorem addWord_eq_ok {d e : Parse.Draft} {word : String} :
    d.addWord limits listing word = .ok e ↔
      (d.current.args ++ arguments listing [.argument word]).length ≤ limits.maxArgs ∧
        e = extend listing d [.argument word] := by
  rw [addWord_eq, current_extend]
  split
  · rename_i hlt
    simp only [reduceCtorEq, false_iff, not_and]
    intro hle
    omega
  · rename_i hle
    rw [Except.ok.injEq, eq_comm]
    exact ⟨fun h => ⟨by omega, h⟩, fun h => h.2⟩

/-- Reading goes past a whole segment that gives no more arguments than are allowed. The stage grows with
every word, so the bound on its final length holds at each of them. -/
theorem read_segment (d : Parse.Draft) (g : List Item) (ts : List Token)
    (h : (d.current.args ++ arguments listing g).length ≤ limits.maxArgs) :
    Parse.read limits listing d (g.flatMap Item.tokens ++ ts) = Parse.read limits listing (extend listing d g) ts := by
  induction g generalizing d with
  | nil => simp [extend_nil]
  | cons i g ih =>
    have hargs : arguments listing (i :: g) = arguments listing [i] ++ arguments listing g :=
      arguments_append listing [i] g
    rw [hargs, ← List.append_assoc] at h
    rw [extend_cons, ← ih (extend listing d [i]) (by rw [current_extend]; exact h)]
    cases i with
    | argument word =>
      have hword : d.addWord limits listing word = .ok (extend listing d [.argument word]) := by
        rw [addWord_eq_ok]
        refine ⟨?_, rfl⟩
        rw [List.length_append] at h
        omega
      simp only [List.flatMap_cons, Item.tokens, List.cons_append, List.nil_append, Parse.read, hword]
      rfl
    | redirect kind t =>
      simp only [List.flatMap_cons, Item.tokens, List.cons_append, List.nil_append, Parse.read]
      rw [redirect_eq listing]

/-- A draft after all segments of a line: the second one fills a stage of its own. -/
def extendLine (d : Parse.Draft) (l : Line) : Parse.Draft :=
  match l.second with
  | none => extend listing d l.first
  | some g => extend listing { extend listing d l.first with second := some {} } g

theorem extendLine_empty (l : Line) :
    extendLine listing {} l = ⟨stage listing l.first, l.second.map (stage listing), l.diagnostics listing⟩ := by
  obtain ⟨g, _ | h⟩ := l <;>
    simp [extendLine, extend, Parse.Draft.setCurrent, Parse.Draft.current, stage, Line.diagnostics, Line.segments]

/-- What reading makes of tokens: they spell the rest of a line, no stage of which gets too many
arguments, and a pipe among them starts the second stage. -/
structure Reads (d : Parse.Draft) (ts : List Token) (e : Parse.Draft) (l : Line) : Prop where
  tokens : ts = l.tokens
  pipe : d.second.isSome → l.second = none
  first : (d.current.args ++ arguments listing l.first).length ≤ limits.maxArgs
  second : ∀ g ∈ l.second, (arguments listing g).length ≤ limits.maxArgs
  result : e = extendLine listing d l

/-- An item in front of what is read. -/
theorem Reads.cons {d e : Parse.Draft} {i : Item} {ts : List Token} {l : Line}
    (h : Reads listing limits (extend listing d [i]) ts e l) :
    Reads listing limits d (i.tokens ++ ts) e ⟨i :: l.first, l.second⟩ where
  tokens := by
    rw [h.tokens]
    simp [Line.tokens]
  pipe hd := h.pipe (by rwa [isSome_second_extend])
  first := by
    have hfirst := h.first
    rwa [current_extend, List.append_assoc, ← arguments_append] at hfirst
  second := h.second
  result := by
    rw [h.result]
    simp only [extendLine, extend_cons listing d i l.first]

theorem exists_reads {d e : Parse.Draft} {ts : List Token} (hd : d.current.args.length ≤ limits.maxArgs)
    (h : Parse.read limits listing d ts = .ok e) : ∃ l, Reads listing limits d ts e l := by
  fun_induction Parse.read limits listing d ts with
  | case1 d =>
    cases h
    exact ⟨⟨[], none⟩, rfl, fun _ => rfl, by simpa using hd, by simp, (extend_nil listing _).symm⟩
  | case2 d ts ih =>
    obtain ⟨first, _ | second, diagnostics⟩ := d
    · obtain ⟨l, hl⟩ := ih _ (Nat.zero_le _) h
      -- The rest belongs to the second stage, so it holds no pipe and is one segment.
      have hnone : l.second = none := hl.pipe rfl
      refine ⟨⟨[], some l.first⟩, ?_, by simp, by simpa using hd, ?_, ?_⟩
      · rw [hl.tokens]
        simp [Line.tokens, hnone]
      · simpa [Parse.Draft.current] using hl.first
      · rw [hl.result]
        simp [extendLine, hnone, extend_nil]
    · cases h
  | case3 d kind t ts ih =>
    rw [redirect_eq listing] at ih h
    obtain ⟨l, hl⟩ := ih (by simpa using hd) h
    exact ⟨_, hl.cons⟩
  | case4 => cases h
  | case5 d w ts ih =>
    cases hw : d.addWord limits listing w with
    | error => simp [hw, bind, Except.bind] at h
    | ok d' =>
      obtain ⟨hle, rfl⟩ := (addWord_eq_ok listing limits).mp hw
      rw [hw] at h
      obtain ⟨l, hl⟩ := ih _ (by rwa [current_extend]) h
      exact ⟨_, hl.cons⟩

theorem read_line {d : Parse.Draft} {l : Line} (hd : d.second.isSome → l.second = none)
    (hfirst : (d.current.args ++ arguments listing l.first).length ≤ limits.maxArgs)
    (hsecond : ∀ g ∈ l.second, (arguments listing g).length ≤ limits.maxArgs) :
    Parse.read limits listing d l.tokens = .ok (extendLine listing d l) := by
  obtain ⟨g, _ | h⟩ := l
  · have := read_segment listing limits d g [] hfirst
    simpa [Line.tokens, extendLine, Parse.read] using this
  · have hpipe : (extend listing d g).second = none := by
      rw [← Option.not_isSome_iff_eq_none, isSome_second_extend]
      exact fun hsome => by simpa using hd hsome
    have hrest := read_segment listing limits { extend listing d g with second := some {} } h []
      (by simpa [Parse.Draft.current] using hsecond h rfl)
    rw [List.append_nil] at hrest
    rw [Line.tokens, read_segment listing limits d g _ hfirst, Parse.read, Parse.Draft.addPipe, hpipe]
    exact hrest

end

/-! ### What a line asks for -/

theorem ofName?_eq_some {name : String} {b : Builtin} : Builtin.ofName? name = some b ↔ name = b.name := by
  constructor
  · intro h
    have hname := List.find?_some h
    exact (beq_iff_eq.mp hname).symm
  · rintro rfl
    cases b <;> decide

section
variable {listing : Listing} {limits : Limits} {l : Line} {c : Command}

/-- The command of a line's stages is the one that the line asks for, and the only one. -/
theorem Line.asks_iff (h : arguments listing l.first ≠ []) :
    l.Asks listing c ↔ c = Command.ofStages (stage listing l.first) (l.second.map (stage listing)) := by
  obtain ⟨name, args, hargs⟩ := List.exists_cons_of_ne_nil h
  unfold Command.ofStages
  simp only [stage, hargs]
  constructor
  · intro hasks
    cases hasks with
    | builtin hb =>
      obtain ⟨rfl, rfl⟩ := List.cons.inj (hargs.symm.trans hb)
      rw [ofName?_eq_some.mpr rfl]
    | external hno =>
      cases hb : Builtin.ofName? name with
      | some b =>
        refine absurd ?_ (hno b)
        rw [hargs, List.head?_cons, ofName?_eq_some.mp hb]
      | none => simp [Line.plan, stage, hargs]
  · intro hc
    cases hb : Builtin.ofName? name with
    | some b =>
      simp only [hb] at hc
      subst hc
      exact .builtin (by rw [hargs, ofName?_eq_some.mp hb])
    | none =>
      simp only [hb] at hc
      have hplan : c = .external (l.plan listing) := by rw [hc]; simp [Line.plan, stage, hargs]
      subst hplan
      refine .external fun b hhead => ?_
      rw [hargs, List.head?_cons, Option.some.injEq] at hhead
      rw [ofName?_eq_some.mpr hhead] at hb
      cases hb

/-! ### Parsing -/

/-- A line is finished if each of its segments gives an argument. -/
theorem finish_extendLine_eq_ok {parsed : ParsedLine} :
    (extendLine listing {} l).finish = .ok parsed ↔
      (∀ g ∈ l.segments, arguments listing g ≠ []) ∧
        parsed = ⟨Command.ofStages (stage listing l.first) (l.second.map (stage listing)), l.diagnostics listing⟩ := by
  rw [extendLine_empty]
  obtain ⟨g, _ | h⟩ := l
  · by_cases hg : arguments listing g = [] <;>
      simp [Parse.Draft.finish, stage, Line.segments, hg, eq_comm (a := parsed)]
  · by_cases hg : arguments listing g = [] <;> by_cases hh : arguments listing h = [] <;>
      simp [Parse.Draft.finish, stage, Line.segments, hg, hh, eq_comm (a := parsed)]

theorem fits_iff {g : List Item} :
    Fits listing limits g ↔ arguments listing g ≠ [] ∧ (arguments listing g).length ≤ limits.maxArgs := by
  rw [← List.length_pos_iff]
  exact ⟨fun h => ⟨h.pos, h.le⟩, fun h => ⟨h.1, h.2⟩⟩

/-- A line that fits has a word, so it is written with at least one token. -/
theorem Line.tokens_ne_nil (hfit : ∀ g ∈ l.segments, Fits listing limits g) : l.tokens ≠ [] := by
  intro hnil
  have hfirst : l.first = [] := by
    cases hg : l.first with
    | nil => rfl
    | cons i g => cases i <;> simp [Line.tokens, hg, Item.tokens] at hnil
  have hpos := (hfit l.first List.mem_cons_self).pos
  simp [hfirst] at hpos

theorem means_nil_iff {parsed : ParsedLine} : Means limits listing [] parsed ↔ parsed = ⟨.empty, []⟩ := by
  constructor
  · generalize hts : ([] : List Token) = ts
    intro h
    cases h with
    | blank => rfl
    | line hfit => exact absurd hts.symm (Line.tokens_ne_nil hfit)
  · rintro rfl
    exact .blank

theorem read_finish_eq_ok {ts : List Token} {parsed : ParsedLine} (hts : ts ≠ []) :
    (Parse.read limits listing {} ts >>= Parse.Draft.finish) = .ok parsed ↔ Means limits listing ts parsed := by
  constructor
  · intro h
    cases hread : Parse.read limits listing {} ts with
    | error e => simp [hread, bind, Except.bind] at h
    | ok d =>
      rw [hread] at h
      obtain ⟨l, hl⟩ := exists_reads listing limits (Nat.zero_le _) hread
      obtain ⟨hne, rfl⟩ := finish_extendLine_eq_ok.mp (hl.result ▸ h)
      rw [hl.tokens]
      refine .line (fun g hg => fits_iff.mpr ⟨hne g hg, ?_⟩) ((Line.asks_iff (hne _ List.mem_cons_self)).mpr rfl)
      rcases List.mem_cons.mp hg with rfl | hg
      · exact hl.first
      · exact hl.second g (Option.mem_toList.mp hg)
  · intro h
    cases h with
    | blank => exact absurd rfl hts
    | @line l c hfit hasks =>
      have hread : Parse.read limits listing {} l.tokens = .ok (extendLine listing {} l) :=
        read_line listing limits (fun hsome => by cases hsome) (hfit _ List.mem_cons_self).le
          fun g hg => (hfit g (List.mem_cons_of_mem _ (Option.mem_toList.mpr hg))).le
      have hne : ∀ g ∈ l.segments, arguments listing g ≠ [] := fun g hg => (fits_iff.mp (hfit g hg)).1
      rw [(Line.asks_iff (hne _ List.mem_cons_self)).mp hasks, hread]
      exact finish_extendLine_eq_ok.mpr ⟨hne, rfl⟩

theorem parse_eq_ok_iff {line : String} {parsed : ParsedLine} :
    parse line listing limits = .ok parsed ↔ ∃ body, IsBody line body ∧
      body.utf8ByteSize ≤ limits.maxLineLength ∧ Means limits listing (Token.between body) parsed := by
  have hbody : (∃ body, IsBody line body ∧ body.utf8ByteSize ≤ limits.maxLineLength ∧
      Means limits listing (Token.between body) parsed) ↔
      (Parse.body line).utf8ByteSize ≤ limits.maxLineLength ∧
        Means limits listing (Token.scan (Parse.body line)) parsed := by
    constructor
    · rintro ⟨body, hb, hsize, hmeans⟩
      rw [← hb.eq, Token.scan_eq_between]
      exact ⟨hsize, hmeans⟩
    · rintro ⟨hsize, hmeans⟩
      exact ⟨_, isBody_body line, hsize, Token.scan_eq_between _ ▸ hmeans⟩
  rw [hbody]
  simp only [parse]
  split
  · rename_i hlong
    simp only [reduceCtorEq, false_iff, not_and]
    intro hle
    omega
  · rename_i hshort
    rw [and_iff_right (by omega)]
    split
    · rename_i hnil
      rw [hnil, means_nil_iff, Except.ok.injEq, eq_comm]
    · rename_i hne
      exact read_finish_eq_ok hne

/-- The accepted lines are those of the grammar: at most so long, and blank or spelling one or two
segments each of which gives an argument and no more than are allowed. What an accepted line is parsed to
is what its tokens mean. -/
theorem parse_accepts_grammar (line : String) (listing : Listing) (limits : Limits) :
    ((∃ parsed, parse line listing limits = .ok parsed) ↔
      ∃ body, IsBody line body ∧ body.utf8ByteSize ≤ limits.maxLineLength ∧
        (Token.between body = [] ∨
          ∃ l : Line, Token.between body = l.tokens ∧ ∀ g ∈ l.segments, Fits listing limits g)) ∧
    ∀ parsed, parse line listing limits = .ok parsed ↔
      ∃ body, IsBody line body ∧ body.utf8ByteSize ≤ limits.maxLineLength ∧
        Means limits listing (Token.between body) parsed := by
  refine ⟨?_, fun parsed => parse_eq_ok_iff⟩
  constructor
  · rintro ⟨parsed, h⟩
    obtain ⟨body, hb, hsize, hmeans⟩ := parse_eq_ok_iff.mp h
    refine ⟨body, hb, hsize, ?_⟩
    generalize Token.between body = ts at hmeans
    cases hmeans with
    | blank => exact .inl rfl
    | @line l _ hfit _ => exact .inr ⟨l, rfl, hfit⟩
  · rintro ⟨body, hb, hsize, hnil | ⟨l, htokens, hfit⟩⟩
    · refine ⟨⟨.empty, []⟩, parse_eq_ok_iff.mpr ⟨body, hb, hsize, ?_⟩⟩
      rw [hnil]
      exact .blank
    · have hne := (fits_iff.mp (hfit _ List.mem_cons_self)).1
      obtain ⟨c, hasks⟩ : ∃ c, l.Asks listing c := ⟨_, (Line.asks_iff hne).mpr rfl⟩
      refine ⟨⟨c, l.diagnostics listing⟩, parse_eq_ok_iff.mpr ⟨body, hb, hsize, ?_⟩⟩
      rw [htokens]
      exact .line hfit hasks

end

end LineShell.Grammar
