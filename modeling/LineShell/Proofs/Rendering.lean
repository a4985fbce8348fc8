import LineShell.Proofs.Grammar
import Mathlib.Algebra.Order.BigOperators.Group.List
import Mathlib.Algebra.Order.Group.Nat
import Mathlib.Data.List.Basic

/-!
The text of a command is a line that asks for it. It is written as tokens, each with a blank in front of it but
the first, and so it is cut into just these again. They spell the arguments of a stage and then its redirects,
and an argument that is no pattern stands for itself whatever the directory holds. So a text belongs to one
command at most.
-/

namespace LineShell

/-! ### Commands that can be written -/

/-- A text that is read as one word. -/
structure IsTokenWord (w : String) : Prop where
  ne_empty : w ≠ ""
  unbroken : ∀ c ∈ w.toList, c ≠ ' ' ∧ c ≠ '\n'
  ne_operator : w ≠ "|" ∧ w ≠ "<" ∧ w ≠ ">"

/-- A word that stands for itself where an argument may stand. -/
structure IsArgument (w : String) : Prop where
  word : IsTokenWord w
  plain : ∀ c ∈ w.toList, c ≠ '*' ∧ c ≠ '?'

/-- Each part of the stage is one word, and no argument is a pattern. -/
structure Stage.Writable (s : Stage) : Prop where
  args_ne_nil : s.args ≠ []
  args : ∀ w ∈ s.args, IsArgument w
  input : ∀ t ∈ s.input, IsTokenWord t
  output : ∀ t ∈ s.output, IsTokenWord t

instance (w : String) : Decidable (IsTokenWord w) :=
  decidable_of_iff (w ≠ "" ∧ w.toList.all (fun c => c ≠ ' ' ∧ c ≠ '\n') ∧ (w ≠ "|" ∧ w ≠ "<" ∧ w ≠ ">"))
    ⟨fun ⟨hne, hunbroken, hoperator⟩ => ⟨hne, by simpa using hunbroken, hoperator⟩,
      fun h => ⟨h.1, by simpa using h.2, h.3⟩⟩

instance (w : String) : Decidable (IsArgument w) :=
  decidable_of_iff (IsTokenWord w ∧ w.toList.all fun c => c ≠ '*' ∧ c ≠ '?')
    ⟨fun ⟨hword, hplain⟩ => ⟨hword, by simpa using hplain⟩, fun h => ⟨h.1, by simpa using h.2⟩⟩

instance (s : Stage) : Decidable s.Writable :=
  decidable_of_iff (s.args ≠ [] ∧ (∀ w ∈ s.args, IsArgument w) ∧ (∀ t ∈ s.input, IsTokenWord t) ∧
      ∀ t ∈ s.output, IsTokenWord t)
    ⟨fun ⟨hne, hargs, hinput, houtput⟩ => ⟨hne, hargs, hinput, houtput⟩, fun h => ⟨h.1, h.2, h.3, h.4⟩⟩

namespace Command

/-- A command whose parts are words: a plan that does not start with the name of a builtin, or an invocation. -/
inductive Writable : Command → Prop
  | external {p : Plan} (hfirst : p.first.Writable) (hsecond : ∀ s ∈ p.second, s.Writable)
    (hprogram : ∀ b : Builtin, p.first.args.head? ≠ some b.name) : Writable (.external p)
  | builtin {i : Invocation} (hargs : ∀ w ∈ i.args, IsArgument w) : Writable (.builtin i)

/-- The number of arguments in each stage of a command, the name of a builtin included. -/
def argumentCounts : Command → List Nat
  | .empty => []
  | .builtin i => [(i.builtin.name :: i.args).length]
  | .external p => (p.first :: p.second.toList).map (·.args.length)

end Command

namespace Grammar

/-! ### Texts of tokens -/

/-- Tokens as they are written, with a blank in front of each. -/
def spaced (ts : List Token) : List Char := ts.flatMap fun t => ' ' :: t.text.toList

/-- A token that is read again from its text: a word is one token. -/
def Legible (t : Token) : Prop := ∀ w, t = .word w → IsTokenWord w

theorem legible_pipe : Legible .pipe := nofun

theorem legible_redirect (kind : Redirect) : Legible (.redirect kind) := nofun

theorem legible_word {w : String} (h : IsTokenWord w) : Legible (.word w) := by
  rintro w' ⟨⟩
  exact h

theorem text_ne_nil {t : Token} (h : Legible t) : t.text.toList ≠ [] := by
  cases t with
  | pipe => simp [Token.text]
  | redirect kind => cases kind <;> simp [Token.text, Redirect.symbol]
  | word w =>
    have hne := (h w rfl).ne_empty
    simpa [Token.text] using hne

theorem text_unbroken {t : Token} (h : Legible t) : ∀ c ∈ t.text.toList, c ≠ ' ' ∧ c ≠ '\n' := by
  cases t with
  | pipe => simp [Token.text]
  | redirect kind => cases kind <;> simp [Token.text, Redirect.symbol]
  | word w => exact (h w rfl).unbroken

theorem ofRun_text {t : Token} (h : Legible t) : Token.ofRun t.text.toList = t := by
  cases t with
  | pipe => rfl
  | redirect kind => cases kind <;> rfl
  | word w =>
    obtain ⟨hpipe, hinput, houtput⟩ := (h w rfl).ne_operator
    have hpipe' : w.toList ≠ ['|'] := fun heq => hpipe (String.toList_inj.mp heq)
    have hinput' : w.toList ≠ ['<'] := fun heq => hinput (String.toList_inj.mp heq)
    have houtput' : w.toList ≠ ['>'] := fun heq => houtput (String.toList_inj.mp heq)
    rw [Token.text, Token.ofRun, if_neg hpipe', if_neg hinput', if_neg houtput', String.ofList_toList]

/-- Legible tokens are read again from what they are written as. -/
theorem runs_spaced {ts : List Token} (h : ∀ t ∈ ts, Legible t) :
    Token.runs (spaced ts) = ts.map fun t => t.text.toList := by
  induction ts with
  | nil => rfl
  | cons t ts ih =>
    have ht := h t List.mem_cons_self
    have hcut : spaced (t :: ts) = ' ' :: (t.text.toList ++ spaced ts) := rfl
    have hhead : ∀ c ∈ (spaced ts).head?, Token.isSeparator c = true := by
      intro c hc
      cases ts with
      | nil => cases hc
      | cons u ts =>
        cases hc
        rfl
    have hrun : ∀ c ∈ t.text.toList, Token.isSeparator c = false := by
      intro c hc
      obtain ⟨hblank, hnewline⟩ := text_unbroken ht c hc
      simp [Token.isSeparator, hblank, hnewline]
    rw [hcut, Token.runs_blank, Token.runs_run_append (text_ne_nil ht) hrun hhead,
      ih fun u hu => h u (List.mem_cons_of_mem t hu), List.map_cons]

theorem scan_of_spaced {text : String} {ts : List Token} (h : ∀ t ∈ ts, Legible t)
    (htext : ' ' :: text.toList = spaced ts) : Token.scan text = ts := by
  have hruns : Token.runs text.toList = Token.runs (spaced ts) := by
    rw [← htext, Token.runs_blank]
  rw [Token.scan, hruns, runs_spaced h, List.map_map]
  exact (List.map_congr_left fun t ht => ofRun_text (h t ht)).trans (List.map_id ts)

theorem newline_notMem_spaced {ts : List Token} (h : ∀ t ∈ ts, Legible t) : '\n' ∉ spaced ts := by
  intro hmem
  obtain ⟨t, ht, hc⟩ := List.mem_flatMap.mp hmem
  rcases List.mem_cons.mp hc with heq | hc
  · cases heq
  · exact (text_unbroken (h t ht) _ hc).2 rfl

/-! ### Lines of commands -/

/-- The items of a stage: its arguments, and then its redirects. -/
def itemsOf (s : Stage) : List Item :=
  s.args.map .argument ++ s.input.toList.map (.redirect .input) ++ s.output.toList.map (.redirect .output)

/-- The line that a command is written as. -/
def lineOf : Command → Line
  | .empty => ⟨[], none⟩
  | .builtin i => ⟨(i.builtin.name :: i.args).map .argument, none⟩
  | .external p => ⟨itemsOf p.first, p.second.map itemsOf⟩

theorem spaced_append (ts us : List Token) : spaced (ts ++ us) = spaced ts ++ spaced us := List.flatMap_append

theorem intercalate_eq_spaced {ws : List String} (h : ws ≠ []) :
    ' ' :: (" ".intercalate ws).toList = spaced (ws.map .word) := by
  rw [String.toList_intercalate]
  induction ws with
  | nil => exact absurd rfl h
  | cons w ws ih =>
    cases ws with
    | nil => simp [spaced, Token.text]
    | cons v ws =>
      have hrest := ih (by simp)
      simp only [spaced, List.map_cons, List.intercalate_cons_cons, List.flatMap_cons, Token.text] at hrest ⊢
      rw [← hrest]
      simp

theorem tokens_arguments (ws : List String) : (ws.map Item.argument).flatMap Item.tokens = ws.map .word := by
  rw [List.flatMap_map, List.map_eq_flatMap]
  rfl

theorem renderRedirect_eq_spaced (kind : Redirect) (target : Option String) :
    (Stage.renderRedirect kind target).toList =
      spaced ((target.toList.map (Item.redirect kind)).flatMap Item.tokens) := by
  cases target with
  | none => rfl
  | some t =>
    have htext : Stage.renderRedirect kind (some t) = " " ++ kind.symbol ++ " " ++ t := rfl
    have hspaced : spaced [.redirect kind, .word t] = ' ' :: kind.symbol.toList ++ ' ' :: t.toList := by
      simp [spaced, Token.text]
    calc (Stage.renderRedirect kind (some t)).toList
        = ' ' :: kind.symbol.toList ++ ' ' :: t.toList := by rw [htext]; simp
      _ = spaced [.redirect kind, .word t] := hspaced.symm

theorem render_stage_eq_spaced {s : Stage} (h : s.args ≠ []) :
    ' ' :: s.render.toList = spaced ((itemsOf s).flatMap Item.tokens) := by
  rw [itemsOf, List.flatMap_append, List.flatMap_append, spaced_append, spaced_append, tokens_arguments,
    ← intercalate_eq_spaced h, ← renderRedirect_eq_spaced, ← renderRedirect_eq_spaced, Stage.render]
  simp

/-- The text of a command is that of the tokens of its line. -/
theorem render_eq_spaced {c : Command} (h : c.Writable) : ' ' :: c.render.toList = spaced (lineOf c).tokens := by
  cases h with
  | @external p hfirst hsecond hprogram =>
    obtain ⟨first, _ | second⟩ := p
    · have htokens : (lineOf (.external ⟨first, none⟩)).tokens = (itemsOf first).flatMap Item.tokens :=
        List.append_nil _
      rw [htokens, ← render_stage_eq_spaced hfirst.args_ne_nil]
      rfl
    · have hsecond' := render_stage_eq_spaced (hsecond second rfl).args_ne_nil
      have htext : (Command.external ⟨first, some second⟩).render = first.render ++ " | " ++ second.render := rfl
      have hpipe : spaced [.pipe] = [' ', '|'] := rfl
      simp only [lineOf, Line.tokens, Option.map_some]
      rw [← List.singleton_append (l := List.flatMap _ _), spaced_append, spaced_append,
        ← render_stage_eq_spaced hfirst.args_ne_nil, ← hsecond', hpipe, htext]
      simp
  | @builtin i hargs =>
    rw [lineOf, Line.tokens, List.append_nil, tokens_arguments, ← intercalate_eq_spaced (by simp)]
    rfl

/-! ### What the line of a command asks for -/

section
variable (listing : Listing)

theorem expansion_argument {w : String} (h : IsArgument w) : expansion listing w = .ok [w] := by
  simp [expansion, isPattern_eq_false_iff.mpr h.plain]

/-- Words that stand for themselves are the arguments. -/
theorem arguments_eq_words {g : List Item} (h : ∀ w ∈ g.filterMap Item.word?, IsArgument w) :
    arguments listing g = g.filterMap Item.word? := by
  have hself : ∀ w ∈ g.filterMap Item.word?, (expansion listing w).toOption.getD [] = [w] := by
    intro w hw
    rw [expansion_argument listing (h w hw)]
    rfl
  rw [arguments, List.flatMap_congr hself, List.flatMap_singleton']

theorem diagnostics_eq_nil {g : List Item} (h : ∀ w ∈ g.filterMap Item.word?, IsArgument w) :
    diagnostics listing g = [] := by
  rw [diagnostics, List.filterMap_eq_nil_iff]
  intro w hw
  rw [expansion_argument listing (h w hw)]
  rfl

theorem words_map_argument (ws : List String) : (ws.map Item.argument).filterMap Item.word? = ws := by
  rw [List.filterMap_map]
  exact List.filterMap_some

theorem words_itemsOf (s : Stage) : (itemsOf s).filterMap Item.word? = s.args := by
  have hredirects (kind : Redirect) (t : Option String) :
      (t.toList.map (Item.redirect kind)).filterMap Item.word? = [] := by
    cases t <;> rfl
  rw [itemsOf, List.filterMap_append, List.filterMap_append, words_map_argument, hredirects, hredirects,
    List.append_nil, List.append_nil]

theorem target_itemsOf (s : Stage) : target .input (itemsOf s) = s.input ∧ target .output (itemsOf s) = s.output := by
  have hargs (kind : Redirect) : target kind (s.args.map .argument) = none := by
    simp [target, Item.target?, Function.comp_def]
  have hredirects (kind kind' : Redirect) (t : Option String) :
      target kind (t.toList.map (.redirect kind')) = if kind' = kind then t else none := by
    cases t with
    | none => simp [target]
    | some t => by_cases h : kind' = kind <;> simp [target, Item.target?, h]
  constructor <;> simp [itemsOf, target_append, hargs, hredirects]

/-- A stage that can be written is what its items stand for. -/
theorem stage_itemsOf {s : Stage} (h : s.Writable) : stage listing (itemsOf s) = s := by
  have hwords : ∀ w ∈ (itemsOf s).filterMap Item.word?, IsArgument w := by
    rw [words_itemsOf]
    exact h.args
  obtain ⟨hinput, houtput⟩ := target_itemsOf s
  rw [stage, arguments_eq_words listing hwords, words_itemsOf, hinput, houtput]

theorem isArgument_name (b : Builtin) : IsArgument b.name := by
  cases b <;> decide

/-- The words of each segment are arguments, at least one and as many as are counted. -/
theorem words_segments {c : Command} (h : c.Writable) :
    ∀ g ∈ (lineOf c).segments, (∀ w ∈ g.filterMap Item.word?, IsArgument w) ∧
      g.filterMap Item.word? ≠ [] ∧ (g.filterMap Item.word?).length ∈ c.argumentCounts := by
  intro g hg
  cases h with
  | @external p hfirst hsecond hprogram =>
    rcases List.mem_cons.mp hg with rfl | hg
    · rw [lineOf, words_itemsOf]
      exact ⟨hfirst.args, hfirst.args_ne_nil, List.mem_cons_self⟩
    · obtain ⟨s, hs, rfl⟩ := Option.map_eq_some_iff.mp (Option.mem_toList.mp hg)
      rw [words_itemsOf]
      refine ⟨(hsecond s hs).args, (hsecond s hs).args_ne_nil, ?_⟩
      exact List.mem_map_of_mem (List.mem_cons_of_mem _ (Option.mem_toList.mpr hs))
  | @builtin i hargs =>
    obtain rfl := List.mem_singleton.mp hg
    rw [lineOf, words_map_argument]
    refine ⟨fun w hw => ?_, by simp, List.mem_cons_self⟩
    rcases List.mem_cons.mp hw with rfl | hw
    · exact isArgument_name i.builtin
    · exact hargs w hw

theorem asks_lineOf {c : Command} (h : c.Writable) : (lineOf c).Asks listing c := by
  have hfirst := arguments_eq_words listing (words_segments h _ List.mem_cons_self).1
  cases h with
  | @external p hfirst' hsecond hprogram =>
    rw [lineOf, words_itemsOf] at hfirst
    have hplan : (lineOf (.external p)).plan listing = p := by
      obtain ⟨first, _ | second⟩ := p
      · simp [Line.plan, lineOf, stage_itemsOf listing hfirst']
      · simp [Line.plan, lineOf, stage_itemsOf listing hfirst', stage_itemsOf listing (hsecond second rfl)]
    have hasks : (lineOf (.external p)).Asks listing (.external ((lineOf (.external p)).plan listing)) :=
      .external fun b hb => hprogram b (by rwa [lineOf, hfirst] at hb)
    rwa [hplan] at hasks
  | @builtin i hargs =>
    rw [lineOf, words_map_argument] at hfirst
    exact .builtin hfirst

theorem diagnostics_lineOf {c : Command} (h : c.Writable) : (lineOf c).diagnostics listing = [] := by
  rw [Line.diagnostics, List.flatMap_eq_nil_iff]
  intro g hg
  exact diagnostics_eq_nil listing (words_segments h g hg).1

theorem fits_lineOf {c : Command} (h : c.Writable) {limits : Limits}
    (hcounts : ∀ n ∈ c.argumentCounts, n ≤ limits.maxArgs) : ∀ g ∈ (lineOf c).segments, Fits listing limits g := by
  intro g hg
  obtain ⟨hargs, hne, hcount⟩ := words_segments h g hg
  rw [fits_iff, arguments_eq_words listing hargs]
  exact ⟨hne, hcounts _ hcount⟩

end

/-! ### Parsing a text -/

theorem legible_redirect_target {kind : Redirect} {target : String} (h : IsTokenWord target) :
    ∀ t ∈ Item.tokens (.redirect kind target), Legible t := by
  intro t ht
  rcases List.mem_cons.mp ht with rfl | ht
  · exact legible_redirect kind
  · rw [List.mem_singleton.mp ht]
    exact legible_word h

theorem legible_itemsOf {s : Stage} (h : s.Writable) : ∀ t ∈ (itemsOf s).flatMap Item.tokens, Legible t := by
  intro t ht
  obtain ⟨i, hi, ht⟩ := List.mem_flatMap.mp ht
  rw [itemsOf, List.mem_append, List.mem_append] at hi
  rcases hi with (hi | hi) | hi
  · obtain ⟨w, hw, rfl⟩ := List.mem_map.mp hi
    rw [List.mem_singleton.mp ht]
    exact legible_word (h.args w hw).word
  · obtain ⟨target, htarget, rfl⟩ := List.mem_map.mp hi
    exact legible_redirect_target (h.input target (Option.mem_toList.mp htarget)) t ht
  · obtain ⟨target, htarget, rfl⟩ := List.mem_map.mp hi
    exact legible_redirect_target (h.output target (Option.mem_toList.mp htarget)) t ht

theorem legible_lineOf {c : Command} (h : c.Writable) : ∀ t ∈ (lineOf c).tokens, Legible t := by
  intro t ht
  cases h with
  | @external p hfirst hsecond hprogram =>
    rcases List.mem_append.mp ht with ht | ht
    · exact legible_itemsOf hfirst t ht
    · obtain ⟨first, _ | second⟩ := p
      · cases ht
      · rcases List.mem_cons.mp ht with rfl | ht
        · exact legible_pipe
        · exact legible_itemsOf (hsecond second rfl) t ht
  | @builtin i hargs =>
    rw [lineOf, Line.tokens, List.append_nil, tokens_arguments] at ht
    obtain ⟨w, hw, rfl⟩ := List.mem_map.mp ht
    rcases List.mem_cons.mp hw with rfl | hw
    · exact legible_word (isArgument_name i.builtin).word
    · exact legible_word (hargs w hw).word

theorem between_render {c : Command} (h : c.Writable) : Token.between c.render = (lineOf c).tokens := by
  rw [← Token.scan_eq_between, scan_of_spaced (legible_lineOf h) (render_eq_spaced h)]

/-- A text of a command is one line, so nothing is taken off its end. -/
theorem isBody_render {c : Command} (h : c.Writable) : IsBody c.render c.render := by
  refine .inr ⟨rfl, fun hlast => newline_notMem_spaced (legible_lineOf h) ?_⟩
  rw [← render_eq_spaced h]
  exact List.mem_cons_of_mem _ (List.mem_of_getLast? hlast)

theorem parse_render_eq_ok {c : Command} (h : c.Writable) (listing : Listing) {limits : Limits}
    (hcounts : ∀ n ∈ c.argumentCounts, n ≤ limits.maxArgs) (hsize : c.render.utf8ByteSize ≤ limits.maxLineLength) :
    parse c.render listing limits = .ok ⟨c, []⟩ := by
  refine parse_eq_ok_iff.mpr ⟨c.render, isBody_render h, hsize, ?_⟩
  rw [between_render h, ← diagnostics_lineOf listing h]
  exact .line (fits_lineOf listing h hcounts) (asks_lineOf listing h)

/-- A text is parsed to the command that it was written for, whatever can be listed, and no other command has
that text. -/
theorem parse_render {c : Command} (h : c.Writable) :
    (∀ (listing : Listing) (limits : Limits), (∀ n ∈ c.argumentCounts, n ≤ limits.maxArgs) →
      c.render.utf8ByteSize ≤ limits.maxLineLength → parse c.render listing limits = .ok ⟨c, []⟩) ∧
    ∀ d : Command, d.Writable → d.render = c.render → d = c := by
  refine ⟨fun listing limits => parse_render_eq_ok h listing, fun d hd htext => ?_⟩
  -- Both commands are parsed from the one text, within limits that are wide enough for both.
  let limits : Limits := ⟨c.render.utf8ByteSize, c.argumentCounts.sum + d.argumentCounts.sum⟩
  have hc : parse c.render (.ok []) limits = .ok ⟨c, []⟩ :=
    parse_render_eq_ok h _ (fun n hn => (List.le_sum_of_mem hn).trans (Nat.le_add_right _ _)) le_rfl
  have hsize : d.render.utf8ByteSize ≤ limits.maxLineLength := Nat.le_of_eq (by rw [htext])
  have hd : parse d.render (.ok []) limits = .ok ⟨d, []⟩ :=
    parse_render_eq_ok hd _ (fun n hn => (List.le_sum_of_mem hn).trans (Nat.le_add_left _ _)) hsize
  rw [htext, hc] at hd
  cases hd
  rfl

/-- A plan whose second program is called like a builtin, and whose targets look like patterns. -/
theorem parse_render_sort :
    let c : Command := .external ⟨⟨["sort", "-r"], some "in*.txt", none⟩, some ⟨["cd"], none, some "out?"⟩⟩
    c.Writable ∧ (∀ n ∈ c.argumentCounts, n ≤ 64) ∧ c.render.utf8ByteSize ≤ 1024 ∧
      parse c.render (.error (.os .eacces)) {} = .ok ⟨c, []⟩ := by
  intro c
  have hsort : Stage.Writable ⟨["sort", "-r"], some "in*.txt", none⟩ := by decide
  have hcd : Stage.Writable ⟨["cd"], none, some "out?"⟩ := by decide
  have hc : c.Writable := .external hsort (by rintro s ⟨⟩; exact hcd) (by rintro (_ | _ | _ | _) <;> decide)
  have hcounts : ∀ n ∈ c.argumentCounts, n ≤ 64 := by decide
  have hsize : c.render.utf8ByteSize ≤ 1024 := by decide
  exact ⟨hc, hcounts, hsize, (parse_render hc).1 (.error (.os .eacces)) {} hcounts hsize⟩

end Grammar
end LineShell
