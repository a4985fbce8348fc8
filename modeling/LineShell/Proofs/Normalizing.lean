import LineShell.Proofs.Offences
import LineShell.Proofs.Rendering
import Mathlib.Algebra.GroupWithZero.Nat

/-!
The text of a command is its shortest line. Each token of a line takes its own bytes and at least one more for the
separator behind it, the last one aside, and the text of what the line asks for is written with some of its tokens,
in another order and with one separator each. So, as long as no argument is a pattern, the text is no longer than
the line, keeps to the limits that the line keeps to, and asks for the same.
-/

namespace LineShell.Grammar

/-! ### Sizes -/

/-- The bytes that characters are written as. -/
def size (cs : List Char) : Nat := (cs.map Char.utf8Size).sum

/-- The bytes that tokens take if each has one separator. -/
def weight (ts : List Token) : Nat := (ts.map fun t => size t.text.toList + 1).sum

@[simp] theorem size_cons (c : Char) (cs : List Char) : size (c :: cs) = c.utf8Size + size cs := List.sum_cons

@[simp] theorem size_append (cs ds : List Char) : size (cs ++ ds) = size cs + size ds := by
  simp [size]

theorem utf8ByteSize_eq_size (s : String) : s.utf8ByteSize = size s.toList := by
  obtain ⟨cs, rfl⟩ : ∃ cs, s = String.ofList cs := ⟨s.toList, String.ofList_toList.symm⟩
  induction cs with
  | nil => rfl
  | cons c cs ih =>
    rw [String.toList_ofList] at ih ⊢
    rw [String.ofList_cons, String.utf8ByteSize_append, String.utf8ByteSize_singleton, ih, size_cons]

@[simp] theorem weight_nil : weight [] = 0 := rfl

@[simp] theorem weight_cons (t : Token) (ts : List Token) : weight (t :: ts) = size t.text.toList + 1 + weight ts :=
  List.sum_cons

@[simp] theorem weight_append (ts us : List Token) : weight (ts ++ us) = weight ts + weight us := by
  simp [weight]

theorem size_spaced (ts : List Token) : size (spaced ts) = weight ts := by
  induction ts with
  | nil => rfl
  | cons t ts ih =>
    have hcut : spaced (t :: ts) = ' ' :: (t.text.toList ++ spaced ts) := rfl
    have hblank : ' '.utf8Size = 1 := rfl
    rw [hcut, size_cons, size_append, ih, weight_cons, hblank]
    omega

/-- The tokens of a text, each with a separator, take no more than the text and one separator more. -/
theorem weight_runs_le (cs : List Char) : weight ((Token.runs cs).map Token.ofRun) ≤ size cs + 1 := by
  -- Behind a run the text ends or goes on with a separator, which is the one that the run is counted with.
  suffices h : weight ((Token.runs cs).map Token.ofRun) ≤ size cs + 1 ∧
      ((∀ c ∈ cs.head?, Token.isSeparator c = true) → weight ((Token.runs cs).map Token.ofRun) ≤ size cs) from h.1
  induction cs using Token.runs_induction with
  | nil => exact ⟨Nat.zero_le _, fun _ => Nat.zero_le _⟩
  | blank c cs hc ih =>
    have hpos := c.utf8Size_pos
    rw [Token.runs_separator hc, size_cons]
    exact ⟨by omega, fun _ => by omega⟩
  | run run rest hne hrun hhead ih =>
    have hrest := ih.2 hhead
    rw [Token.runs_run_append hne hrun hhead, List.map_cons, weight_cons, Token.text_ofRun, size_append]
    refine ⟨by omega, fun hseparator => ?_⟩
    obtain ⟨c, run, rfl⟩ := List.exists_cons_of_ne_nil hne
    cases (hseparator c rfl).symm.trans (hrun c List.mem_cons_self)

theorem weight_between_le (text : String) : weight (Token.between text) ≤ text.utf8ByteSize + 1 := by
  rw [← Token.scan_eq_between, utf8ByteSize_eq_size]
  exact weight_runs_le text.toList

/-- The text of a command takes what its tokens take, and no separator in front of the first one. -/
theorem utf8ByteSize_render {c : Command} (h : c.Writable) : c.render.utf8ByteSize + 1 = weight (lineOf c).tokens := by
  have hblank : ' '.utf8Size = 1 := rfl
  rw [← size_spaced, ← render_eq_spaced h, size_cons, utf8ByteSize_eq_size, hblank, Nat.add_comm]

/-! ### What is left of a segment -/

/-- The tokens of all redirects of one kind. -/
def redirectTokens (kind : Redirect) (targets : List String) : List Token :=
  targets.flatMap fun t => Item.tokens (.redirect kind t)

/-- A segment takes what its words and its redirects of both kinds take. -/
theorem weight_segment (g : List Item) :
    weight (g.flatMap Item.tokens) = weight ((g.filterMap Item.word?).map .word) +
      weight (redirectTokens .input (g.filterMap (Item.target? .input))) +
      weight (redirectTokens .output (g.filterMap (Item.target? .output))) := by
  induction g with
  | nil => rfl
  | cons i g ih =>
    rw [List.flatMap_cons, weight_append, ih]
    obtain w | ⟨_ | _, t⟩ := i <;>
      simp [List.filterMap_cons, Item.word?, Item.target?, Item.tokens, redirectTokens] <;> omega

/-- The last redirect of a kind takes no more than all of them. -/
theorem weight_target_le (kind : Redirect) (g : List Item) :
    weight (redirectTokens kind (target kind g).toList) ≤ weight (redirectTokens kind (g.filterMap (Item.target? kind))) := by
  rw [target]
  generalize g.filterMap (Item.target? kind) = targets
  obtain rfl | ⟨targets, t, rfl⟩ := List.eq_nil_or_concat targets
  · exact le_rfl
  · simp [redirectTokens]

section
variable {listing : Listing} {g : List Item} {l : Line} {c : Command}

variable (listing) in
/-- A stage without patterns is written with its words, its last input and its last output. -/
theorem weight_itemsOf_le (hplain : ∀ w ∈ g.filterMap Item.word?, IsArgument w) :
    weight ((itemsOf (stage listing g)).flatMap Item.tokens) ≤ weight (g.flatMap Item.tokens) := by
  have hkept : (itemsOf (stage listing g)).flatMap Item.tokens =
      (g.filterMap Item.word?).map .word ++ redirectTokens .input (target .input g).toList ++
        redirectTokens .output (target .output g).toList := by
    rw [itemsOf, List.flatMap_append, List.flatMap_append, tokens_arguments, List.flatMap_map, List.flatMap_map]
    simp only [stage, arguments_eq_words listing hplain, redirectTokens]
  have hinput := weight_target_le .input g
  have houtput := weight_target_le .output g
  rw [hkept, weight_append, weight_append, weight_segment g]
  omega

/-- What a line without patterns asks for is written with tokens of the line. -/
theorem weight_lineOf_le (hplain : ∀ g ∈ l.segments, ∀ w ∈ g.filterMap Item.word?, IsArgument w)
    (hasks : l.Asks listing c) : weight (lineOf c).tokens ≤ weight l.tokens := by
  have hfirst := weight_itemsOf_le listing (hplain l.first List.mem_cons_self)
  cases hasks with
  | @builtin b args hargs =>
    -- Only the words of the first segment are written.
    rw [arguments_eq_words listing (hplain l.first List.mem_cons_self)] at hargs
    rw [lineOf, Line.tokens, List.append_nil, tokens_arguments, Line.tokens, weight_append, ← hargs, weight_segment]
    omega
  | external hprogram =>
    obtain ⟨first, _ | second⟩ := l
    · simpa [lineOf, Line.plan, Line.tokens] using hfirst
    · have hsecond := weight_itemsOf_le listing (hplain second (by simp [Line.segments]))
      simp only [lineOf, Line.plan, Line.tokens, Option.map_some, weight_append, weight_cons] at hfirst ⊢
      omega

/-! ### Lines without patterns -/

/-- What stands between blanks is read again from what it is written as. -/
theorem legible_between {text : String} : ∀ t ∈ Token.between text, Legible t := by
  rw [← Token.scan_eq_between]
  rintro t ht w rfl
  obtain ⟨run, hrun, hword⟩ := List.mem_map.mp ht
  have htext : run = w.toList := by rw [← Token.text_ofRun run, hword, Token.text]
  obtain ⟨hne, hunbroken⟩ := Token.shape_of_mem_runs hrun
  rw [htext] at hne hunbroken hword
  have hoperator : w ≠ "|" ∧ w ≠ "<" ∧ w ≠ ">" := by
    refine ⟨?_, ?_, ?_⟩ <;>
    · rintro rfl
      cases hword
  refine ⟨by simpa using hne, fun c hc => ?_, hoperator⟩
  have hseparator := hunbroken c hc
  simpa [Token.isSeparator] using hseparator

theorem argumentWords_segment (g : List Item) (ts : List Token) :
    argumentWords (g.flatMap Item.tokens ++ ts) = g.filterMap Item.word? ++ argumentWords ts := by
  induction g with
  | nil => rfl
  | cons i g ih =>
    cases i with
    | argument w => exact congrArg (w :: ·) ih
    | redirect kind t => exact ih

theorem argumentWords_tokens (l : Line) :
    argumentWords l.tokens = l.segments.flatMap fun g => g.filterMap Item.word? := by
  obtain ⟨first, _ | second⟩ := l
  · rw [Line.tokens, argumentWords_segment]
    rfl
  · have hsecond := argumentWords_segment second []
    rw [List.append_nil] at hsecond
    simp only [Line.tokens, Line.segments, argumentWords_segment, argumentWords, hsecond]
    rfl

theorem tokens_of_mem_segment (hg : g ∈ l.segments) {i : Item} (hi : i ∈ g) : ∀ t ∈ i.tokens, t ∈ l.tokens := by
  intro t ht
  have hmem : t ∈ g.flatMap Item.tokens := List.mem_flatMap.mpr ⟨i, hi, ht⟩
  rcases List.mem_cons.mp hg with rfl | hg
  · exact List.mem_append_left _ hmem
  · rw [Line.tokens, Option.mem_toList.mp hg]
    exact List.mem_append_right _ (List.mem_cons_of_mem _ hmem)

theorem isArgument_word (hlegible : ∀ t ∈ l.tokens, Legible t)
    (hplain : ∀ w ∈ argumentWords l.tokens, ∀ c ∈ w.toList, c ≠ '*' ∧ c ≠ '?') :
    ∀ g ∈ l.segments, ∀ w ∈ g.filterMap Item.word?, IsArgument w := by
  intro g hg w hw
  refine ⟨?_, hplain w (argumentWords_tokens l ▸ List.mem_flatMap.mpr ⟨g, hg, hw⟩)⟩
  obtain ⟨i, hi, hword⟩ := List.mem_filterMap.mp hw
  cases i with
  | argument v =>
    cases hword
    exact hlegible _ (tokens_of_mem_segment hg hi _ List.mem_cons_self) w rfl
  | redirect kind t => cases hword

theorem isTokenWord_target (hlegible : ∀ t ∈ l.tokens, Legible t) (hg : g ∈ l.segments) (kind : Redirect) :
    ∀ t ∈ target kind g, IsTokenWord t := by
  intro t ht
  obtain ⟨i, hi, htarget⟩ := List.mem_filterMap.mp (List.mem_of_getLast? ht)
  cases i with
  | argument w => cases htarget
  | redirect k target =>
    rw [Item.target?] at htarget
    split at htarget
    · cases htarget
      exact hlegible _ (tokens_of_mem_segment hg hi (.word t) (by simp [Item.tokens])) t rfl
    · cases htarget

/-- What a line without patterns asks for can be written, and with as many arguments as its segments give. -/
theorem writable_of_asks {limits : Limits} (hfit : ∀ g ∈ l.segments, Fits listing limits g)
    (hlegible : ∀ t ∈ l.tokens, Legible t) (hplain : ∀ g ∈ l.segments, ∀ w ∈ g.filterMap Item.word?, IsArgument w)
    (hasks : l.Asks listing c) : c.Writable ∧ ∀ n ∈ c.argumentCounts, n ≤ limits.maxArgs := by
  have hstage : ∀ g ∈ l.segments, (stage listing g).Writable := fun g hg => {
    args_ne_nil := (fits_iff.mp (hfit g hg)).1
    args := by
      rw [stage, arguments_eq_words listing (hplain g hg)]
      exact hplain g hg
    input := isTokenWord_target hlegible hg .input
    output := isTokenWord_target hlegible hg .output }
  have hsegment : ∀ g ∈ l.second, g ∈ l.segments := fun g hg => List.mem_cons_of_mem _ (Option.mem_toList.mpr hg)
  cases hasks with
  | builtin hargs =>
    have hwords := hplain l.first List.mem_cons_self
    rw [← arguments_eq_words listing hwords] at hwords
    rw [hargs] at hwords
    refine ⟨.builtin (List.forall_mem_cons.mp hwords).2, List.forall_mem_singleton.mpr ?_⟩
    rw [← hargs]
    exact (hfit l.first List.mem_cons_self).le
  | external hprogram =>
    refine ⟨.external (hstage l.first List.mem_cons_self) ?_ hprogram, ?_⟩
    · rintro s hs
      obtain ⟨g, hg, rfl⟩ := Option.map_eq_some_iff.mp hs
      exact hstage g (hsegment g hg)
    · intro n hn
      obtain ⟨s, hs, rfl⟩ := List.mem_map.mp hn
      rcases List.mem_cons.mp hs with rfl | hs
      · exact (hfit l.first List.mem_cons_self).le
      · obtain ⟨g, hg, rfl⟩ := Option.map_eq_some_iff.mp (Option.mem_toList.mp hs)
        exact (hfit g (hsegment g hg)).le

end

/-- The text of what an accepted line asks for, if none of its argument words is a pattern, is no longer than the line
without its newline. Within the same limits it is accepted whatever can be listed, and asks for the same. -/
theorem parse_normal {line body : String} {listing : Listing} {limits : Limits} {parsed : ParsedLine}
    (hbody : IsBody line body) (hparse : parse line listing limits = .ok parsed) (hcommand : parsed.command ≠ .empty)
    (hplain : ∀ w ∈ argumentWords (Token.between body), ∀ c ∈ w.toList, c ≠ '*' ∧ c ≠ '?') :
    parsed.command.render.utf8ByteSize ≤ body.utf8ByteSize ∧
      ∀ listing', parse parsed.command.render listing' limits = .ok ⟨parsed.command, []⟩ := by
  obtain ⟨body', hbody', hsize, hmeans⟩ := parse_eq_ok_iff.mp hparse
  obtain rfl : body' = body := hbody'.eq.trans hbody.eq.symm
  have hlegible : ∀ t ∈ Token.between body', Legible t := legible_between
  have hweight := weight_between_le body'
  generalize Token.between body' = ts at hmeans hplain hlegible hweight
  cases hmeans with
  | blank => exact absurd rfl hcommand
  | @line l c hfit hasks =>
    have hwords := isArgument_word hlegible hplain
    obtain ⟨hwritable, hcounts⟩ := writable_of_asks hfit hlegible hwords hasks
    have hshort : c.render.utf8ByteSize ≤ body'.utf8ByteSize := by
      have htext := utf8ByteSize_render hwritable
      have hkept := weight_lineOf_le hwords hasks
      omega
    exact ⟨hshort, fun listing' => parse_render_eq_ok hwritable listing' hcounts (hshort.trans hsize)⟩

/-- A line that is as long as is allowed, with a redirect that is in vain and words that hold operators. -/
theorem parse_normal_redirected :
    let line := " >a > b  sort < in*  -é|  >  c? | cd\n"
    let body := " >a > b  sort < in*  -é|  >  c? | cd"
    let limits : Limits := ⟨37, 3⟩
    let c : Command := .external ⟨⟨[">a", "sort", "-é|"], some "in*", some "c?"⟩, some ⟨["cd"], none, none⟩⟩
    IsBody line body ∧ parse line (.ok []) limits = .ok ⟨c, []⟩ ∧ c ≠ .empty ∧
      (∀ w ∈ argumentWords (Token.between body), ∀ c ∈ w.toList, c ≠ '*' ∧ c ≠ '?') ∧
      c.render = ">a sort -é| < in* > c? | cd" ∧ c.render.utf8ByteSize ≤ body.utf8ByteSize ∧
      parse c.render (.error (.os .eacces)) limits = .ok ⟨c, []⟩ := by
  intro line body limits c
  have hbody : IsBody line body := .inl (by decide)
  have hparse : parse line (.ok []) limits = .ok ⟨c, []⟩ := by decide +kernel
  have hcommand : c ≠ .empty := nofun
  have hwords : argumentWords (Token.between body) = [">a", "sort", "-é|", "cd"] := by
    rw [← Token.scan_eq_between]
    decide +kernel
  have hletters : ∀ w ∈ argumentWords (Token.between body),
      (w.toList.all fun c => c != '*' && c != '?') = true := by
    rw [hwords]
    decide +kernel
  have hplain : ∀ w ∈ argumentWords (Token.between body), ∀ c ∈ w.toList, c ≠ '*' ∧ c ≠ '?' := by
    simpa using hletters
  obtain ⟨hsize, htext⟩ := parse_normal hbody hparse hcommand hplain
  exact ⟨hbody, hparse, hcommand, hplain, by decide +kernel, hsize, htext (.error (.os .eacces))⟩

end LineShell.Grammar
