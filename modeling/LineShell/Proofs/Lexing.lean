import LineShell.Proofs.Runs
import Mathlib.Data.List.TakeWhile
import Mathlib.Tactic.SplitIfs

/-!
The rules of tokens. A text is read from its front: each time the longest piece is cut off that some rule
allows, and where an operator and a word would be equally long it is the operator. Blanks are passed over. Every
character is a blank or belongs to a word, so a rule can always be applied: no text is refused, and what is cut
off are the maximal runs.
-/

namespace LineShell.Token

/-- The rules by which pieces are cut off. -/
inductive Rule where
  | blanks
  | pipe
  | redirect (kind : Redirect)
  | word
  deriving DecidableEq, Repr

/-- Why a text cannot be read on. -/
inductive LexicalError where
  | unknownToken
  deriving DecidableEq, Repr

namespace Rule

/-- The pieces that a rule allows. -/
def Allows : Rule → List Char → Prop
  | .blanks, piece => piece ≠ [] ∧ ∀ c ∈ piece, c = ' ' ∨ c = '\n'
  | .pipe, piece => piece = ['|']
  | .redirect kind, piece => piece = kind.symbol.toList
  | .word, piece => piece ≠ [] ∧ ∀ c ∈ piece, c ≠ ' ' ∧ c ≠ '\n'

/-- The token that a piece becomes by a rule; blanks become none. -/
def token? : Rule → List Char → Option Token
  | .blanks, _ => none
  | .pipe, _ => some .pipe
  | .redirect kind, _ => some (.redirect kind)
  | .word, piece => some (.word (String.ofList piece))

/-- The rule cuts `piece` off the front of `piece ++ rest`: no rule allows a longer piece there, and a word is cut
off only where no other rule allows the same. -/
structure Cuts (r : Rule) (piece rest : List Char) : Prop where
  allows : r.Allows piece
  longest : ∀ (r' : Rule) (piece' : List Char), piece' <+: piece ++ rest → r'.Allows piece' →
    piece'.length ≤ piece.length
  exact : r = .word → ∀ r' : Rule, r'.Allows piece → r' = .word

end Rule

/-- What reading a text by the rules gives. Where no rule can be applied there is an error, and reading goes on
behind the next character. -/
inductive Lexes : List Char → List (Except LexicalError Token) → Prop
  | done : Lexes [] []
  | cut {r : Rule} {piece rest : List Char} {out : List (Except LexicalError Token)} (h : r.Cuts piece rest)
    (hrest : Lexes rest out) : Lexes (piece ++ rest) ((r.token? piece).toList.map .ok ++ out)
  | stuck {c : Char} {rest : List Char} {out : List (Except LexicalError Token)}
    (h : ∀ (r : Rule) (piece : List Char), piece <+: c :: rest → ¬r.Allows piece) (hrest : Lexes rest out) :
    Lexes (c :: rest) (.error .unknownToken :: out)

/-! ### Pieces -/

theorem isSeparator_iff {c : Char} : isSeparator c = true ↔ c = ' ' ∨ c = '\n' := by
  simp [isSeparator]

theorem isSeparator_eq_false_iff {c : Char} : isSeparator c = false ↔ c ≠ ' ' ∧ c ≠ '\n' := by
  simp [isSeparator]

theorem allows_blanks_iff {piece : List Char} :
    Rule.blanks.Allows piece ↔ piece ≠ [] ∧ ∀ c ∈ piece, isSeparator c = true := by
  simp only [Rule.Allows, isSeparator_iff]

theorem allows_word_iff {piece : List Char} :
    Rule.word.Allows piece ↔ piece ≠ [] ∧ ∀ c ∈ piece, isSeparator c = false := by
  simp only [Rule.Allows, isSeparator_eq_false_iff]

/-- Every rule but that of blanks allows only pieces that the rule of words allows. -/
theorem allows_word_of_allows {r : Rule} {piece : List Char} (hr : r ≠ .blanks) (h : r.Allows piece) :
    Rule.word.Allows piece := by
  cases r with
  | blanks => exact absurd rfl hr
  | pipe =>
    obtain rfl : piece = ['|'] := h
    simp [Rule.Allows]
  | redirect kind =>
    obtain rfl : piece = kind.symbol.toList := h
    cases kind <;> simp [Rule.Allows, Redirect.symbol]
  | word => exact h

/-- The rule by which a piece that is no blank becomes a token. -/
def ruleOf (piece : List Char) : Rule :=
  match ofRun piece with
  | .pipe => .pipe
  | .redirect kind => .redirect kind
  | .word _ => .word

theorem allows_ruleOf {piece : List Char} (h : Rule.word.Allows piece) : (ruleOf piece).Allows piece := by
  unfold ruleOf ofRun
  split_ifs <;> simp_all [Rule.Allows, Redirect.symbol]

theorem ruleOf_of_allows {r : Rule} {piece : List Char} (hr : r ≠ .blanks) (h : r.Allows piece)
    (hexact : r = .word → ∀ r' : Rule, r'.Allows piece → r' = .word) : r = ruleOf piece := by
  cases r with
  | blanks => exact absurd rfl hr
  | pipe =>
    obtain rfl : piece = ['|'] := h
    rfl
  | redirect kind =>
    obtain rfl : piece = kind.symbol.toList := h
    cases kind <;> rfl
  | word => exact (hexact rfl _ (allows_ruleOf h)).symm

theorem token?_ruleOf (piece : List Char) : (ruleOf piece).token? piece = some (ofRun piece) := by
  unfold ruleOf ofRun
  split_ifs <;> rfl

/-- A piece is all blanks or has none, and its first character tells which. -/
theorem isSeparator_of_allows {r : Rule} {c : Char} {piece : List Char} (h : r.Allows (c :: piece)) :
    ∀ d ∈ c :: piece, isSeparator d = isSeparator c := by
  by_cases hr : r = .blanks
  · subst hr
    have hall := (allows_blanks_iff.mp h).2
    exact fun d hd => (hall d hd).trans (hall c List.mem_cons_self).symm
  · have hall := (allows_word_iff.mp (allows_word_of_allows hr h)).2
    exact fun d hd => (hall d hd).trans (hall c List.mem_cons_self).symm

/-! ### Reading by the rules -/

/-- A piece that is no blank is cut off up to the next separator. -/
theorem Rule.Cuts.head?_rest {r : Rule} {piece rest : List Char} (h : r.Cuts piece rest) (hr : r ≠ .blanks) :
    ∀ c ∈ rest.head?, isSeparator c = true := by
  intro c hc
  obtain ⟨rest, rfl⟩ := List.head?_eq_some_iff.mp hc
  obtain ⟨-, hall⟩ := allows_word_iff.mp (allows_word_of_allows hr h.allows)
  cases hsep : isSeparator c with
  | true => rfl
  | false =>
    have hword : Rule.word.Allows (piece ++ [c]) := by
      refine allows_word_iff.mpr ⟨by simp, fun d hd => ?_⟩
      rcases List.mem_append.mp hd with hd | hd
      · exact hall d hd
      · rwa [List.mem_singleton.mp hd]
    have hle := h.longest .word (piece ++ [c]) ⟨rest, by simp⟩ hword
    rw [List.length_append, List.length_singleton] at hle
    omega

/-- Whatever reading by the rules gives, it gives the runs, and so no error. -/
theorem Lexes.eq_runs {cs : List Char} {out : List (Except LexicalError Token)} (h : Lexes cs out) :
    out = (runs cs).map fun run => .ok (ofRun run) := by
  induction h with
  | done => rfl
  | @cut r piece rest out h hrest ih =>
    by_cases hr : r = .blanks
    · subst hr
      rw [runs_separators_append (allows_blanks_iff.mp h.allows).2, ← ih]
      rfl
    · obtain ⟨hne, hall⟩ := allows_word_iff.mp (allows_word_of_allows hr h.allows)
      rw [runs_run_append hne hall (h.head?_rest hr), List.map_cons, ← ih, ruleOf_of_allows hr h.allows h.exact,
        token?_ruleOf]
      rfl
  | @stuck c rest out h hrest ih =>
    exfalso
    cases hc : isSeparator c with
    | true => exact h .blanks [c] ⟨rest, rfl⟩ (allows_blanks_iff.mpr ⟨by simp, by simpa using hc⟩)
    | false => exact h .word [c] ⟨rest, rfl⟩ (allows_word_iff.mpr ⟨by simp, by simpa using hc⟩)

/-- The longest piece in front whose characters are all separators, or all none, leaves nothing longer to cut
off. -/
theorem longest_of_head? {c : Char} {piece rest : List Char} (hne : piece ≠ [])
    (hkind : ∀ d ∈ piece, isSeparator d = isSeparator c) (hrest : ∀ d ∈ rest.head?, isSeparator d ≠ isSeparator c)
    {r : Rule} {piece' : List Char} (hfront : piece' <+: piece ++ rest) (h : r.Allows piece') :
    piece'.length ≤ piece.length := by
  rcases List.prefix_or_prefix_of_prefix hfront (List.prefix_append piece rest) with hle | ⟨more, rfl⟩
  · exact hle.length_le
  · cases more with
    | nil => simp
    | cons d more =>
      obtain ⟨rest', hrest'⟩ := hfront
      rw [List.append_assoc, List.append_cancel_left_eq] at hrest'
      obtain ⟨e, piece, rfl⟩ := List.exists_cons_of_ne_nil hne
      have hd : isSeparator d = isSeparator e := isSeparator_of_allows h d (by simp)
      exact absurd (hd.trans (hkind e List.mem_cons_self)) (hrest d (by simp [← hrest']))

theorem exists_cuts (c : Char) (cs : List Char) :
    ∃ (r : Rule) (piece rest : List Char), c :: cs = piece ++ rest ∧ piece ≠ [] ∧ r.Cuts piece rest := by
  have hsplit : c :: cs = (c :: cs).takeWhile (isSeparator · == isSeparator c) ++
      (c :: cs).dropWhile (isSeparator · == isSeparator c) := List.takeWhile_append_dropWhile.symm
  have hne : (c :: cs).takeWhile (isSeparator · == isSeparator c) ≠ [] := by simp
  have hkind : ∀ d ∈ (c :: cs).takeWhile (isSeparator · == isSeparator c), isSeparator d = isSeparator c := by
    intro d hd
    have hbeq := List.mem_takeWhile_imp hd
    exact beq_iff_eq.mp hbeq
  have hrest : ∀ d ∈ ((c :: cs).dropWhile (isSeparator · == isSeparator c)).head?, isSeparator d ≠ isSeparator c := by
    intro d hd
    have hnot := List.head?_dropWhile_not (isSeparator · == isSeparator c) (c :: cs)
    rw [Option.mem_def.mp hd] at hnot
    simpa using hnot
  generalize (c :: cs).takeWhile (isSeparator · == isSeparator c) = piece at hsplit hne hkind
  generalize (c :: cs).dropWhile (isSeparator · == isSeparator c) = rest at hsplit hrest
  have hlongest : ∀ (r : Rule) (piece' : List Char), piece' <+: piece ++ rest → r.Allows piece' →
      piece'.length ≤ piece.length := fun r piece' => longest_of_head? hne hkind hrest
  cases hc : isSeparator c with
  | true =>
    have hblanks : Rule.blanks.Allows piece := allows_blanks_iff.mpr ⟨hne, hc ▸ hkind⟩
    exact ⟨.blanks, piece, rest, hsplit, hne, hblanks, hlongest, nofun⟩
  | false =>
    have hword : Rule.word.Allows piece := allows_word_iff.mpr ⟨hne, hc ▸ hkind⟩
    refine ⟨ruleOf piece, piece, rest, hsplit, hne, allows_ruleOf hword, hlongest, fun hr r' hallows => ?_⟩
    by_contra hr'
    have hblanks : r' ≠ .blanks := by
      rintro rfl
      obtain ⟨d, hd⟩ := List.exists_mem_of_ne_nil piece hne
      have htrue := (allows_blanks_iff.mp hallows).2 d hd
      rw [(allows_word_iff.mp hword).2 d hd] at htrue
      cases htrue
    exact hr' ((ruleOf_of_allows hblanks hallows fun h => absurd h hr').trans hr)

theorem exists_lexes (cs : List Char) : ∃ out, Lexes cs out := by
  induction hn : cs.length using Nat.strongRecOn generalizing cs with
  | ind n ih =>
    cases cs with
    | nil => exact ⟨[], .done⟩
    | cons c cs =>
      obtain ⟨r, piece, rest, hsplit, hne, hcuts⟩ := exists_cuts c cs
      have hlength : rest.length < n := by
        rw [← hn, hsplit, List.length_append]
        have := List.length_pos_iff.mpr hne
        omega
      obtain ⟨out, hout⟩ := ih rest.length hlength rest rfl
      rw [hsplit]
      exact ⟨_, .cut hcuts hout⟩

/-- Reading a text by the rules gives its tokens, in one way only and without an error. -/
theorem lexes_iff {text : String} {out : List (Except LexicalError Token)} :
    Lexes text.toList out ↔ out = (between text).map .ok := by
  have heq : ∀ out, Lexes text.toList out → out = (between text).map .ok := by
    intro out h
    rw [h.eq_runs, ← scan_eq_between, scan, List.map_map]
    rfl
  constructor
  · exact heq out
  · rintro rfl
    obtain ⟨out, h⟩ := exists_lexes text.toList
    rwa [heq out h] at h

end LineShell.Token
