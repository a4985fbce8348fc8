import LineShell.Proofs.Grammar
import LineShell.Proofs.Lexing
import Mathlib.Data.List.DropRight

/-!
Why a line is refused. An offence is a token that is wrong where it stands, which is told from the tokens in
front of it and the one behind it. The leftmost offence of a line is what it is refused for; a line without an
offence is refused only if one of its stages gives no argument, and one that is too long is not read at all.
-/

namespace LineShell.Grammar

/-! ### Offences -/

/-- The argument words among tokens: all words but the targets of redirects. -/
def argumentWords : List Token → List String
  | [] => []
  | .redirect _ :: .word _ :: ts => argumentWords ts
  | .word w :: ts => w :: argumentWords ts
  | _ :: ts => argumentWords ts

/-- The next token would be the target of a redirect. -/
def TargetDue (before : List Token) : Prop := ∃ kind, before.getLast? = some (.redirect kind)

section
variable (listing : Listing)

/-- The arguments that tokens give: what their argument words expand to, in order. -/
def argumentsIn (ts : List Token) : List String :=
  (argumentWords ts).flatMap fun word => (expansion listing word).toOption.getD []

/-- The arguments of the first stage, which goes up to the first pipe. -/
def firstArguments (ts : List Token) : List String := argumentsIn listing (ts.takeWhile (· ≠ .pipe))

/-- The arguments of the stage that the tokens end in, which starts behind the last pipe. -/
def lastArguments (ts : List Token) : List String := argumentsIn listing (ts.rtakeWhile (· ≠ .pipe))

variable (limits : Limits)

/-- A token is wrong where it stands, between `before` and `after`: the operator of a redirect without a target,
a second pipe, or an argument word by which its stage gets too many arguments. -/
inductive Offence (before : List Token) : Token → List Token → ParseError → Prop
  | missingTarget {kind : Redirect} {after : List Token} (hnext : ∀ word, after.head? ≠ some (.word word)) :
    Offence before (.redirect kind) after (.missingRedirectTarget kind)
  | secondPipe {after : List Token} (hpipe : .pipe ∈ before) (hfree : ¬TargetDue before) :
    Offence before .pipe after .unsupportedPipelineDepth
  | tooMany {word : String} {after : List Token} (hfree : ¬TargetDue before)
    (hle : (lastArguments listing before).length ≤ limits.maxArgs)
    (hlt : limits.maxArgs < (lastArguments listing (before ++ [.word word])).length) :
    Offence before (.word word) after
      (.tooManyArguments (lastArguments listing (before ++ [.word word])).length limits.maxArgs)

/-- The first offence among the tokens `rest` behind `before` is one for which the error is `e`. -/
def Leftmost (before rest : List Token) (e : ParseError) : Prop :=
  ∃ front t back, rest = front ++ t :: back ∧ Offence listing limits (before ++ front) t back e ∧
    ∀ front' t' back' e', rest = front' ++ t' :: back' → Offence listing limits (before ++ front') t' back' e' →
      front.length ≤ front'.length

/-- There is no offence among the tokens `rest` behind `before`. -/
def Clean (before rest : List Token) : Prop :=
  ∀ front t back e, rest = front ++ t :: back → ¬Offence listing limits (before ++ front) t back e

/-- What a line with this body is refused for. -/
inductive Blames (body : String) : ParseError → Prop
  | tooLong (hsize : limits.maxLineLength < body.utf8ByteSize) :
    Blames body (.lineTooLong body.utf8ByteSize limits.maxLineLength)
  | offence {e : ParseError} (hsize : body.utf8ByteSize ≤ limits.maxLineLength)
    (hleft : Leftmost listing limits [] (Token.between body) e) : Blames body e
  | noCommand (hsize : body.utf8ByteSize ≤ limits.maxLineLength)
    (hclean : Clean listing limits [] (Token.between body)) (htokens : Token.between body ≠ [])
    (hfirst : firstArguments listing (Token.between body) = []) : Blames body .missingCommand
  | emptyStage (hsize : body.utf8ByteSize ≤ limits.maxLineLength)
    (hclean : Clean listing limits [] (Token.between body))
    (hfirst : firstArguments listing (Token.between body) ≠ []) (hpipe : .pipe ∈ Token.between body)
    (hlast : lastArguments listing (Token.between body) = []) : Blames body .emptyPipelineStage

end

/-! ### Looking for the first offence -/

section
variable {listing : Listing} {limits : Limits} {before rest back : List Token} {t : Token} {e e' : ParseError}

theorem Leftmost.here (h : Offence listing limits before t back e) : Leftmost listing limits before (t :: back) e :=
  ⟨[], t, back, rfl, by rwa [List.append_nil], fun _ _ _ _ _ _ => Nat.zero_le _⟩

theorem Leftmost.behind (hno : ∀ e, ¬Offence listing limits before t rest e)
    (h : Leftmost listing limits (before ++ [t]) rest e) : Leftmost listing limits before (t :: rest) e := by
  obtain ⟨front, u, back, rfl, hoffence, hmin⟩ := h
  refine ⟨t :: front, u, back, rfl, by rwa [List.append_assoc] at hoffence, ?_⟩
  intro front' u' back' e' heq hoffence'
  cases front' with
  | nil =>
    obtain ⟨rfl, rfl⟩ := List.cons.inj heq
    rw [List.append_nil] at hoffence'
    exact absurd hoffence' (hno e')
  | cons t' front' =>
    obtain ⟨rfl, htail⟩ := List.cons.inj heq
    exact Nat.succ_le_succ (hmin front' u' back' e' htail (by rwa [List.append_assoc]))

theorem Clean.nil : Clean listing limits before [] := by
  intro front t back e heq
  simp at heq

theorem Clean.cons (hno : ∀ e, ¬Offence listing limits before t rest e)
    (h : Clean listing limits (before ++ [t]) rest) : Clean listing limits before (t :: rest) := by
  intro front u back e heq hoffence
  cases front with
  | nil =>
    obtain ⟨rfl, rfl⟩ := List.cons.inj heq
    rw [List.append_nil] at hoffence
    exact hno e hoffence
  | cons t' front =>
    obtain ⟨rfl, htail⟩ := List.cons.inj heq
    exact h front u back e htail (by rwa [List.append_assoc])

/-- A token is wrong in one way at most. -/
theorem Offence.unique (h : Offence listing limits before t back e) (h' : Offence listing limits before t back e') :
    e = e' := by
  cases h <;> cases h' <;> rfl

theorem Leftmost.unique (h : Leftmost listing limits before rest e) (h' : Leftmost listing limits before rest e') :
    e = e' := by
  obtain ⟨front, t, back, heq, hoffence, hmin⟩ := h
  obtain ⟨front', t', back', heq', hoffence', hmin'⟩ := h'
  have hlength := Nat.le_antisymm (hmin _ _ _ _ heq' hoffence') (hmin' _ _ _ _ heq hoffence)
  obtain ⟨rfl, hrest⟩ := List.append_inj (heq.symm.trans heq') hlength
  obtain ⟨rfl, rfl⟩ := List.cons.inj hrest
  exact hoffence.unique hoffence'

theorem Leftmost.not_clean (h : Leftmost listing limits before rest e) : ¬Clean listing limits before rest := by
  obtain ⟨front, t, back, heq, hoffence, -⟩ := h
  exact fun hclean => hclean front t back e heq hoffence

end

/-! ### Arguments of tokens -/

theorem not_targetDue_nil : ¬TargetDue [] := by simp [TargetDue]

theorem not_targetDue_append_pipe (before : List Token) : ¬TargetDue (before ++ [.pipe]) := by simp [TargetDue]

theorem targetDue_of_suffix {front before : List Token} (h : TargetDue front) (hsuffix : front <:+ before) :
    TargetDue before := by
  obtain ⟨more, rfl⟩ := hsuffix
  obtain ⟨kind, hkind⟩ := h
  refine ⟨kind, ?_⟩
  rw [List.getLast?_append, hkind, Option.some_or]

/-- Tokens that do not end in the operator of a redirect keep to themselves. -/
theorem argumentWords_append {before : List Token} (h : ¬TargetDue before) (ts : List Token) :
    argumentWords (before ++ ts) = argumentWords before ++ argumentWords ts := by
  have htail : ∀ {t : Token} {before : List Token}, ¬TargetDue (t :: before) → ¬TargetDue before :=
    fun h hdue => h (targetDue_of_suffix hdue (List.suffix_cons _ _))
  fun_induction argumentWords before with
  | case1 => rfl
  | case2 kind w before ih => exact ih (htail (htail h))
  | case3 w before ih =>
    rw [List.cons_append, argumentWords, ih (htail h), List.cons_append]
  | case4 t before hredirect hword ih =>
    rw [List.cons_append, argumentWords, ih (htail h)]
    · intro kind w rest ht hrest
      cases before with
      | nil => exact h ⟨kind, by rw [ht]; rfl⟩
      | cons u before =>
        obtain ⟨rfl, -⟩ := List.cons.inj hrest
        exact hredirect kind w before ht rfl
    · exact hword

section
variable {listing : Listing} {before : List Token}

theorem argumentsIn_append (h : ¬TargetDue before) (ts : List Token) :
    argumentsIn listing (before ++ ts) = argumentsIn listing before ++ argumentsIn listing ts := by
  rw [argumentsIn, argumentWords_append h, List.flatMap_append, argumentsIn, argumentsIn]

/-- The arguments of an item are those of its tokens. -/
theorem argumentsIn_tokens (i : Item) : argumentsIn listing i.tokens = arguments listing [i] := by
  cases i <;> rfl

/-- An item goes to the stage that the tokens in front of it end in. -/
theorem lastArguments_append_item (h : ¬TargetDue before) (i : Item) :
    lastArguments listing (before ++ i.tokens) = lastArguments listing before ++ arguments listing [i] := by
  have hstage : (before ++ i.tokens).rtakeWhile (· ≠ .pipe) = before.rtakeWhile (· ≠ .pipe) ++ i.tokens := by
    cases i with
    | argument w => exact List.rtakeWhile_concat_pos _ _ _ (by simp)
    | redirect kind t =>
      have htwo : before ++ Item.tokens (.redirect kind t) = before ++ [.redirect kind] ++ [.word t] := by
        simp [Item.tokens]
      rw [htwo, List.rtakeWhile_concat_pos _ _ _ (by simp), List.rtakeWhile_concat_pos _ _ _ (by simp)]
      simp [Item.tokens]
  have hfree : ¬TargetDue (before.rtakeWhile (· ≠ .pipe)) := fun hdue =>
    h (targetDue_of_suffix hdue (List.rtakeWhile_suffix _ _))
  rw [lastArguments, hstage, argumentsIn_append hfree, argumentsIn_tokens, lastArguments]

theorem lastArguments_append_pipe (before : List Token) : lastArguments listing (before ++ [.pipe]) = [] := by
  rw [lastArguments, List.rtakeWhile_concat_neg _ _ _ (by simp)]
  rfl

/-- Behind a pipe nothing is added to the first stage. -/
theorem firstArguments_append (h : .pipe ∈ before) (ts : List Token) :
    firstArguments listing (before ++ ts) = firstArguments listing before := by
  have htake : (before ++ ts).takeWhile (· ≠ .pipe) = before.takeWhile (· ≠ .pipe) := by
    rw [List.takeWhile_append, if_neg]
    intro hlength
    have hself := (List.takeWhile_prefix _).eq_of_length hlength
    have hpipe := List.takeWhile_eq_self_iff.mp hself _ h
    simp at hpipe
  rw [firstArguments, htake, firstArguments]

/-- Without a pipe there is only one stage. -/
theorem firstArguments_eq_last (h : .pipe ∉ before) : firstArguments listing before = lastArguments listing before := by
  have hall : ∀ t ∈ before, decide (t ≠ Token.pipe) = true := by
    intro t ht
    rw [decide_eq_true_iff]
    rintro rfl
    exact h ht
  rw [firstArguments, lastArguments, List.takeWhile_eq_self_iff.mpr hall, List.rtakeWhile_eq_self_iff.mpr hall]

end

/-! ### Reading up to the first offence -/

section
variable (listing : Listing) (limits : Limits)

/-- A draft holds the stages of the tokens read so far, among which there is no offence. -/
structure ReadTo (before : List Token) (d : Parse.Draft) : Prop where
  free : ¬TargetDue before
  first : d.first.args = firstArguments listing before
  last : d.current.args = lastArguments listing before
  second : d.second.isSome ↔ .pipe ∈ before
  le : d.current.args.length ≤ limits.maxArgs

end

section
variable {listing : Listing} {limits : Limits} {before : List Token} {d : Parse.Draft}

theorem readTo_nil : ReadTo listing limits [] {} :=
  ⟨not_targetDue_nil, rfl, rfl, by simp, Nat.zero_le _⟩

theorem ReadTo.pipe (h : ReadTo listing limits before d) :
    ReadTo listing limits (before ++ [.pipe]) { d with second := some {} } := by
  refine ⟨not_targetDue_append_pipe before, ?_, (lastArguments_append_pipe before).symm, by simp, Nat.zero_le _⟩
  rw [h.first, firstArguments, firstArguments, List.takeWhile_append]
  split
  · rename_i hlength
    rw [(List.takeWhile_prefix _).eq_of_length hlength, List.takeWhile_cons_of_neg (by simp), List.append_nil]
  · rfl

theorem ReadTo.item (h : ReadTo listing limits before d) (i : Item)
    (hle : (d.current.args ++ arguments listing [i]).length ≤ limits.maxArgs) :
    ReadTo listing limits (before ++ i.tokens) (extend listing d [i]) := by
  have hlast : (extend listing d [i]).current.args = lastArguments listing (before ++ i.tokens) := by
    rw [current_extend, lastArguments_append_item h.free, h.last]
  have hpipe : .pipe ∈ before ++ i.tokens ↔ .pipe ∈ before := by cases i <;> simp [Item.tokens]
  refine ⟨?_, ?_, hlast, ?_, by rwa [current_extend]⟩
  · cases i <;> simp [Item.tokens, TargetDue]
  · by_cases hmem : .pipe ∈ before
    · obtain ⟨second, hsecond⟩ := Option.isSome_iff_exists.mp (h.second.mpr hmem)
      rw [firstArguments_append hmem, ← h.first]
      simp [extend, Parse.Draft.setCurrent, hsecond]
    · rw [firstArguments_eq_last (by rwa [hpipe]), ← hlast]
      have hsecond : d.second = none := by simpa using mt h.second.mp hmem
      simp [extend, Parse.Draft.setCurrent, Parse.Draft.current, hsecond]
  · rw [isSome_second_extend, h.second, hpipe]

/-- What has been made of the tokens `rest` behind `before`: a draft of all of them, if there is no offence, and
else the error of the first one. -/
def Explains (listing : Listing) (limits : Limits) (before rest : List Token) : Except ParseError Parse.Draft → Prop
  | .error e => Leftmost listing limits before rest e
  | .ok d => Clean listing limits before rest ∧ ReadTo listing limits (before ++ rest) d

theorem Explains.behind {t : Token} {rest : List Token} {r : Except ParseError Parse.Draft}
    (hno : ∀ e, ¬Offence listing limits before t rest e) (h : Explains listing limits (before ++ [t]) rest r) :
    Explains listing limits before (t :: rest) r := by
  cases r with
  | error e => exact Leftmost.behind hno h
  | ok d =>
    obtain ⟨hclean, hread⟩ := h
    rw [List.append_assoc] at hread
    exact ⟨.cons hno hclean, hread⟩

/-- Behind tokens without an offence, reading goes on to the first offence or to the end. -/
theorem explains_read (h : ReadTo listing limits before d) (rest : List Token) :
    Explains listing limits before rest (Parse.read limits listing d rest) := by
  fun_induction Parse.read limits listing d rest generalizing before with
  | case1 d => exact ⟨.nil, by rwa [List.append_nil]⟩
  | case2 d ts ih =>
    cases hsecond : d.second with
    | some second =>
      have hpipe : .pipe ∈ before := h.second.mp (by simp [hsecond])
      simp only [Parse.Draft.addPipe, hsecond, bind, Except.bind]
      exact Leftmost.here (.secondPipe hpipe h.free)
    | none =>
      have hno : ∀ e, ¬Offence listing limits before .pipe ts e := by
        rintro e (_ | ⟨hpipe, -⟩)
        simpa [hsecond] using h.second.mpr hpipe
      simp only [Parse.Draft.addPipe, hsecond, bind, Except.bind]
      exact (ih _ h.pipe).behind hno
  | case3 d kind target ts ih =>
    have hoperator : ∀ e, ¬Offence listing limits before (.redirect kind) (.word target :: ts) e := by
      rintro e (hnext | _)
      exact hnext target rfl
    have htarget : ∀ e, ¬Offence listing limits (before ++ [.redirect kind]) (.word target) ts e := by
      rintro e (_ | _ | ⟨hfree, -, -⟩)
      exact hfree ⟨kind, by simp⟩
    have hitem := h.item (.redirect kind target) (by simpa using h.le)
    rw [redirect_eq listing] at ih ⊢
    have hrest := ih hitem
    refine Explains.behind hoperator (Explains.behind htarget ?_)
    rwa [List.append_assoc]
  | case4 d kind ts hnext =>
    refine Leftmost.here (.missingTarget fun word hhead => ?_)
    obtain ⟨ts', rfl⟩ := List.head?_eq_some_iff.mp hhead
    exact hnext word ts' rfl
  | case5 d w ts ih =>
    have hlast : lastArguments listing (before ++ [.word w]) = _ := lastArguments_append_item h.free (.argument w)
    rw [← h.last] at hlast
    rw [addWord_eq, current_extend, ← hlast]
    split
    · rename_i hlt
      exact Leftmost.here (.tooMany h.free (h.last ▸ h.le) hlt)
    · rename_i hle
      have hno : ∀ e, ¬Offence listing limits before (.word w) ts e := by
        rintro e (_ | _ | ⟨-, -, hlt⟩)
        exact hle hlt
      exact (ih _ (h.item (.argument w) (by rw [← hlast]; omega))).behind hno

/-- A draft is refused for a stage that gives no argument. -/
theorem ReadTo.finish_eq (h : ReadTo listing limits before d) :
    d.finish =
      if firstArguments listing before = [] then .error .missingCommand
      else if .pipe ∈ before ∧ lastArguments listing before = [] then .error .emptyPipelineStage
      else .ok ⟨Command.ofStages d.first d.second, d.diagnostics⟩ := by
  have hsecond : d.second.any (·.args.isEmpty) = true ↔ .pipe ∈ before ∧ lastArguments listing before = [] := by
    rw [← h.second, ← h.last]
    cases hs : d.second <;> simp [Parse.Draft.current, hs]
  simp only [Parse.Draft.finish, List.isEmpty_iff, h.first, hsecond]

end

/-! ### Refused lines -/

section
variable {listing : Listing} {limits : Limits} {body line : String} {e e' : ParseError}

theorem Blames.unique (h : Blames listing limits body e) (h' : Blames listing limits body e') : e = e' := by
  cases h with
  | tooLong hlong =>
    cases h' with
    | tooLong => rfl
    | offence hsize => omega
    | noCommand hsize => omega
    | emptyStage hsize => omega
  | offence hsize hleft =>
    cases h' with
    | tooLong hlong => omega
    | offence _ hleft' => exact hleft.unique hleft'
    | noCommand _ hclean => exact absurd hclean hleft.not_clean
    | emptyStage _ hclean => exact absurd hclean hleft.not_clean
  | noCommand hsize hclean htokens hfirst =>
    cases h' with
    | tooLong hlong => omega
    | offence _ hleft => exact absurd hclean hleft.not_clean
    | noCommand => rfl
    | emptyStage _ _ hfirst' => exact absurd hfirst hfirst'
  | emptyStage hsize hclean hfirst =>
    cases h' with
    | tooLong hlong => omega
    | offence _ hleft => exact absurd hclean hleft.not_clean
    | noCommand _ _ _ hfirst' => exact absurd hfirst' hfirst
    | emptyStage => rfl

/-- A line that is not too long is refused by its tokens. -/
theorem blames_tokens (hsize : body.utf8ByteSize ≤ limits.maxLineLength) (htokens : Token.between body ≠ []) :
    (∀ e, (Parse.read limits listing {} (Token.between body) >>= Parse.Draft.finish) = .error e →
        Blames listing limits body e) ∧
      ∀ parsed, (Parse.read limits listing {} (Token.between body) >>= Parse.Draft.finish) = .ok parsed →
        ∀ e, ¬Blames listing limits body e := by
  have hnil : ReadTo listing limits [] {} := readTo_nil
  have hread := explains_read hnil (Token.between body)
  cases hr : Parse.read limits listing {} (Token.between body) with
  | error e' =>
    rw [hr] at hread
    simp only [bind, Except.bind]
    refine ⟨fun e he => ?_, nofun⟩
    cases he
    exact .offence hsize hread
  | ok d =>
    rw [hr] at hread
    obtain ⟨hclean, hdraft⟩ := hread
    simp only [bind, Except.bind, hdraft.finish_eq, List.nil_append]
    split_ifs with hfirst hlast
    · refine ⟨fun e he => ?_, nofun⟩
      cases he
      exact .noCommand hsize hclean htokens hfirst
    · refine ⟨fun e he => ?_, nofun⟩
      cases he
      exact .emptyStage hsize hclean hfirst hlast.1 hlast.2
    · refine ⟨nofun, fun parsed _ e hblames => ?_⟩
      cases hblames with
      | tooLong hlong => omega
      | offence _ hleft => exact hleft.not_clean hclean
      | noCommand _ _ _ hfirst' => exact hfirst hfirst'
      | emptyStage _ _ _ hpipe hlast' => exact hlast ⟨hpipe, hlast'⟩

/-- A line is refused for what it is to blame for, and accepted only if there is nothing. -/
theorem blames_parse (line : String) (listing : Listing) (limits : Limits) :
    (∀ e, parse line listing limits = .error e → Blames listing limits (Parse.body line) e) ∧
      ∀ parsed, parse line listing limits = .ok parsed → ∀ e, ¬Blames listing limits (Parse.body line) e := by
  simp only [parse, Token.scan_eq_between]
  split
  · rename_i hlong
    refine ⟨fun e he => ?_, fun parsed hok => ?_⟩
    · cases he
      exact .tooLong hlong
    · cases hok
  · rename_i hshort
    have hsize : (Parse.body line).utf8ByteSize ≤ limits.maxLineLength := by omega
    split
    · rename_i hnil
      refine ⟨fun e he => ?_, fun parsed _ e hblames => ?_⟩
      · cases he
      · cases hblames with
        | tooLong hlong => omega
        | offence _ hleft =>
          rw [hnil] at hleft
          exact hleft.not_clean .nil
        | noCommand _ _ htokens => exact htokens hnil
        | emptyStage _ _ _ hpipe => simp [hnil] at hpipe
    · rename_i htokens
      exact blames_tokens hsize htokens

/-- Which error a refused line gets: that of its length if it is too long, else that of its leftmost offence, and
without an offence that of the stage that gives no argument, the first one before the second. No text is
refused for its tokens, which can be read in one way only. -/
theorem parse_eq_error_iff (line : String) (listing : Listing) (limits : Limits) :
    (∀ e, parse line listing limits = .error e ↔ ∃ body, IsBody line body ∧ Blames listing limits body e) ∧
      ∀ (text : String) (out : List (Except Token.LexicalError Token)),
        Token.Lexes text.toList out ↔ out = (Token.between text).map .ok := by
  obtain ⟨herror, hok⟩ := blames_parse line listing limits
  refine ⟨fun e => ⟨fun h => ⟨_, isBody_body line, herror e h⟩, ?_⟩, fun _ _ => Token.lexes_iff⟩
  rintro ⟨body, hbody, hblames⟩
  rw [hbody.eq] at hblames
  cases hparse : parse line listing limits with
  | error e' => rw [(herror e' hparse).unique hblames]
  | ok parsed => exact absurd hblames (hok parsed hparse e)

end

end LineShell.Grammar
