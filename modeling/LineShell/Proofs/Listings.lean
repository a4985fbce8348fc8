import LineShell.Machine.System
import LineShell.Proofs.Newline
import LineShell.Proofs.Reading
import LineShell.Proofs.Wildcards

/-!
What the names in a directory can do to a line that is read there. Only names that are texts and do not begin with
a dot are ever looked at, and their order makes no difference. The stages of a line and their redirects are spelt
by the line alone; all that names can do is to be arguments, each as it stands, where the line has a pattern.
-/

namespace LineShell

/-! ### Names that begin with a dot -/

namespace Utf8

/-- A character that is more than one byte long is not ASCII. -/
theorem Pending.Wide.head?_piecesFrom_ne {p : Pending} (hp : p.Wide) (bs : Bytes) :
    (piecesFrom (some p) bs).head? ≠ some (some '.') := by
  induction bs generalizing p with
  | nil => simp [piecesFrom]
  | cons b bs ih =>
    have hnext : ∀ q ∈ (feed (some p) b).2, q.Wide := feed_wide fun q hq => Option.some.inj hq ▸ hp
    by_cases hrange : p.low ≤ b ∧ b ≤ p.high
    · have hlow : p.low.toNat ≤ b.toNat := UInt8.le_iff_toNat_le.mp hrange.1
      cases hafter : p.after with
      | zero =>
        have hlast := hp.last hafter
        simp only [piecesFrom, feed, hrange, hafter, and_self, ↓reduceIte, List.cons_append, List.nil_append,
          List.head?_cons, ne_eq, Option.some.injEq]
        intro hdot
        have hbits := eq_toNat_of_ofNat (by decide) hdot
        rw [show '.'.toNat = 46 from rfl] at hbits
        omega
      | succ n =>
        simp only [feed, hrange, hafter, and_self, ↓reduceIte] at hnext
        simp only [piecesFrom, feed, hrange, hafter, and_self, ↓reduceIte, List.nil_append]
        exact ih (hnext _ rfl)
    · simp [piecesFrom, feed, hrange]

/-- The byte of a dot is read as a dot, and nothing else is. -/
theorem head?_pieces_eq_dot (bs : Bytes) : (pieces bs).head? = some (some '.') ↔ bs.head? = some 0x2E := by
  cases bs with
  | nil => simp [pieces, piecesFrom]
  | cons b bs =>
    rw [List.head?_cons, Option.some.injEq]
    constructor
    · intro hdot
      simp only [pieces, piecesFrom, feed] at hdot
      by_cases hascii : b < 0x80
      · simp only [start, hascii, ↓reduceIte, List.cons_append, List.nil_append, List.head?_cons,
          Option.some.injEq] at hdot
        exact UInt8.toNat_inj.mp (eq_toNat_of_ofNat (by decide) hdot)
      · -- Any other byte is no character by itself: it is invalid, or a longer character is left unfinished.
        have hwide := start_wide (b := b)
        have hfirst : (start b).1 = [none] ∨ (start b).1 = [] ∧ ∃ p, (start b).2 = some p := by
          unfold start
          rw [if_neg hascii]
          split_ifs <;> simp
        rcases hfirst with hnone | ⟨hnil, p, hp⟩
        · simp [hnone] at hdot
        · rw [hnil, hp, List.nil_append] at hdot
          exact absurd hdot ((hwide p hp).head?_piecesFrom_ne bs)
    · rintro rfl
      rfl

/-- A text begins with the character that is read first. -/
theorem head?_pieces_of_decode? {bs : Bytes} {text : String} (h : decode? bs = some text) :
    (pieces bs).head? = text.toList.head?.map some := by
  obtain ⟨cs, hcs, rfl⟩ := Option.map_eq_some_iff.mp h
  rw [String.toList_ofList]
  cases hpieces : pieces bs with
  | nil =>
    rw [hpieces, List.mapM_nil] at hcs
    cases hcs
    rfl
  | cons piece rest =>
    rw [hpieces, List.mapM_cons] at hcs
    obtain ⟨c, rfl, hrest⟩ := Option.bind_eq_some_iff.mp hcs
    obtain ⟨ds, -, hds⟩ := Option.bind_eq_some_iff.mp hrest
    cases hds
    rfl

end Utf8

namespace Wildcard

/-- The name is a text and does not begin with a dot. -/
def isPlain (name : Name) : Bool := (Utf8.decode? name).isSome && name.head? != some 0x2E

theorem isPlain_eq {name : Name} {text : String} (h : Utf8.decode? name = some text) :
    isPlain name = (text.toList.head? != some '.') := by
  have hdot : name.head? = some 0x2E ↔ text.toList.head? = some '.' := by
    rw [← Utf8.head?_pieces_eq_dot, Utf8.head?_pieces_of_decode? h]
    simp
  simp [isPlain, h, hdot, bne]

/-- The names that can match are the plain ones. -/
theorem visible_eq (names : List Name) : visible names = (names.filter isPlain).filterMap Utf8.decode? := by
  induction names with
  | nil => rfl
  | cons name names ih =>
    rw [visible] at ih ⊢
    cases htext : Utf8.decode? name with
    | none => simp [isPlain, htext, ih]
    | some text =>
      rw [List.filterMap_cons_some htext, List.filter_cons, ← isPlain_eq htext, ih, List.filter_cons]
      split
      · rw [List.filterMap_cons_some htext]
      · rfl

theorem sorted_eq_of_perm {names names' : List String} (h : names.Perm names') : sorted names = sorted names' := by
  have hperm : (sorted names).Perm (sorted names') :=
    (List.mergeSort_perm _ _).trans (h.trans (List.mergeSort_perm _ _).symm)
  exact hperm.eq_of_pairwise (fun a b _ _ => String.le_antisymm) (pairwise_sorted names) (pairwise_sorted names')

/-- What a pattern gives depends on the plain names alone, and not on their order. -/
theorem expand_eq_of_perm {names names' : List Name} (h : (names.filter isPlain).Perm (names'.filter isPlain))
    (pattern : String) : expand pattern (.ok names) = expand pattern (.ok names') := by
  unfold expand
  cases Pattern.compile pattern with
  | error source => rfl
  | ok items =>
    have hvisible : (visible names).Perm (visible names') := by
      rw [visible_eq, visible_eq]
      exact h.filterMap _
    simp only [sorted_eq_of_perm (hvisible.filter _)]

end Wildcard

/-! ### What is spelt by a line alone -/

namespace Grammar

/-- What a pattern gives, once: its matches among the names of a listing, each of which is one argument as it
stands. -/
structure Block (listing : Listing) (word : String) (block : List String) : Prop where
  pattern : Wildcard.isPattern word = true
  eq : block = (Parse.argumentsOf listing word).1
  names : ∀ a ∈ block, ∃ names, listing = .ok names ∧ ∃ name ∈ names, Utf8.decode? name = some a

/-- The arguments that words give: a word that is no pattern gives itself, and a pattern gives a block, against a
listing of its own. -/
inductive Woven (lists : Listing → Prop) : List String → List String → Prop
  | nil : Woven lists [] []
  | plain {word : String} {words args : List String} (hword : Wildcard.isPattern word = false)
    (hrest : Woven lists words args) : Woven lists (word :: words) (word :: args)
  | pattern {word : String} {words block args : List String} {listing : Listing} (hlisting : lists listing)
    (hblock : Block listing word block) (hrest : Woven lists words args) : Woven lists (word :: words) (block ++ args)

/-- A stage is spelt by a segment: it has its redirects, and the arguments that its words give. -/
structure Spelt (lists : Listing → Prop) (g : List Item) (s : Stage) : Prop where
  args : Woven lists (g.filterMap Item.word?) s.args
  input : s.input = target .input g
  output : s.output = target .output g

/-- The stages are spelt by the segments of a line, one by one. -/
structure Line.Spells (lists : Listing → Prop) (l : Line) (first : Stage) (second : Option Stage) : Prop where
  first : Spelt lists l.first first
  second : Option.Rel (Spelt lists) l.second second

/-- The redirects of a plan, stage by stage. -/
def redirects (p : Plan) : List (Option String × Option String) :=
  (p.first :: p.second.toList).map fun s => (s.input, s.output)

/-- The line with one item more. -/
def Line.add (l : Line) (i : Item) : Line :=
  match l.second with
  | none => ⟨l.first ++ [i], none⟩
  | some g => ⟨l.first, some (g ++ [i])⟩

section
variable {lists : Listing → Prop} {words more args args' : List String} {listing : Listing}

theorem Woven.append (h : Woven lists words args) (h' : Woven lists more args') :
    Woven lists (words ++ more) (args ++ args') := by
  induction h with
  | nil => exact h'
  | plain hword hrest ih => exact .plain hword ih
  | pattern hlisting hblock hrest ih =>
    rw [List.append_assoc]
    exact .pattern hlisting hblock ih

theorem block_argumentsOf {word : String} (hword : Wildcard.isPattern word = true) :
    Block listing word (Parse.argumentsOf listing word).1 := by
  refine ⟨hword, rfl, fun a ha => ?_⟩
  rw [Parse.argumentsOf, if_pos hword, Wildcard.expand] at ha
  cases hitems : Pattern.compile word with
  | error source => simp [hitems] at ha
  | ok items =>
    cases listing with
    | error source => simp [hitems] at ha
    | ok names =>
      refine ⟨names, rfl, ?_⟩
      simp only [hitems, Wildcard.sorted, List.mem_mergeSort, List.mem_filter, Wildcard.visible,
        List.mem_filterMap] at ha
      exact ha.1.1

theorem woven_argumentsOf (hlisting : lists listing) (word : String) :
    Woven lists [word] (Parse.argumentsOf listing word).1 := by
  by_cases hword : Wildcard.isPattern word = true
  · have hwoven : Woven lists [word] ((Parse.argumentsOf listing word).1 ++ []) :=
      .pattern hlisting (block_argumentsOf hword) .nil
    rwa [List.append_nil] at hwoven
  · rw [Parse.argumentsOf, if_neg hword]
    exact .plain (by simpa using hword) .nil

variable {g : List Item} {s : Stage} {l : Line} {d e : Parse.Draft}

theorem Spelt.word (h : Spelt lists g s) (w : String) (hargs : Woven lists [w] args) :
    Spelt lists (g ++ [.argument w]) { s with args := s.args ++ args } where
  args := by
    rw [List.filterMap_append]
    exact h.args.append hargs
  input := by simpa [target_append, target, Item.target?] using h.input
  output := by simpa [target_append, target, Item.target?] using h.output

theorem Spelt.redirect (h : Spelt lists g s) (kind : Redirect) (t : String) :
    Spelt lists (g ++ [.redirect kind t]) (s.redirect kind t) := by
  have hwords : (g ++ [Item.redirect kind t]).filterMap Item.word? = g.filterMap Item.word? := by
    simp [List.filterMap_append, Item.word?]
  cases kind with
  | input =>
    refine ⟨hwords ▸ h.args, ?_, ?_⟩
    · simp [target, Item.target?, Stage.redirect]
    · simpa [target_append, target, Item.target?, Stage.redirect] using h.output
  | output =>
    refine ⟨hwords ▸ h.args, ?_, ?_⟩
    · simpa [target_append, target, Item.target?, Stage.redirect] using h.input
    · simp [target, Item.target?, Stage.redirect]

/-- A further item goes to the stage that is being read. -/
theorem Line.Spells.add {i : Item} {f : Stage → Stage} (h : l.Spells lists d.first d.second)
    (hstage : ∀ {g s}, Spelt lists g s → Spelt lists (g ++ [i]) (f s)) :
    (l.add i).Spells lists (d.setCurrent (f d.current)).first (d.setCurrent (f d.current)).second := by
  obtain ⟨g, g'⟩ := l
  obtain ⟨first, second, diagnostics⟩ := d
  obtain ⟨hfirst, hsecond⟩ := h
  cases hsecond with
  | none => exact ⟨hstage hfirst, .none⟩
  | some hsecond => exact ⟨hfirst, .some (hstage hsecond)⟩

theorem Line.Spells.isPipeline_eq {p : Plan} (h : l.Spells lists p.first p.second) :
    p.isPipeline = l.second.isSome := by
  obtain ⟨first, second⟩ := p
  obtain ⟨g, g'⟩ := l
  obtain ⟨-, hsecond⟩ := h
  cases hsecond <;> rfl

/-- The redirects of a plan are those of the line that spells it. -/
theorem Line.Spells.redirects_eq {p : Plan} (h : l.Spells lists p.first p.second) :
    redirects p = l.segments.map fun g => (target .input g, target .output g) := by
  obtain ⟨first, second⟩ := p
  obtain ⟨g, g'⟩ := l
  obtain ⟨hfirst, hsecond⟩ := h
  rw [redirects, Line.segments, List.map_cons, List.map_cons, hfirst.input, hfirst.output]
  cases hsecond with
  | none => rfl
  | some hs => simp [hs.input, hs.output]

theorem Line.tokens_add (l : Line) (i : Item) : (l.add i).tokens = l.tokens ++ i.tokens := by
  obtain ⟨g, _ | g'⟩ := l <;> simp [Line.add, Line.tokens]

/-- What one token adds to a line is what reading it adds to the stages. -/
theorem Line.Spells.token {limits : Limits} {token : Token} (h : l.Spells lists d.first d.second)
    (hword : ∀ w, token = .word w → Woven lists [w] (Parse.argumentsOf listing w).1)
    (hread : Parse.read limits listing d [token] = .ok e) :
    ∃ l' : Line, l'.tokens = l.tokens ++ [token] ∧ l'.Spells lists e.first e.second := by
  cases token with
  | redirect kind => cases hread
  | word w =>
    simp only [Parse.read, Parse.Draft.addWord] at hread
    split at hread
    · cases hread
    · cases hread
      exact ⟨l.add (.argument w), l.tokens_add _, h.add fun hs => hs.word w (hword w rfl)⟩
  | pipe =>
    obtain ⟨g, g'⟩ := l
    obtain ⟨first, second, diagnostics⟩ := d
    obtain ⟨hfirst, hsecond⟩ := h
    cases hsecond with
    | some hsecond => cases hread
    | none =>
      cases hread
      exact ⟨⟨g, some []⟩, by simp [Line.tokens], hfirst, .some ⟨.nil, rfl, rfl⟩⟩

end

/-! ### Sources of names -/

section
variable {σ : Type} {system : System σ} {directory : Path} {limits : Limits} {t : σ}

/-- A listing that a directory may be answered with. -/
def Lists (system : System σ) (directory : Path) (listing : Listing) : Prop :=
  ∃ t, (system.answer (.listDirectory directory) t).1 = listing

theorem woven_listingFor (w : String) :
    Woven (Lists system directory) [w]
      (Parse.argumentsOf ((Parse.listingFor directory (.word w)).run system t).1 w).1 := by
  rw [Parse.listingFor]
  split
  · rw [Action.run_request]
    exact woven_argumentsOf ⟨t, rfl⟩ w
  · rename_i hplain
    rw [Action.run_pure, argumentsOf_congr hplain _ (system.answer (.listDirectory directory) t).1]
    exact woven_argumentsOf ⟨t, rfl⟩ w

theorem exists_spells_readIn {l : Line} {d e : Parse.Draft} {ts : List Token}
    (h : l.Spells (Lists system directory) d.first d.second)
    (hrun : ((Parse.readIn directory limits d ts).run system t).1 = .ok e) :
    ∃ l' : Line, l'.tokens = l.tokens ++ ts ∧ l'.Spells (Lists system directory) e.first e.second := by
  fun_induction Parse.readIn directory limits d ts generalizing l t with
  | case1 d =>
    cases hrun
    exact ⟨l, (List.append_nil _).symm, h⟩
  | case2 d kind w ts ih =>
    obtain ⟨l', htokens, hspells⟩ := ih (h.add fun hs => hs.redirect kind w) hrun
    refine ⟨l', ?_, hspells⟩
    rw [htokens, Line.tokens_add, List.append_assoc]
    rfl
  | case3 d token ts hnot ih =>
    -- The listing of this token is an answer of its own; all that is used of it is what its word is woven into.
    rw [Action.run_bind] at hrun
    have hword : ∀ w, token = .word w → Woven (Lists system directory) [w]
        (Parse.argumentsOf ((Parse.listingFor directory token).run system t).1 w).1 := by
      rintro w rfl
      exact woven_listingFor w
    generalize (Parse.listingFor directory token).run system t = r at hrun hword
    cases hread : Parse.read limits r.1 d [token] with
    | error e => simp [hread] at hrun
    | ok d' =>
      obtain ⟨l₁, htokens, hspells⟩ := h.token hword hread
      rw [hread] at hrun
      obtain ⟨l₂, htokens', hspells'⟩ := ih d' hspells hrun
      exact ⟨l₂, by rw [htokens', htokens, List.append_assoc, List.singleton_append], hspells'⟩

/-- A line that is read as a plan spells its stages, whatever names there are. -/
theorem exists_spells_parseIn {line : String} {p : Plan} {diagnostics : List ExpansionError}
    (h : ((parseIn line directory limits).run system t).1 = .ok ⟨.external p, diagnostics⟩) :
    ∃ l : Line, Token.scan (Parse.body line) = l.tokens ∧ l.Spells (Lists system directory) p.first p.second := by
  have hnothing : Line.Spells (Lists system directory) ⟨[], none⟩ {} none := ⟨⟨.nil, rfl, rfl⟩, .none⟩
  rw [run_parseIn] at h
  split at h
  · cases h
  · split at h
    · cases h
    · cases hdraft : ((Parse.draftIn line directory limits).run system t).1 with
      | error e =>
        rw [hdraft] at h
        cases h
      | ok d =>
        obtain ⟨l, htokens, hspells⟩ := exists_spells_readIn (d := {}) hnothing hdraft
        rw [hdraft] at h
        rw [eq_of_ofStages_eq_external (finish_eq_ok h).symm]
        exact ⟨l, htokens.symm, hspells⟩

end

/-! ### Lines that are written in the same way -/

theorem segment_tokens_inj {g g' : List Item} {ts ts' : List Token}
    (hts : ∀ t ∈ ts.head?, t = .pipe) (hts' : ∀ t ∈ ts'.head?, t = .pipe)
    (h : g.flatMap Item.tokens ++ ts = g'.flatMap Item.tokens ++ ts') : g = g' ∧ ts = ts' := by
  induction g generalizing g' with
  | nil =>
    cases g' with
    | nil => exact ⟨rfl, h⟩
    | cons i g' =>
      obtain rfl : ts = (i :: g').flatMap Item.tokens ++ ts' := h
      cases i <;> simp [Item.tokens] at hts
  | cons i g ih =>
    cases g' with
    | nil =>
      obtain rfl : (i :: g).flatMap Item.tokens ++ ts = ts' := h
      cases i <;> simp [Item.tokens] at hts'
    | cons i' g' =>
      have hitem : i = i' ∧ g.flatMap Item.tokens ++ ts = g'.flatMap Item.tokens ++ ts' := by
        cases i with
        | argument w =>
          cases i' with
          | argument w' => simpa [Item.tokens] using h
          | redirect kind' t' => simp [Item.tokens] at h
        | redirect kind t =>
          cases i' with
          | argument w' => simp [Item.tokens] at h
          | redirect kind' t' => simpa [Item.tokens, and_assoc] using h
      obtain ⟨rfl, hrest⟩ := hitem
      obtain ⟨rfl, hsame⟩ := ih hrest
      exact ⟨rfl, hsame⟩

/-- Tokens are those of one line at most. -/
theorem Line.tokens_inj {l l' : Line} (h : l.tokens = l'.tokens) : l = l' := by
  have hnil : ∀ t ∈ ([] : List Token).head?, t = .pipe := nofun
  have hpipe : ∀ g : List Item, ∀ t ∈ (Token.pipe :: g.flatMap Item.tokens).head?, t = .pipe :=
    fun g t ht => (Option.some.inj ht).symm
  obtain ⟨g, second⟩ := l
  obtain ⟨g', second'⟩ := l'
  cases second with
  | none =>
    cases second' with
    | none =>
      obtain ⟨rfl, -⟩ := segment_tokens_inj hnil hnil h
      rfl
    | some k' =>
      obtain ⟨-, hsecond⟩ := segment_tokens_inj hnil (hpipe k') h
      cases hsecond
  | some k =>
    cases second' with
    | none =>
      obtain ⟨-, hsecond⟩ := segment_tokens_inj (hpipe k) hnil h
      cases hsecond
    | some k' =>
      obtain ⟨rfl, hsecond⟩ := segment_tokens_inj (hpipe k) (hpipe k') h
      have hsegment : k.flatMap Item.tokens ++ [] = k'.flatMap Item.tokens ++ [] := by
        rw [List.append_nil, List.append_nil]
        exact (List.cons.inj hsecond).2
      obtain ⟨rfl, -⟩ := segment_tokens_inj hnil hnil hsegment
      rfl

/-! ### Two sources -/

/-- However often a directory is listed, that succeeds, and the plain names are the same, in any order and whatever
else is listed. -/
def Shows {σ : Type} (system : System σ) (directory : Path) (plain : List Name) : Prop :=
  ∀ t, ∃ names, (system.answer (.listDirectory directory) t).1 = .ok names ∧
    (names.filter Wildcard.isPlain).Perm plain

theorem Shows.argumentsOf_eq {σ : Type} {system : System σ} {directory : Path} {plain : List Name}
    (h : Shows system directory plain) (t : σ) (word : String) :
    Parse.argumentsOf (system.answer (.listDirectory directory) t).1 word = Parse.argumentsOf (.ok plain) word := by
  obtain ⟨names, hanswer, hperm⟩ := h t
  have hplain : (names.filter Wildcard.isPlain).Perm (plain.filter Wildcard.isPlain) := by
    simpa using hperm.filter Wildcard.isPlain
  rw [hanswer, Parse.argumentsOf, Parse.argumentsOf, Wildcard.expand_eq_of_perm hplain]

/-- What a directory can do to a line. Two sources that show the same plain names make no difference, and to a line
without a pattern among its argument words no source makes any. Whatever the sources are, two plans that are read of
the line have the stages and the redirects that the line spells, and arguments that differ only in what the patterns
give. -/
theorem parseIn_listings {σ τ : Type} (system : System σ) (system' : System τ) (line : String) (limits : Limits)
    (directory directory' : Path) (t : σ) (t' : τ) :
    let read := ((parseIn line directory limits).run system t).1
    let read' := ((parseIn line directory' limits).run system' t').1
    (∀ plain, Shows system directory plain → Shows system' directory' plain → read = read') ∧
      (∀ body, IsBody line body → (∀ word ∈ argumentWords (Token.between body), ∀ c ∈ word.toList, c ≠ '*' ∧ c ≠ '?') →
        read = read') ∧
      ∀ p p' diagnostics diagnostics', read = .ok ⟨.external p, diagnostics⟩ →
        read' = .ok ⟨.external p', diagnostics'⟩ →
        p.isPipeline = p'.isPipeline ∧ redirects p = redirects p' ∧
          ∃ (body : String) (l : Line), IsBody line body ∧ Token.between body = l.tokens ∧
            l.Spells (Lists system directory) p.first p.second ∧
            l.Spells (Lists system' directory') p'.first p'.second := by
  intro read read'
  refine ⟨fun plain hshows hshows' => ?_, fun body hbody hwords => ?_, fun p p' ds ds' hread hread' => ?_⟩
  · have hplain : read = parse line (.ok plain) limits := run_parseIn_of_words fun w _ u => hshows.argumentsOf_eq u w
    have hplain' : read' = parse line (.ok plain) limits := run_parseIn_of_words fun w _ u => hshows'.argumentsOf_eq u w
    rw [hplain, hplain']
  · rw [hbody.eq, ← Token.scan_eq_between] at hwords
    have hsame : ∀ word ∈ argumentWords (Token.scan (Parse.body line)), ∀ listing,
        Parse.argumentsOf listing word = Parse.argumentsOf (.ok []) word := by
      intro word hword listing
      have hplain := isPattern_eq_false_iff.mpr (hwords word hword)
      exact argumentsOf_congr (by simp [hplain]) listing _
    have hplain : read = parse line (.ok []) limits := run_parseIn_of_words fun w hw u => hsame w hw _
    have hplain' : read' = parse line (.ok []) limits := run_parseIn_of_words fun w hw u => hsame w hw _
    rw [hplain, hplain']
  · obtain ⟨l, htokens, hspells⟩ := exists_spells_parseIn hread
    obtain ⟨l', htokens', hspells'⟩ := exists_spells_parseIn hread'
    -- The two plans are never compared with each other: both are spelt by the one line that has these tokens.
    obtain rfl := Line.tokens_inj (htokens.symm.trans htokens')
    refine ⟨?_, ?_, Parse.body line, l, isBody_body line, ?_, hspells, hspells'⟩
    · rw [hspells.isPipeline_eq, hspells'.isPipeline_eq]
    · rw [hspells.redirects_eq, hspells'.redirects_eq]
    · rw [← Token.scan_eq_between, htokens]

/-- A name that is an operator and one that holds a redirect, both matched by the star that is an argument, and by the
one that is a target not even looked for. -/
theorem parseIn_listings_operator :
    let source (names : List Name) : System Unit :=
      ⟨fun r t => (match r with
        | .listDirectory _ => .ok names
        | r => (Machine.system.answer r { tree := {} }).1, t)⟩
    let read (names : List Name) := ((parseIn "sort * > *" ⟨[Path.slash]⟩ {}).run (source names) ()).1
    let p : Plan := ⟨{ args := ["sort", "|"], output := some "*" }, none⟩
    let p' : Plan := ⟨{ args := ["sort", "> a\n"], output := some "*" }, none⟩
    let plain : List Name := [Utf8.encode "|"]
    read [Utf8.encode "|"] = .ok ⟨.external p, []⟩ ∧ read [Utf8.encode "> a\n"] = .ok ⟨.external p', []⟩ ∧
      redirects p = redirects p' ∧ Shows (source plain) ⟨[Path.slash]⟩ plain ∧
      Shows (source [[0xFF], Utf8.encode "|", Utf8.encode ".b"]) ⟨[Path.slash]⟩ plain ∧
      read [[0xFF], Utf8.encode "|", Utf8.encode ".b"] = .ok ⟨.external p, []⟩ := by
  intro source read p p' plain
  have hstar : Pattern.compile "*" = .ok [.anyRun] := by
    simp [Pattern.compile, Pattern.compileFrom]
  have hread : ∀ name text, Utf8.decode? name = some text → text.toList.head? ≠ some '.' →
      Pattern.accepts [.anyRun] text = true →
      read [name] = .ok ⟨.external ⟨{ args := ["sort", text], output := some "*" }, none⟩, []⟩ := by
    intro name text htext hdot haccepts
    have hword : Parse.argumentsOf (.ok [name]) "*" = ([text], []) := by
      have hpattern : Wildcard.isPattern "*" = true := by decide
      simp [Parse.argumentsOf, hpattern, Wildcard.expand, hstar, Wildcard.visible, htext, hdot, haccepts, Wildcard.sorted]
    have hscan : Token.scan (Parse.body "sort * > *") = [.word "sort", .word "*", .redirect .output, .word "*"] := by
      decide +kernel
    have hparse : read [name] = parse "sort * > *" (.ok [name]) {} := run_parseIn_eq_parse fun u => rfl
    have hsort : Parse.argumentsOf (.ok [name]) "sort" = (["sort"], []) := rfl
    have hshort : ¬({} : Limits).maxLineLength < (Parse.body "sort * > *").utf8ByteSize := by decide +kernel
    have hdraft : Parse.read {} (.ok [name]) {} [.word "sort", .word "*", .redirect .output, .word "*"] =
        .ok ⟨{ args := ["sort", text], output := some "*" }, none, []⟩ := by
      simp only [Parse.read, Parse.Draft.addWord, hsort, hword]
      rfl
    rw [hparse, parse, if_neg hshort, hscan]
    dsimp only
    rw [hdraft]
    rfl
  have hpipe : read [Utf8.encode "|"] = .ok ⟨.external p, []⟩ :=
    hread _ "|" (by decide +kernel) (by decide) (by decide +kernel)
  have hredirect : read [Utf8.encode "> a\n"] = .ok ⟨.external p', []⟩ :=
    hread _ "> a\n" (by decide +kernel) (by decide) (by decide +kernel)
  have hplain : Shows (source plain) ⟨[Path.slash]⟩ plain := fun _ => ⟨plain, rfl, by decide +kernel⟩
  have hmore : Shows (source [[0xFF], Utf8.encode "|", Utf8.encode ".b"]) ⟨[Path.slash]⟩ plain :=
    fun _ => ⟨_, rfl, by decide +kernel⟩
  obtain ⟨-, -, hplans⟩ := parseIn_listings (source plain) (source [Utf8.encode "> a\n"]) "sort * > *" {}
    ⟨[Path.slash]⟩ ⟨[Path.slash]⟩ () ()
  obtain ⟨hsame, -, -⟩ := parseIn_listings (source [[0xFF], Utf8.encode "|", Utf8.encode ".b"]) (source plain)
    "sort * > *" {} ⟨[Path.slash]⟩ ⟨[Path.slash]⟩ () ()
  exact ⟨hpipe, hredirect, (hplans p p' [] [] hpipe hredirect).2.1, hplain, hmore,
    (hsame plain hmore hplain).trans hpipe⟩

end Grammar

end LineShell
