import Mathlib.Data.List.Infix
import LineShell.Proofs.Encoding
import LineShell.Wildcard.Expansion

/-!
What a pattern stands for. A pattern without `**` is read from left to right, item by item, and stands for
every name that can be cut into one piece for each item. The search for such a cut may be given up early:
a pattern that runs out of name does so whatever runs are chosen.
-/

namespace LineShell

namespace Pattern

/-! ### How patterns are spelt -/

theorem map_eq_ok {ε α β : Type} {f : α → β} {x : Except ε α} {b : β} (h : f <$> x = .ok b) :
    ∃ a, x = .ok a ∧ b = f a := by
  cases x with
  | error e => cases h
  | ok a => exact ⟨a, rfl, (Except.ok.inj h).symm⟩

/-- What stands at one place of a pattern as it is written. A class is the text between its brackets. -/
inductive Sign where
  | anyRun
  | anyChar
  | oneOf (text : List Char)
  | noneOf (text : List Char)
  | char (c : Char)

/-- The signs that a text spells. Between the brackets of a class is at least one character, which may be a
closing bracket. -/
inductive Spells : List Char → List Sign → Prop
  | nil : Spells [] []
  | anyRun {cs : List Char} {signs : List Sign} (hrest : Spells cs signs) : Spells ('*' :: cs) (.anyRun :: signs)
  | anyChar {cs : List Char} {signs : List Sign} (hrest : Spells cs signs) : Spells ('?' :: cs) (.anyChar :: signs)
  | oneOf {first : Char} {text inside cs : List Char} {signs : List Sign} (htext : text = inside ++ ']' :: cs)
    (hfirst : first ≠ '!') (hinside : ']' ∉ inside) (hrest : Spells cs signs) :
    Spells ('[' :: first :: text) (.oneOf (first :: inside) :: signs)
  | noneOf {first : Char} {text inside cs : List Char} {signs : List Sign} (htext : text = inside ++ ']' :: cs)
    (hinside : ']' ∉ inside) (hrest : Spells cs signs) :
    Spells ('[' :: '!' :: first :: text) (.noneOf (first :: inside) :: signs)
  | char {c : Char} {cs : List Char} {signs : List Sign} (hc : c ≠ '*' ∧ c ≠ '?' ∧ c ≠ '[')
    (hrest : Spells cs signs) : Spells (c :: cs) (.char c :: signs)

/-- The item that a sign is compiled to. -/
def Sign.item : Sign → PatternItem
  | .anyRun => .anyRun
  | .anyChar => .anyChar
  | .oneOf text => .oneOf (classEntries text)
  | .noneOf text => .noneOf (classEntries text)
  | .char c => .char c

variable {sign : Sign} {signs : List Sign} {items : List PatternItem} {c : Char} {cs inside rest : List Char}
  {atStart : Bool}

theorem closeClass_eq_some_iff :
    closeClass cs = some (inside, rest) ↔ cs = inside ++ ']' :: rest ∧ ']' ∉ inside := by
  induction cs generalizing inside with
  | nil => simp [closeClass]
  | cons c cs ih =>
    by_cases hc : c = ']'
    · subst hc
      rw [closeClass, Option.some.injEq, Prod.mk.injEq]
      constructor
      · rintro ⟨rfl, rfl⟩
        exact ⟨rfl, List.not_mem_nil⟩
      · rintro ⟨hcs, hinside⟩
        cases inside with
        | nil => exact ⟨rfl, (List.cons.inj hcs).2⟩
        | cons d inside => exact absurd (List.mem_cons.mpr (.inl (List.cons.inj hcs).1)) hinside
    · rw [closeClass, Option.map_eq_some_iff]
      · constructor
        · rintro ⟨⟨inside', rest'⟩, hclose, heq⟩
          cases heq
          obtain ⟨rfl, hinside⟩ := ih.mp hclose
          exact ⟨rfl, fun hmem => (List.mem_cons.mp hmem).elim (fun h => hc h.symm) hinside⟩
        · rintro ⟨hcs, hinside⟩
          cases inside with
          | nil => exact absurd (List.cons.inj hcs).1 hc
          | cons d inside =>
            obtain ⟨rfl, rfl⟩ := List.cons.inj hcs
            exact ⟨(inside, rest), ih.mpr ⟨rfl, fun hmem => hinside (List.mem_cons_of_mem _ hmem)⟩, rfl⟩
      · exact hc

theorem suffix_of_closeClass (h : closeClass cs = some (inside, rest)) : rest <:+ cs := by
  obtain ⟨rfl, -⟩ := closeClass_eq_some_iff.mp h
  exact ⟨inside ++ [']'], by simp⟩

/-- No two stars of the text stand side by side. -/
def StarsApart (cs : List Char) : Prop := ¬['*', '*'] <:+: cs

theorem StarsApart.of_suffix {cs ds : List Char} (hapart : StarsApart cs) (h : ds <:+ cs) : StarsApart ds :=
  fun hds => hapart (hds.trans h.isInfix)

theorem exists_spells_of_compileFrom {position : Nat} {previous : Option Char} (hapart : StarsApart cs)
    (h : compileFrom position previous cs = .ok items) : ∃ signs, Spells cs signs ∧ signs.map Sign.item = items := by
  fun_induction compileFrom position previous cs generalizing items with
  | case1 =>
    cases h
    exact ⟨[], .nil, rfl⟩
  | case2 position previous cs ih =>
    obtain ⟨rest, hrest, rfl⟩ := map_eq_ok h
    obtain ⟨signs, hsigns, rfl⟩ := ih (hapart.of_suffix (List.suffix_cons _ _)) hrest
    exact ⟨_, .anyChar hsigns, rfl⟩
  | case8 position previous cs hno hno' ih =>
    obtain ⟨rest, hrest, rfl⟩ := map_eq_ok h
    obtain ⟨signs, hsigns, rfl⟩ := ih (hapart.of_suffix (List.suffix_cons _ _)) hrest
    exact ⟨_, .anyRun hsigns, rfl⟩
  | case10 position previous c cs inside rest hclose ih =>
    obtain ⟨more, hmore, rfl⟩ := map_eq_ok h
    obtain ⟨htext, hinside⟩ := closeClass_eq_some_iff.mp hclose
    have hsuffix : rest <:+ '[' :: '!' :: c :: cs :=
      (suffix_of_closeClass hclose).trans ⟨['[', '!', c], rfl⟩
    obtain ⟨signs, hsigns, rfl⟩ := ih (hapart.of_suffix hsuffix) hmore
    exact ⟨_, .noneOf htext hinside hsigns, rfl⟩
  | case13 position previous c cs hno hno' inside rest hclose ih =>
    obtain ⟨more, hmore, rfl⟩ := map_eq_ok h
    obtain ⟨htext, hinside⟩ := closeClass_eq_some_iff.mp hclose
    have hsuffix : rest <:+ '[' :: c :: cs := (suffix_of_closeClass hclose).trans ⟨['[', c], rfl⟩
    have hfirst : c ≠ '!' := by
      rintro rfl
      cases cs with
      | nil => exact hno' rfl rfl
      | cons d ds => exact hno d ds rfl rfl
    obtain ⟨signs, hsigns, rfl⟩ := ih (hapart.of_suffix hsuffix) hmore
    exact ⟨_, .oneOf htext hfirst hinside hsigns, rfl⟩
  | case15 position previous c cs hany hrun hrun' hstar hclass hclass' hopen hopen' ih =>
    obtain ⟨more, hmore, rfl⟩ := map_eq_ok h
    have hbracket : c ≠ '[' := by
      rintro rfl
      cases cs with
      | nil => exact hopen' rfl rfl
      | cons d ds => exact hopen d ds rfl rfl
    obtain ⟨signs, hsigns, rfl⟩ := ih (hapart.of_suffix (List.suffix_cons _ _)) hmore
    exact ⟨_, .char ⟨hstar, hany, hbracket⟩ hsigns, rfl⟩
  | case3 | case4 | case5 | case6 | case7 => exact absurd ⟨[], _, rfl⟩ hapart
  | case9 | case11 | case12 | case14 => cases h

theorem compileFrom_of_spells (hspells : Spells cs signs) (hapart : StarsApart cs) (position : Nat)
    (previous : Option Char) : compileFrom position previous cs = .ok (signs.map Sign.item) := by
  induction hspells generalizing position previous with
  | nil =>
    rw [compileFrom]
    rfl
  | @anyRun cs signs hrest ih =>
    have hstar : ∀ tail, cs ≠ '*' :: tail := by
      rintro tail rfl
      exact hapart ⟨[], tail, rfl⟩
    rw [compileFrom]
    · rw [ih (hapart.of_suffix (List.suffix_cons _ _))]
      rfl
    · exact fun tail h => hstar _ h
    · exact fun tail h => hstar _ h
  | anyChar hrest ih =>
    rw [compileFrom, ih (hapart.of_suffix (List.suffix_cons _ _))]
    rfl
  | @noneOf first text inside cs signs htext hinside hrest ih =>
    have hclose := closeClass_eq_some_iff.mpr ⟨htext, hinside⟩
    have hsuffix : cs <:+ '[' :: '!' :: first :: text :=
      (suffix_of_closeClass hclose).trans ⟨['[', '!', first], rfl⟩
    rw [compileFrom]
    split
    · rename_i hnone
      cases hnone.symm.trans hclose
    · rename_i hsome
      cases hsome.symm.trans hclose
      rw [ih (hapart.of_suffix hsuffix)]
      rfl
  | @oneOf first text inside cs signs htext hfirst hinside hrest ih =>
    have hclose := closeClass_eq_some_iff.mpr ⟨htext, hinside⟩
    have hsuffix : cs <:+ '[' :: first :: text := (suffix_of_closeClass hclose).trans ⟨['[', first], rfl⟩
    rw [compileFrom]
    · split
      · rename_i hnone
        cases hnone.symm.trans hclose
      · rename_i hsome
        cases hsome.symm.trans hclose
        rw [ih (hapart.of_suffix hsuffix)]
        rfl
    · exact fun _ _ h => absurd h hfirst
    · exact fun h => absurd h hfirst
  | char hc hrest ih =>
    rw [compileFrom]
    · rw [ih (hapart.of_suffix (List.suffix_cons _ _))]
      rfl
    all_goals simp_all

/-- What compiles is what spells signs, and it compiles to the items of the signs that it spells. -/
theorem compile_eq_ok_iff {pattern : String} (hapart : StarsApart pattern.toList) :
    compile pattern = .ok items ↔ ∃ signs, Spells pattern.toList signs ∧ signs.map Sign.item = items := by
  constructor
  · exact exists_spells_of_compileFrom hapart
  · rintro ⟨signs, hspells, rfl⟩
    exact compileFrom_of_spells hspells hapart 0 none

/-! ### What patterns stand for -/

/-- A hyphen and another character follow, so that the character before them begins a range. -/
def BeginsRange (cs : List Char) : Prop := ∃ last rest, cs = '-' :: last :: rest

/-- The characters that the text of a class lists. It is read from left to right: a character, a hyphen and one
character more list all from the first one to the last one, and any other character lists itself. -/
inductive Lists : List Char → Char → Prop
  | range {first last c : Char} {cs : List Char} (hfirst : first ≤ c) (hlast : c ≤ last) :
    Lists (first :: '-' :: last :: cs) c
  | behindRange {first last c : Char} {cs : List Char} (hrest : Lists cs c) : Lists (first :: '-' :: last :: cs) c
  | char {c : Char} {cs : List Char} (hsingle : ¬BeginsRange cs) : Lists (c :: cs) c
  | behindChar {d c : Char} {cs : List Char} (hsingle : ¬BeginsRange cs) (hrest : Lists cs c) : Lists (d :: cs) c

theorem lists_range_iff {first last : Char} :
    Lists (first :: '-' :: last :: cs) c ↔ first ≤ c ∧ c ≤ last ∨ Lists cs c := by
  constructor
  · intro h
    cases h with
    | range hfirst hlast => exact .inl ⟨hfirst, hlast⟩
    | behindRange hrest => exact .inr hrest
    | char hsingle | behindChar hsingle => exact absurd ⟨last, cs, rfl⟩ hsingle
  · rintro (⟨hfirst, hlast⟩ | hrest)
    · exact .range hfirst hlast
    · exact .behindRange hrest

theorem lists_char_iff {d : Char} (hsingle : ¬BeginsRange cs) : Lists (d :: cs) c ↔ c = d ∨ Lists cs c := by
  constructor
  · intro h
    cases h with
    | range | behindRange => exact absurd ⟨_, _, rfl⟩ hsingle
    | char => exact .inl rfl
    | behindChar _ hrest => exact .inr hrest
  · rintro (rfl | hrest)
    · exact .char hsingle
    · exact .behindChar hsingle hrest

/-- The entries that are read from the text of a class list what the text lists. -/
theorem any_classEntries_iff : (classEntries cs).any (·.lists c) = true ↔ Lists cs c := by
  fun_induction classEntries cs with
  | case1 first last cs ih =>
    rw [List.any_cons, Bool.or_eq_true, ih, lists_range_iff]
    simp [ClassEntry.lists]
  | case2 d cs hsingle ih =>
    have hsingle' : ¬BeginsRange cs := fun ⟨last, rest, hcs⟩ => hsingle last rest hcs
    rw [List.any_cons, Bool.or_eq_true, ih, lists_char_iff hsingle']
    simp [ClassEntry.lists]
  | case3 => exact iff_of_false nofun nofun

/-- What a sign stands for. -/
def Covers : Sign → List Char → Prop
  | .anyRun, _ => True
  | .anyChar, piece => ∃ c, piece = [c]
  | .oneOf text, piece => ∃ c, piece = [c] ∧ Lists text c
  | .noneOf text, piece => ∃ c, piece = [c] ∧ ¬Lists text c
  | .char d, piece => piece = [d]

/-- A name can be cut into pieces that the signs stand for, one after the other. -/
def Stands (signs : List Sign) (cs : List Char) : Prop :=
  ∃ pieces, pieces.flatten = cs ∧ List.Forall₂ Covers signs pieces

theorem stands_nil : Stands [] cs ↔ cs = [] := by
  constructor
  · rintro ⟨pieces, rfl, hpieces⟩
    cases hpieces
    rfl
  · rintro rfl
    exact ⟨[], rfl, .nil⟩

theorem stands_cons : Stands (sign :: signs) cs ↔
    ∃ piece rest, cs = piece ++ rest ∧ Covers sign piece ∧ Stands signs rest := by
  constructor
  · rintro ⟨pieces, rfl, hpieces⟩
    cases hpieces with
    | cons hsign hsigns => exact ⟨_, _, rfl, hsign, _, rfl, hsigns⟩
  · rintro ⟨piece, _, rfl, hsign, pieces, rfl, hsigns⟩
    exact ⟨piece :: pieces, rfl, .cons hsign hsigns⟩

theorem stands_anyRun_iff :
    Stands (.anyRun :: signs) cs ↔ ∃ rest, rest <:+ cs ∧ Stands signs rest := by
  rw [stands_cons]
  constructor
  · rintro ⟨piece, rest, rfl, -, hrest⟩
    exact ⟨rest, List.suffix_append _ _, hrest⟩
  · rintro ⟨rest, ⟨piece, rfl⟩, hrest⟩
    exact ⟨piece, rest, rfl, trivial, hrest⟩

theorem stands_anyRun_cons :
    Stands (.anyRun :: signs) (c :: cs) ↔ Stands signs (c :: cs) ∨ Stands (.anyRun :: signs) cs := by
  simp only [stands_anyRun_iff, List.suffix_cons_iff, or_and_right, exists_or, exists_eq_left]

theorem covers_singleton (hsign : sign ≠ .anyRun) (hc : isReserved atStart c = false) :
    Covers sign [c] ↔ PatternItem.accepts atStart c sign.item = true := by
  cases sign with
  | anyRun => exact absurd rfl hsign
  | anyChar => simp [Covers, Sign.item, PatternItem.accepts, hc]
  | oneOf text => simp [Covers, Sign.item, PatternItem.accepts, hc, ← any_classEntries_iff]
  | noneOf text => simp [Covers, Sign.item, PatternItem.accepts, hc, ← any_classEntries_iff]
  | char d => simp [Covers, Sign.item, PatternItem.accepts]

theorem eq_singleton_of_covers {piece : List Char} (hsign : sign ≠ .anyRun) (hpiece : Covers sign piece) :
    ∃ c, piece = [c] := by
  cases sign with
  | anyRun => exact absurd rfl hsign
  | anyChar => exact hpiece
  | oneOf text => exact hpiece.imp fun c h => h.1
  | noneOf text => exact hpiece.imp fun c h => h.1
  | char d => exact ⟨d, hpiece⟩

theorem exists_cons_of_stands (hsign : sign ≠ .anyRun) (h : Stands (sign :: signs) cs) :
    ∃ c rest, cs = c :: rest ∧ Covers sign [c] ∧ Stands signs rest := by
  obtain ⟨piece, rest, rfl, hpiece, hrest⟩ := stands_cons.mp h
  obtain ⟨c, rfl⟩ := eq_singleton_of_covers hsign hpiece
  exact ⟨c, rest, rfl, hpiece, hrest⟩

theorem stands_single_cons (hsign : sign ≠ .anyRun) (hc : isReserved atStart c = false) :
    Stands (sign :: signs) (c :: cs) ↔ PatternItem.accepts atStart c sign.item = true ∧ Stands signs cs := by
  rw [← covers_singleton hsign hc]
  constructor
  · intro hstands
    obtain ⟨d, rest, hcs, hpiece, hrest⟩ := exists_cons_of_stands hsign hstands
    obtain ⟨rfl, rfl⟩ := List.cons.inj hcs
    exact ⟨hpiece, hrest⟩
  · rintro ⟨hpiece, hrest⟩
    exact stands_cons.mpr ⟨[c], cs, rfl, hpiece, hrest⟩

/-! ### The search -/

/-- What is left of a name has no slash in it, and no dot where none may be read. -/
def Clear (atStart : Bool) (cs : List Char) : Prop := '/' ∉ cs ∧ (atStart = true → cs.head? ≠ some '.')

theorem Clear.isSlash_eq (h : Clear atStart (c :: cs)) : isSlash c = false := by
  have hne : c ≠ '/' := fun hc => h.1 (hc ▸ List.mem_cons_self)
  simpa [isSlash] using hne

theorem Clear.isReserved_eq (h : Clear atStart (c :: cs)) : isReserved atStart c = false := by
  have hdot := h.2
  cases atStart <;> simp_all [isReserved, h.isSlash_eq]

theorem Clear.tail (h : Clear atStart (c :: cs)) : Clear false cs :=
  ⟨fun hmem => h.1 (List.mem_cons_of_mem _ hmem), by simp⟩

/-- What a verdict says of some signs and what is left of a name. When the name has run out, the signs stand
for no later part of it either, so that no choice made before can be mended. -/
def Tells (signs : List Sign) (cs : List Char) : Verdict → Prop
  | .matched => Stands signs cs
  | .mismatch => ¬Stands signs cs
  | .exhausted => ∀ rest, rest <:+ cs → ¬Stands signs rest

theorem tells_afterRun {next : Continuation}
    (hnext : ∀ {atStart cs}, Clear atStart cs → Tells signs cs (next atStart cs))
    (hclear : Clear atStart cs) : Tells (.anyRun :: signs) cs (afterRun next atStart cs) := by
  induction cs generalizing atStart with
  | nil =>
    have htells := hnext hclear
    rw [afterRun]
    cases hverdict : next atStart [] <;> rw [hverdict] at htells <;>
      simpa [Tells, stands_anyRun_iff, List.suffix_nil] using htells
  | cons c cs ih =>
    have htells := hnext hclear
    have hlater := ih hclear.tail
    rw [afterRun]
    cases hverdict : next atStart (c :: cs) with
    | matched =>
      rw [hverdict] at htells
      exact stands_anyRun_cons.mpr (.inl htells)
    | exhausted =>
      rw [hverdict] at htells
      intro rest hrest hstands
      obtain ⟨rest', hrest', hstands'⟩ := stands_anyRun_iff.mp hstands
      exact htells rest' (hrest'.trans hrest) hstands'
    | mismatch =>
      -- The run takes one character more, unless it must not take this one; here it may.
      rw [hverdict] at htells
      rw [if_neg (by simp [hclear.isReserved_eq])]
      cases hverdict' : afterRun next false cs with
      | matched =>
        rw [hverdict'] at hlater
        exact stands_anyRun_cons.mpr (.inr hlater)
      | mismatch =>
        rw [hverdict'] at hlater
        exact fun hstands => (stands_anyRun_cons.mp hstands).elim htells hlater
      | exhausted =>
        rw [hverdict'] at hlater
        intro rest hrest hstands
        rcases List.suffix_cons_iff.mp hrest with rfl | hrest
        · exact (stands_anyRun_cons.mp hstands).elim htells (hlater cs List.suffix_rfl)
        · exact hlater rest hrest hstands

theorem verdict_single_nil (hsign : sign ≠ .anyRun) : verdict (sign.item :: items) atStart [] = .exhausted := by
  cases sign with
  | anyRun => exact absurd rfl hsign
  | _ => rfl

theorem verdict_single_cons (hsign : sign ≠ .anyRun) : verdict (sign.item :: items) atStart (c :: cs) =
      if PatternItem.accepts atStart c sign.item then verdict items (isSlash c) cs else .mismatch := by
  cases sign with
  | anyRun => exact absurd rfl hsign
  | _ => rfl

theorem tells_verdict (hclear : Clear atStart cs) : Tells signs cs (verdict (signs.map Sign.item) atStart cs) := by
  induction signs generalizing atStart cs with
  | nil => cases cs <;> simp [verdict, Tells, stands_nil]
  | cons sign signs ih =>
    rw [List.map_cons]
    by_cases hsign : sign = .anyRun
    · subst hsign
      exact tells_afterRun (fun h => ih h) hclear
    · cases cs with
      | nil =>
        rw [verdict_single_nil hsign]
        intro rest hnil
        rw [List.suffix_nil.mp hnil]
        intro hstands
        obtain ⟨c, rest, hcons, -⟩ := exists_cons_of_stands hsign hstands
        cases hcons
      | cons c cs =>
        have hcons : Stands (sign :: signs) (c :: cs) ↔
            PatternItem.accepts atStart c sign.item = true ∧ Stands signs cs :=
          stands_single_cons hsign hclear.isReserved_eq
        rw [verdict_single_cons hsign]
        by_cases haccepts : PatternItem.accepts atStart c sign.item = true
        · rw [if_pos haccepts, hclear.isSlash_eq]
          have hlater := ih hclear.tail
          cases hverdict : verdict (signs.map Sign.item) false cs <;> rw [hverdict] at hlater
          · exact hcons.mpr ⟨haccepts, hlater⟩
          · exact fun hstands => hlater (hcons.mp hstands).2
          · -- What the later signs cannot stand for, they cannot stand for behind one more character.
            intro rest hsuffix hstands
            obtain ⟨d, rest, rfl, -, hrest⟩ := exists_cons_of_stands hsign hstands
            refine hlater rest ?_ hrest
            rcases List.suffix_cons_iff.mp hsuffix with heq | hsuffix
            · rw [(List.cons.inj heq).2]
            · exact (List.suffix_cons d rest).trans hsuffix
        · rw [if_neg haccepts]
          exact fun hstands => haccepts (hcons.mp hstands).1

theorem accepts_iff {name : String} (hclear : Clear true name.toList) :
    accepts (signs.map Sign.item) name = true ↔ Stands signs name.toList := by
  have htells : Tells signs name.toList (verdict (signs.map Sign.item) true name.toList) := tells_verdict hclear
  rw [accepts]
  cases hverdict : verdict (signs.map Sign.item) true name.toList <;> rw [hverdict] at htells
  · exact iff_of_true rfl htells
  · exact iff_of_false (by decide) htells
  · exact iff_of_false (by decide) (htells _ List.suffix_rfl)

end Pattern

/-! ### Expansion -/

namespace Wildcard
open Pattern

theorem count_filterMap_decode? (names : List Name) (name : String) :
    (names.filterMap Utf8.decode?).count name = names.count (Utf8.encode name) := by
  induction names with
  | nil => rfl
  | cons bs names ih =>
    cases htext : Utf8.decode? bs with
    | none =>
      have hne : bs ≠ Utf8.encode name := by
        rintro rfl
        cases htext.symm.trans (Utf8.decode?_eq_some_iff.mpr rfl)
      rw [List.filterMap_cons_none htext, List.count_cons_of_ne hne, ih]
    | some text =>
      obtain rfl := Utf8.decode?_eq_some_iff.mp htext
      rw [List.filterMap_cons_some htext]
      by_cases hname : text = name
      · rw [hname, List.count_cons_self, List.count_cons_self, ih]
      · rw [List.count_cons_of_ne hname, List.count_cons_of_ne fun h => hname (Utf8.encode_injective h), ih]

theorem mem_visible {names : List Name} {name : String} :
    name ∈ visible names ↔ Utf8.encode name ∈ names ∧ name.toList.head? ≠ some '.' := by
  have hlisted : name ∈ names.filterMap Utf8.decode? ↔ Utf8.encode name ∈ names := by
    rw [← List.count_pos_iff, count_filterMap_decode?, List.count_pos_iff]
  simp [visible, List.mem_filter, hlisted]

theorem count_visible {names : List Name} {name : String} (h : name.toList.head? ≠ some '.') :
    (visible names).count name = names.count (Utf8.encode name) := by
  rw [visible, List.count_filter (by simpa using h), count_filterMap_decode?]

theorem slash_notMem {name : String} (h : Path.slash ∉ Utf8.encode name) : '/' ∉ name.toList :=
  fun hmem => h (List.mem_flatMap.mpr ⟨'/', hmem, by decide⟩)

theorem pairwise_sorted (names : List String) : (sorted names).Pairwise (· ≤ ·) := by
  have htrans : ∀ a b c : String,
      decide (a ≤ b) = true → decide (b ≤ c) = true → decide (a ≤ c) = true := by
    simpa using fun a b c => String.le_trans
  have htotal : ∀ a b : String, (decide (a ≤ b) || decide (b ≤ a)) = true := by
    simpa using String.le_total
  simpa [sorted] using List.pairwise_mergeSort htrans htotal names

/-- The names that a pattern gives are those that its signs stand for, as often as they are listed and in the order
of their bytes; and a text is a pattern just if it spells signs. A word that is no pattern gives one error whatever
is listed, and a pattern gives one for a directory that cannot be listed. -/
theorem expand_stands (pattern : String) :
    (StarsApart pattern.toList → ((∃ items, compile pattern = .ok items) ↔ ∃ signs, Spells pattern.toList signs)) ∧
    (∀ signs names, StarsApart pattern.toList → Spells pattern.toList signs →
      (∀ name ∈ names, Path.slash ∉ name) → ∃ matched, expand pattern (.ok names) = .ok matched ∧
        (∀ name, name ∈ matched ↔
          Utf8.encode name ∈ names ∧ name.toList.head? ≠ some '.' ∧ Stands signs name.toList) ∧
        (∀ name ∈ matched, matched.count name = names.count (Utf8.encode name)) ∧
        matched.Pairwise fun a b => Utf8.encode a ≤ Utf8.encode b) ∧
    (∀ e listing, compile pattern = .error e →
      expand pattern listing = .error (.invalidPattern pattern e)) ∧
    ∀ items fault, compile pattern = .ok items →
      expand pattern (.error fault) = .error (.unreadableDirectory fault) := by
  refine ⟨fun hapart => ?_, ?_, ?_, ?_⟩
  · constructor
    · rintro ⟨items, hcompile⟩
      obtain ⟨signs, hspells, -⟩ := (compile_eq_ok_iff hapart).mp hcompile
      exact ⟨signs, hspells⟩
    · rintro ⟨signs, hspells⟩
      exact ⟨_, (compile_eq_ok_iff hapart).mpr ⟨signs, hspells, rfl⟩⟩
  · intro signs names hapart hspells hslash
    have hcompile : compile pattern = .ok (signs.map Sign.item) := (compile_eq_ok_iff hapart).mpr ⟨signs, hspells, rfl⟩
    have hperm := List.mergeSort_perm ((visible names).filter (accepts (signs.map Sign.item))) fun a b => decide (a ≤ b)
    have hmem : ∀ name, name ∈ sorted ((visible names).filter (accepts (signs.map Sign.item))) ↔
        Utf8.encode name ∈ names ∧ name.toList.head? ≠ some '.' ∧ Stands signs name.toList := by
      intro name
      rw [sorted, hperm.mem_iff, List.mem_filter, mem_visible, and_assoc]
      refine and_congr_right fun hlisted => and_congr_right fun hdot => ?_
      exact accepts_iff ⟨slash_notMem (hslash _ hlisted), fun _ => hdot⟩
    refine ⟨_, ?_, hmem, ?_, (pairwise_sorted _).imp Utf8.encode_le_encode⟩
    · rw [expand, hcompile]
    · intro name hname
      obtain ⟨-, hdot, -⟩ := (hmem name).mp hname
      have haccepts := (List.mem_filter.mp (hperm.mem_iff.mp hname)).2
      rw [sorted, hperm.count_eq, List.count_filter haccepts, count_visible hdot]
  · intro e listing hcompile
    rw [expand, hcompile]
  · intro items fault hcompile
    rw [expand, hcompile]

/-- A class with a range, a negated one and a star, with names that are listed twice, hidden or not in a class. -/
theorem expand_stands_repeated :
    let names := ["ay", "_b", "bcz", "_b", ".b", "db"].map Utf8.encode
    ∃ matched, expand "[a-c_][!x-z]*" (.ok names) = .ok matched ∧ matched.count "_b" = 2 ∧ "bcz" ∈ matched ∧
      "ay" ∉ matched ∧ ".b" ∉ matched ∧ "db" ∉ matched := by
  intro names
  have hapart : StarsApart "[a-c_][!x-z]*".toList := by
    show ¬['*', '*'] <:+: "[a-c_][!x-z]*".toList
    decide
  have hbehind : Spells ['[', '!', 'x', '-', 'z', ']', '*'] [.noneOf ['x', '-', 'z'], .anyRun] :=
    .noneOf (rfl : _ = ['-', 'z'] ++ ']' :: ['*']) (by decide) (.anyRun .nil)
  have hspells : Spells "[a-c_][!x-z]*".toList [.oneOf ['a', '-', 'c', '_'], .noneOf ['x', '-', 'z'], .anyRun] :=
    .oneOf (rfl : _ = ['-', 'c', '_'] ++ ']' :: _) (by decide) (by decide) hbehind
  obtain ⟨matched, hexpand, hmem, hcount, -⟩ :=
    (expand_stands "[a-c_][!x-z]*").2.1 _ names hapart hspells (by decide)
  have hfirst : ∀ c, Lists ['a', '-', 'c', '_'] c ↔ 'a' ≤ c ∧ c ≤ 'c' ∨ c = '_' := by
    intro c
    have hsingle : ¬BeginsRange [] := by
      rintro ⟨_, _, ⟨⟩⟩
    rw [lists_range_iff, lists_char_iff hsingle, or_iff_left (show ¬Lists [] c from nofun)]
  have hsecond : ∀ c, Lists ['x', '-', 'z'] c ↔ 'x' ≤ c ∧ c ≤ 'z' := by
    intro c
    rw [lists_range_iff, or_iff_left (show ¬Lists [] c from nofun)]
  have hstands : ∀ c d cs, Stands [.oneOf ['a', '-', 'c', '_'], .noneOf ['x', '-', 'z'], .anyRun] (c :: d :: cs) ↔
      ('a' ≤ c ∧ c ≤ 'c' ∨ c = '_') ∧ ¬('x' ≤ d ∧ d ≤ 'z') := by
    intro c d cs
    rw [← hfirst, ← hsecond]
    constructor
    · rintro ⟨_, hcut, hpieces⟩
      cases hpieces with
      | cons hc hpieces => cases hpieces with
        | cons hd hpieces =>
          obtain ⟨_, rfl, hc⟩ := hc
          obtain ⟨_, rfl, hd⟩ := hd
          cases hcut
          exact ⟨hc, hd⟩
    · rintro ⟨hc, hd⟩
      exact ⟨[[c], [d], cs], by simp, .cons ⟨c, rfl, hc⟩ (.cons ⟨d, rfl, hd⟩ (.cons trivial .nil))⟩
  refine ⟨matched, hexpand, ?_, ?_, ?_, ?_, ?_⟩
  · rw [hcount "_b" ((hmem "_b").mpr ⟨by decide, by decide, (hstands '_' 'b' []).mpr (by decide)⟩)]
    decide
  · exact (hmem "bcz").mpr ⟨by decide, by decide, (hstands 'b' 'c' ['z']).mpr (by decide)⟩
  · exact fun h => absurd ((hstands 'a' 'y' []).mp ((hmem "ay").mp h).2.2) (by decide)
  · exact fun h => ((hmem ".b").mp h).2.1 (by decide)
  · exact fun h => absurd ((hstands 'd' 'b' []).mp ((hmem "db").mp h).2.2) (by decide)

end Wildcard
end LineShell
