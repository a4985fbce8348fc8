import LineShell.Proofs.Lexing
import LineShell.Proofs.Reading
import LineShell.Proofs.Rendering

/-!
Reading tokens is splitting a text. The tokens are all maximal runs of characters other than space and newline, in
the order of their places, so that a text may be cut anywhere in its blanks, and tokens that are written with blanks
between them are read again.
-/

namespace LineShell.Token

/-- The run stands at this place of the text, and there is no longer one around it. -/
structure MaximalRun (text : List Char) (place : Nat) (run : List Char) : Prop where
  ne_nil : run ≠ []
  unbroken : ∀ c ∈ run, isSeparator c = false
  stands : ∃ front rest, text = front ++ run ++ rest ∧ front.length = place ∧
    (∀ c ∈ front.getLast?, isSeparator c = true) ∧ ∀ c ∈ rest.head?, isSeparator c = true

/-- The token that a run spells: an operator if it is just that, and else a word. -/
inductive Spells : List Char → Token → Prop
  | pipe : Spells ['|'] .pipe
  | input : Spells ['<'] (.redirect .input)
  | output : Spells ['>'] (.redirect .output)
  | word {run : List Char} (h : run ≠ ['|'] ∧ run ≠ ['<'] ∧ run ≠ ['>']) : Spells run (.word (String.ofList run))

/-- Tokens as they are written, with a text in front of them and one behind each of them. -/
def written (front : String) : List (Token × String) → String
  | [] => front
  | (t, behind) :: parts => front ++ t.text ++ written behind parts

theorem spells_ofRun (run : List Char) : Spells run (ofRun run) := by
  unfold ofRun
  split_ifs with hpipe hinput houtput
  · exact hpipe ▸ .pipe
  · exact hinput ▸ .input
  · exact houtput ▸ .output
  · exact .word ⟨hpipe, hinput, houtput⟩

/-! ### Places of runs -/

section
variable {text front rest run : List Char} {place : Nat}

/-- No run begins before the end of a separator. -/
theorem maximalRun_cons {c : Char} (hc : isSeparator c = true) :
    MaximalRun (c :: text) place run ↔ ∃ p, place = p + 1 ∧ MaximalRun text p run := by
  constructor
  · rintro ⟨hne, hrun, front, rest, htext, rfl, hfront, hrest⟩
    obtain _ | ⟨d, front⟩ := front
    · obtain ⟨d, run, rfl⟩ := List.exists_cons_of_ne_nil hne
      cases htext
      cases hc.symm.trans (hrun c List.mem_cons_self)
    · cases htext
      refine ⟨front.length, rfl, hne, hrun, front, rest, rfl, rfl, fun d hd => hfront d ?_, hrest⟩
      rw [List.getLast?_cons, Option.mem_def.mp hd]
      rfl
  · rintro ⟨p, rfl, hne, hrun, front, rest, rfl, rfl, hfront, hrest⟩
    refine ⟨hne, hrun, c :: front, rest, rfl, rfl, fun d hd => ?_, hrest⟩
    rw [List.getLast?_cons] at hd
    cases hlast : front.getLast? with
    | none =>
      rw [hlast] at hd
      exact Option.some.inj hd ▸ hc
    | some e =>
      rw [hlast] at hd
      exact hfront d (hlast.trans hd)

/-- Of two runs that begin a text, one that ends before a separator is not shorter. -/
theorem prefix_of_append_eq {other more : List Char} (htext : run ++ rest = other ++ more)
    (hother : ∀ c ∈ other, isSeparator c = false) (hrest : ∀ c ∈ rest.head?, isSeparator c = true) : other <+: run := by
  rcases List.append_eq_append_iff.mp htext with ⟨_ | ⟨c, back⟩, rfl, rfl⟩ | ⟨back, rfl, rfl⟩
  · simp
  · cases (hrest c rfl).symm.trans (hother c (by simp))
  · exact List.prefix_append other back

/-- A run at the front ends before the next separator, so the other runs are those behind it. -/
theorem maximalRun_append (hne : front ≠ []) (hfront : ∀ c ∈ front, isSeparator c = false)
    (hrest : ∀ c ∈ rest.head?, isSeparator c = true) :
    MaximalRun (front ++ rest) place run ↔
      (place = 0 ∧ run = front) ∨ ∃ p, place = front.length + p ∧ MaximalRun rest p run := by
  constructor
  · rintro ⟨hrun, hunbroken, before, after, htext, rfl, hbefore, hafter⟩
    rw [List.append_assoc] at htext
    rcases List.append_eq_append_iff.mp htext with ⟨gap, rfl, rfl⟩ | ⟨back, rfl, hback⟩
    · refine .inr ⟨gap.length, List.length_append, hrun, hunbroken, gap, after, by simp, rfl, fun c hc => ?_, hafter⟩
      exact hbefore c (by simp [Option.mem_def.mp hc])
    · -- The run stands in the one at the front, so no separator is before it and both are the same.
      obtain rfl | ⟨before, c, rfl⟩ := List.eq_nil_or_concat before
      · have hle := prefix_of_append_eq hback hfront hafter
        have hge := prefix_of_append_eq hback.symm hunbroken hrest
        exact .inl ⟨rfl, hge.eq_of_length_le hle.length_le⟩
      · cases (hfront c (by simp)).symm.trans (hbefore c (by simp))
  · rintro (⟨rfl, rfl⟩ | ⟨p, rfl, hrun, hunbroken, before, after, rfl, rfl, hbefore, hafter⟩)
    · exact ⟨hne, hfront, [], rest, rfl, rfl, nofun, hrest⟩
    · refine ⟨hrun, hunbroken, front ++ before, after, by simp, List.length_append, fun c hc => ?_, hafter⟩
      obtain rfl | ⟨before, d, rfl⟩ := List.eq_nil_or_concat before
      · obtain ⟨d, run, rfl⟩ := List.exists_cons_of_ne_nil hrun
        cases (hrest d rfl).symm.trans (hunbroken d List.mem_cons_self)
      · exact hbefore c (by simpa using hc)

/-- The maximal runs of a text, in the order of their places. -/
theorem exists_maximalRuns (text : List Char) :
    ∃ found : List (Nat × List Char), found.Pairwise (fun x y => x.1 < y.1) ∧
      (∀ place run, (place, run) ∈ found ↔ MaximalRun text place run) ∧ runs text = found.map Prod.snd := by
  induction text using runs_induction with
  | nil =>
    refine ⟨[], .nil, fun place run => iff_of_false List.not_mem_nil ?_, rfl⟩
    rintro ⟨hne, -, front, rest, htext, -⟩
    simp [hne] at htext
  | blank c cs hc ih =>
    obtain ⟨found, hsorted, hmem, hruns⟩ := ih
    refine ⟨found.map fun x => (x.1 + 1, x.2), ?_, fun place run => ?_, ?_⟩
    · exact List.pairwise_map.mpr (hsorted.imp fun h => Nat.succ_lt_succ h)
    · rw [maximalRun_cons hc]
      simp [← hmem, eq_comm, and_comm]
    · rw [runs_separator hc, hruns, List.map_map]
      rfl
  | run front rest hne hfront hhead ih =>
    obtain ⟨found, hsorted, hmem, hruns⟩ := ih
    refine ⟨(0, front) :: found.map fun x => (front.length + x.1, x.2), ?_, fun place run => ?_, ?_⟩
    · refine .cons ?_ (List.pairwise_map.mpr (hsorted.imp fun h => Nat.add_lt_add_left h _))
      have hpos := List.length_pos_iff.mpr hne
      simp only [List.mem_map, forall_exists_index, and_imp]
      rintro _ x - rfl
      exact Nat.add_pos_left hpos _
    · rw [maximalRun_append hne hfront hhead]
      simp [← hmem, eq_comm, and_comm]
    · rw [runs_run_append hne hfront hhead, List.map_cons, List.map_map, hruns]
      rfl

end

/-! ### Tokens that are put together -/

/-- A text may be cut at any blanks. -/
theorem scan_append {a blanks b : String} (hne : blanks ≠ "") (hblank : Blank blanks) :
    scan (a ++ blanks ++ b) = scan a ++ scan b := by
  obtain ⟨c, cs, hcs⟩ := List.exists_cons_of_ne_nil (l := blanks.toList) (by simpa using hne)
  rw [Blank, hcs, List.forall_mem_cons] at hblank
  rw [scan, String.toList_append, String.toList_append, hcs, List.append_assoc, List.cons_append,
    runs_append_separator hblank.1, runs_separators_append hblank.2, List.map_append, scan, scan]

/-- Tokens that are written with blanks between them are read again. -/
theorem scan_written {front : String} {parts : List (Token × String)} (hfront : Blank front)
    (hparts : ∀ p ∈ parts, Grammar.Legible p.1 ∧ Blank p.2) (hbetween : ∀ p ∈ parts.dropLast, p.2 ≠ "") :
    scan (written front parts) = parts.map Prod.fst := by
  induction parts generalizing front with
  | nil => exact scan_eq_nil_iff.mpr hfront
  | cons part parts ih =>
    obtain ⟨t, behind⟩ := part
    obtain ⟨⟨ht, hbehind⟩, hparts⟩ := List.forall_mem_cons.mp hparts
    have hrun : ∀ c ∈ t.text.toList, isSeparator c = false := fun c hc =>
      isSeparator_eq_false_iff.mpr (Grammar.text_unbroken ht c hc)
    -- Only behind the last token there may be nothing.
    have hhead : ∀ c ∈ (written behind parts).toList.head?, isSeparator c = true := by
      cases parts with
      | nil => exact fun c hc => hbehind c (List.mem_of_mem_head? hc)
      | cons next parts =>
        have hne : behind.toList ≠ [] := by simpa using hbetween (t, behind) (by simp)
        intro c hc
        rw [written, String.toList_append, String.toList_append, List.append_assoc,
          List.head?_append_of_ne_nil _ hne] at hc
        exact hbehind c (List.mem_of_mem_head? hc)
    have hrest : ∀ p ∈ parts.dropLast, p.2 ≠ "" := by
      intro p hp
      cases parts with
      | nil => cases hp
      | cons next parts => exact hbetween p (List.mem_cons_of_mem _ hp)
    rw [scan, written, String.toList_append, String.toList_append, List.append_assoc, runs_separators_append hfront,
      runs_run_append (Grammar.text_ne_nil ht) hrun hhead, List.map_cons, Grammar.ofRun_text ht, List.map_cons]
    exact congrArg (t :: ·) (ih hbehind hparts hrest)

/-- Reading a text by the rules of tokens never fails and gives its maximal runs in order, each as the token that it
spells. A text that is cut at blanks is read piece by piece, and tokens that are written with blanks between them are
read again. -/
theorem scan_splits_and_joins :
    (∀ text : String,
      (∀ out, Lexes text.toList out ↔ out = (scan text).map .ok) ∧
      ∃ found : List (Nat × List Char),
        found.Pairwise (fun x y => x.1 < y.1) ∧
        (∀ place run, (place, run) ∈ found ↔ MaximalRun text.toList place run) ∧
        List.Forall₂ Spells (found.map Prod.snd) (scan text)) ∧
    (∀ a blanks b : String, blanks ≠ "" → Blank blanks → scan (a ++ blanks ++ b) = scan a ++ scan b) ∧
    ∀ (front : String) (parts : List (Token × String)), Blank front →
      (∀ p ∈ parts, (∀ w, p.1 = .word w → IsTokenWord w) ∧ Blank p.2) → (∀ p ∈ parts.dropLast, p.2 ≠ "") →
      scan (written front parts) = parts.map Prod.fst := by
  refine ⟨fun text => ⟨fun out => ?_, ?_⟩, fun a blanks b => scan_append, fun front parts => scan_written⟩
  · rw [lexes_iff, scan_eq_between]
  · obtain ⟨found, hsorted, hmem, hruns⟩ := exists_maximalRuns text.toList
    refine ⟨found, hsorted, hmem, ?_⟩
    rw [scan, hruns, List.forall₂_map_right_iff, List.forall₂_same]
    exact fun run _ => spells_ofRun run

/-- An operator between words that hold operators themselves, with no blank at the end. -/
theorem scan_splits_and_joins_glued :
    let parts : List (Token × String) := [(.word "a|b", "\n "), (.redirect .output, " "), (.word ">>", "")]
    Blank " " ∧ (∀ p ∈ parts, (∀ w, p.1 = .word w → IsTokenWord w) ∧ Blank p.2) ∧ (∀ p ∈ parts.dropLast, p.2 ≠ "") ∧
      written " " parts = " a|b\n > >>" ∧
      scan (written " " parts) = [.word "a|b", .redirect .output, .word ">>"] := by
  intro parts
  have hfront : Blank " " := by simp [Blank, isSeparator]
  have hparts : ∀ p ∈ parts, (∀ w, p.1 = .word w → IsTokenWord w) ∧ Blank p.2 := by
    have hword : IsTokenWord "a|b" ∧ IsTokenWord ">>" := by decide
    simp [parts, Blank, isSeparator, hword]
  have hbetween : ∀ p ∈ parts.dropLast, p.2 ≠ "" := by decide
  exact ⟨hfront, hparts, hbetween, by decide, scan_splits_and_joins.2.2 " " parts hfront hparts hbetween⟩

end LineShell.Token
