import LineShell.Token

/-!
The runs of a line are what is left between its separators: cut the line at each of them and drop the
empty pieces.
-/

namespace LineShell.Token

/-- The tokens of a text, said without a scan: what stands between the separators, empty pieces aside. -/
def between (text : String) : List Token :=
  ((text.toList.splitOnP isSeparator).filter (· ≠ [])).map ofRun

theorem splitOnP_separator {c : Char} (hc : isSeparator c = true) (cs : List Char) :
    (c :: cs).splitOnP isSeparator = [] :: cs.splitOnP isSeparator := by
  rw [List.splitOnP_cons_eq_if_modifyHead, if_pos hc]

theorem splitOnP_other {c : Char} (hc : isSeparator c = false) (cs : List Char) :
    ∃ run rest, cs.splitOnP isSeparator = run :: rest ∧
      (c :: cs).splitOnP isSeparator = (c :: run) :: rest := by
  obtain ⟨run, rest, h⟩ := List.exists_cons_of_ne_nil (List.splitOnP_ne_nil isSeparator cs)
  refine ⟨run, rest, h, ?_⟩
  rw [List.splitOnP_cons_eq_if_modifyHead, if_neg (by simp [hc]), h, List.modifyHead_cons]

theorem runs_eq_splitOnP (cs : List Char) : runs cs = (cs.splitOnP isSeparator).filter (· ≠ []) := by
  fun_induction runs cs with
  | case1 => simp
  | case2 c cs hc ih => simp [splitOnP_separator hc, ih]
  | case3 c hc => simp [List.splitOnP_cons_eq_if_modifyHead, hc]
  | case4 c hc d ds hd ih =>
    obtain ⟨run, rest, hsplit, hcons⟩ := splitOnP_other (by simpa using hc) (d :: ds)
    rw [splitOnP_separator hd] at hsplit
    obtain ⟨rfl, rfl⟩ := List.cons.inj hsplit
    simp [hcons, ih, splitOnP_separator hd]
  | case5 c hc d ds hd ih =>
    -- `d` belongs to the run that `c` starts, so the first piece behind `c` is not empty.
    obtain ⟨run, rest, -, hds⟩ := splitOnP_other (by simpa using hd) ds
    obtain ⟨run', rest', hsplit, hcons⟩ := splitOnP_other (by simpa using hc) (d :: ds)
    rw [hds] at hsplit
    obtain ⟨rfl, rfl⟩ := List.cons.inj hsplit
    simp [hcons, ih, hds, extend]

theorem scan_eq_between (text : String) : scan text = between text := by
  rw [scan, runs_eq_splitOnP, between]

theorem runs_eq_nil_iff {cs : List Char} : runs cs = [] ↔ ∀ c ∈ cs, isSeparator c = true := by
  fun_induction runs cs with
  | case1 => simp
  | case2 c cs hc ih => simp [hc, ih]
  | case3 c hc => simp [hc]
  | case4 c hc d ds hd ih => simp [hc]
  | case5 c hc d ds hd ih =>
    refine iff_of_false ?_ fun h => hc (h c List.mem_cons_self)
    cases runs (d :: ds) <;> simp [extend]

/-- A token is written as the run that it is. -/
theorem text_ofRun (run : List Char) : (ofRun run).text.toList = run := by
  unfold ofRun
  split
  · simp [text, *]
  · split
    · simp [text, Redirect.symbol, *]
    · split
      · simp [text, Redirect.symbol, *]
      · exact String.toList_ofList

/-! ### Cutting off the front -/

theorem runs_blank (cs : List Char) : runs (' ' :: cs) = runs cs := by
  rw [runs.eq_def]
  rfl

theorem runs_separators_append {blanks : List Char} (h : ∀ c ∈ blanks, isSeparator c = true) (cs : List Char) :
    runs (blanks ++ cs) = runs cs := by
  induction blanks with
  | nil => rfl
  | cons c blanks ih =>
    rw [List.cons_append, runs.eq_def]
    simp only [h c List.mem_cons_self, ↓reduceIte]
    exact ih fun d hd => h d (List.mem_cons_of_mem c hd)

/-- A run that goes on to the next separator, or to the end, is the first one. -/
theorem runs_run_append {run rest : List Char} (hne : run ≠ []) (hrun : ∀ c ∈ run, isSeparator c = false)
    (hrest : ∀ c ∈ rest.head?, isSeparator c = true) : runs (run ++ rest) = run :: runs rest := by
  induction run with
  | nil => exact absurd rfl hne
  | cons c run ih =>
    have hc : ¬isSeparator c = true := by simp [hrun c List.mem_cons_self]
    cases run with
    | nil =>
      cases rest with
      | nil => simp [runs, hc]
      | cons d rest => simp [runs, hc, hrest d rfl]
    | cons d run =>
      have hd : ¬isSeparator d = true := by simp [hrun d (by simp)]
      have hrest' := ih (by simp) fun e he => hrun e (List.mem_cons_of_mem c he)
      rw [List.cons_append] at hrest' ⊢
      rw [List.cons_append, runs.eq_def]
      simp only [if_neg hc, if_neg hd, hrest', extend]

/-! ### A text as its runs -/

/-- A text is nothing, or begins with a separator, or begins with a run that goes on to the next separator or to the
end. -/
theorem runs_induction {P : List Char → Prop} (nil : P [])
    (blank : ∀ c cs, isSeparator c = true → P cs → P (c :: cs))
    (run : ∀ run rest, run ≠ [] → (∀ c ∈ run, isSeparator c = false) → (∀ c ∈ rest.head?, isSeparator c = true) →
      P rest → P (run ++ rest)) (cs : List Char) : P cs := by
  induction hn : cs.length using Nat.strongRecOn generalizing cs with
  | ind n ih =>
    obtain _ | ⟨c, cs⟩ := cs
    · exact nil
    cases hc : isSeparator c with
    | true => exact blank c cs hc (ih cs.length (by rw [← hn]; simp) cs rfl)
    | false =>
      have hsplit := List.takeWhile_append_dropWhile (p := fun d => !isSeparator d) (l := c :: cs)
      have hne : (c :: cs).takeWhile (fun d => !isSeparator d) ≠ [] := by simp [hc]
      have hrun : ∀ d ∈ (c :: cs).takeWhile (fun d => !isSeparator d), isSeparator d = false := by
        intro d hd
        simpa using List.all_eq_true.mp List.all_takeWhile d hd
      have hhead : ∀ d ∈ ((c :: cs).dropWhile fun d => !isSeparator d).head?, isSeparator d = true := by
        intro d hd
        have hnot := List.head?_dropWhile_not (fun d => !isSeparator d) (c :: cs)
        rw [Option.mem_def.mp hd] at hnot
        simpa using hnot
      generalize (c :: cs).takeWhile (fun d => !isSeparator d) = front at hsplit hne hrun
      generalize (c :: cs).dropWhile (fun d => !isSeparator d) = rest at hsplit hhead
      have hlength : rest.length < n := by
        have := List.length_pos_iff.mpr hne
        rw [← hn, ← hsplit, List.length_append]
        omega
      rw [← hsplit]
      exact run front rest hne hrun hhead (ih rest.length hlength rest rfl)

theorem runs_separator {c : Char} (hc : isSeparator c = true) (cs : List Char) : runs (c :: cs) = runs cs := by
  rw [runs.eq_def]
  simp only [hc, ↓reduceIte]

theorem shape_of_mem_runs {cs run : List Char} (h : run ∈ runs cs) : run ≠ [] ∧ ∀ c ∈ run, isSeparator c = false := by
  induction cs using runs_induction with
  | nil => cases h
  | blank c cs hc ih => exact ih (runs_separator hc cs ▸ h)
  | run front rest hne hfront hhead ih =>
    rw [runs_run_append hne hfront hhead] at h
    rcases List.mem_cons.mp h with rfl | h
    · exact ⟨hne, hfront⟩
    · exact ih h

theorem runs_append_separator {d : Char} (hd : isSeparator d = true) (cs ds : List Char) :
    runs (cs ++ d :: ds) = runs cs ++ runs ds := by
  induction cs using runs_induction with
  | nil => exact runs_separator hd ds
  | blank c cs hc ih => rw [List.cons_append, runs_separator hc, runs_separator hc, ih]
  | run front rest hne hrun hhead ih =>
    have hhead' : ∀ c ∈ (rest ++ d :: ds).head?, isSeparator c = true := by
      intro c hc
      cases rest with
      | nil => exact Option.some.inj hc ▸ hd
      | cons e rest => exact hhead c hc
    rw [List.append_assoc, runs_run_append hne hrun hhead', runs_run_append hne hrun hhead, ih, List.cons_append]

end LineShell.Token
