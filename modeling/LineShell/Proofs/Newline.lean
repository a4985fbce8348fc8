import Mathlib.Tactic.SplitIfs
import LineShell.Text.Lines

/-!
Newlines among bytes. No multi-byte character has a newline byte in it, and none decodes to a newline, so
a newline byte ends whatever character was begun, stands for itself, and is the only byte that does. That
is why a source may be cut at its newline bytes before anything is decoded.
-/

namespace LineShell

namespace Utf8

/-- An unfinished character waits for a byte that is not ASCII, and it will be no ASCII character. -/
structure Pending.Wide (p : Pending) : Prop where
  low : 0x80 ≤ p.low.toNat
  bits : 2 ≤ p.bits * 64 + (p.low.toNat - 0x80)
  last : p.after = 0 → 128 ≤ p.bits * 64 + (p.low.toNat - 0x80)

theorem start_wide {b : UInt8} : ∀ p ∈ (start b).2, p.Wide := by
  intro p hp
  unfold start at hp
  split_ifs at hp <;> simp only [Option.mem_def, Option.some.injEq, reduceCtorEq] at hp <;> subst hp <;>
    refine ⟨?_, ?_, ?_⟩ <;> simp_all [UInt8.le_iff_toNat_le] <;> omega

theorem feed_wide {p : Option Pending} {b : UInt8} (hp : ∀ q ∈ p, q.Wide) : ∀ q ∈ (feed p b).2, q.Wide := by
  cases p with
  | none => exact start_wide
  | some q =>
    have hq := hp q rfl
    have hbits := hq.bits
    simp only [feed]
    split
    · rename_i hb
      have hlow : q.low.toNat ≤ b.toNat := UInt8.le_iff_toNat_le.mp hb.1
      have hnext : 2 ≤ q.bits * 64 + (b.toNat - 0x80) := by omega
      split
      · simp
      · intro r hr
        obtain rfl := (Option.some.inj hr).symm
        refine ⟨by simp, ?_, ?_⟩ <;> simp only [UInt8.reduceToNat] <;> omega
    · exact start_wide

/-- Every character but NUL has one number only; a number that is no character at all counts as NUL. -/
theorem eq_toNat_of_ofNat {n : Nat} {c : Char} (hc : c ≠ '\x00') (h : Char.ofNat n = c) : n = c.toNat := by
  by_cases hvalid : n.isValidChar
  · rw [Char.ofNat, dif_pos hvalid] at h
    exact congrArg Char.toNat h
  · rw [Char.ofNat, dif_neg hvalid] at h
    exact absurd h.symm hc

theorem newline_notMem_start {b : UInt8} (hb : b ≠ Lines.newline) : some '\n' ∉ (start b).1 := by
  unfold start
  split_ifs <;> simp
  intro heq
  exact hb (UInt8.toNat_inj.mp (eq_toNat_of_ofNat (by decide) heq.symm))

theorem newline_notMem_feed {p : Option Pending} {b : UInt8} (hp : ∀ q ∈ p, q.Wide) (hb : b ≠ Lines.newline) :
    some '\n' ∉ (feed p b).1 := by
  cases p with
  | none => exact newline_notMem_start hb
  | some q =>
    have hq := hp q rfl
    simp only [feed]
    split
    · rename_i hrange
      have hlow : q.low.toNat ≤ b.toNat := UInt8.le_iff_toNat_le.mp hrange.1
      split
      · rename_i hafter
        have hlast := hq.last hafter
        simp only [List.mem_singleton, Option.some.injEq]
        intro heq
        have hbits := eq_toNat_of_ofNat (by decide) heq.symm
        rw [show '\n'.toNat = 10 from rfl] at hbits
        omega
      · simp
    · simpa using newline_notMem_start hb

/-- A newline byte is read as a newline, after one invalid subpart if a character was left unfinished. -/
theorem feed_newline {p : Option Pending} (hp : ∀ q ∈ p, q.Wide) :
    feed p Lines.newline = (p.toList.map (fun _ => none) ++ [some '\n'], none) := by
  cases p with
  | none => decide
  | some q =>
    have hlow := (hp q rfl).low
    have hout : ¬(q.low ≤ Lines.newline ∧ Lines.newline ≤ q.high) := by
      rintro ⟨hle, -⟩
      have := UInt8.le_iff_toNat_le.mp hle
      simp [Lines.newline] at this
      omega
    have hstart : start Lines.newline = ([some '\n'], none) := by decide
    simp [feed, hout, hstart]

theorem piecesFrom_append_newline {p : Option Pending} (hp : ∀ q ∈ p, q.Wide) (bs cs : Bytes) :
    piecesFrom p (bs ++ Lines.newline :: cs) = piecesFrom p bs ++ some '\n' :: pieces cs := by
  induction bs generalizing p with
  | nil =>
    cases p <;> simp [piecesFrom, feed_newline hp, pieces]
  | cons b bs ih => simp [piecesFrom, ih (feed_wide hp)]

theorem newline_notMem_piecesFrom {p : Option Pending} (hp : ∀ q ∈ p, q.Wide) {bs : Bytes}
    (h : Lines.newline ∉ bs) : some '\n' ∉ piecesFrom p bs := by
  induction bs generalizing p with
  | nil => cases p <;> simp [piecesFrom]
  | cons b bs ih =>
    simp only [List.mem_cons, not_or] at h
    simp only [piecesFrom, List.mem_append, not_or]
    exact ⟨newline_notMem_feed hp (Ne.symm h.1), ih (feed_wide hp) h.2⟩

theorem decodeLossy_append_newline (bs cs : Bytes) :
    decodeLossy (bs ++ Lines.newline :: cs) = decodeLossy bs ++ "\n" ++ decodeLossy cs := by
  rw [← String.toList_inj]
  simp [decodeLossy, pieces, piecesFrom_append_newline]

theorem newline_notMem_decodeLossy {bs : Bytes} (h : Lines.newline ∉ bs) : '\n' ∉ (decodeLossy bs).toList := by
  have hpieces := newline_notMem_piecesFrom (p := none) (by simp) h
  simp only [decodeLossy, String.toList_ofList, List.mem_map, not_exists, not_and]
  rintro (_ | c) hc heq
  · simp [replacement] at heq
  · rw [Option.getD_some] at heq
    exact hpieces (heq ▸ hc)

end Utf8

namespace Lines

theorem split_cons (b : UInt8) (bs : Bytes) :
    split (b :: bs) = if b = newline then [b] :: split bs else extend b (split bs) := rfl

theorem split_ne_nil {bs : Bytes} (h : bs ≠ []) : split bs ≠ [] := by
  cases bs with
  | nil => exact absurd rfl h
  | cons b bs =>
    rw [split_cons]
    split
    · simp
    · cases split bs <;> simp [extend]

theorem extend_append {b : UInt8} {xs : List Bytes} (h : xs ≠ []) (ys : List Bytes) :
    extend b (xs ++ ys) = extend b xs ++ ys := by
  cases xs with
  | nil => exact absurd rfl h
  | cons x xs => rfl

/-- Sources are cut one after the other if the first one ends where a line does. -/
theorem split_append {as bs : Bytes} (h : as = [] ∨ as.getLast? = some newline) :
    split (as ++ bs) = split as ++ split bs := by
  induction as with
  | nil => rfl
  | cons a as ih =>
    cases as with
    | nil =>
      have ha : a = newline := by simpa using h
      simp [split, ha]
    | cons a' as =>
      have hsplit := ih (.inr (by simpa using h))
      rw [List.cons_append, split_cons, split_cons, hsplit]
      split
      · rfl
      · exact extend_append (split_ne_nil (by simp)) _

/-- A last line without a newline gets it, and no other line changes. -/
theorem split_append_newline {bs : Bytes} (hne : bs ≠ []) (hlast : bs.getLast? ≠ some newline) :
    ∃ lines line, split bs = lines ++ [line] ∧ newline ∉ line ∧
      split (bs ++ [newline]) = lines ++ [line ++ [newline]] := by
  induction bs with
  | nil => exact absurd rfl hne
  | cons b bs ih =>
    cases bs with
    | nil =>
      have hb : b ≠ newline := by simpa using hlast
      exact ⟨[], [b], by simp [split, hb, extend], by simpa using hb.symm, by simp [split, hb, extend]⟩
    | cons b' bs =>
      obtain ⟨lines, line, hsplit, hmem, hnew⟩ := ih (by simp) (by simpa using hlast)
      rw [List.cons_append, split_cons b (b' :: bs), split_cons b (b' :: bs ++ [newline]), hsplit, hnew]
      by_cases hb : b = newline
      · exact ⟨[b] :: lines, line, by simp [hb], hmem, by simp [hb]⟩
      · cases lines with
        | nil => exact ⟨[], b :: line, by simp [hb, extend], by simp [hmem, Ne.symm hb], by simp [hb, extend]⟩
        | cons l lines => exact ⟨(b :: l) :: lines, line, by simp [hb, extend], hmem, by simp [hb, extend]⟩

theorem decode_append {as bs : Bytes} (h : as = [] ∨ as.getLast? = some newline) :
    decode (as ++ bs) = decode as ++ decode bs := by
  rw [decode, split_append h, List.map_append, decode, decode]

theorem decode_append_newline {bs : Bytes} (hne : bs ≠ []) (hlast : bs.getLast? ≠ some newline) :
    ∃ lines line, decode bs = lines ++ [line] ∧ '\n' ∉ line.toList ∧
      decode (bs ++ [newline]) = lines ++ [line ++ "\n"] := by
  obtain ⟨lines, line, hsplit, hmem, hnew⟩ := split_append_newline hne hlast
  refine ⟨lines.map Utf8.decodeLossy, Utf8.decodeLossy line, ?_, Utf8.newline_notMem_decodeLossy hmem, ?_⟩
  · rw [decode, hsplit, List.map_append, List.map_singleton]
  · have hempty : Utf8.decodeLossy [] = "" := rfl
    rw [decode, hnew, List.map_append, List.map_singleton, Utf8.decodeLossy_append_newline, hempty, String.append_empty]

end Lines
end LineShell
