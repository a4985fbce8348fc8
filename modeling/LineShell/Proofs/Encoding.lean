import Mathlib.Tactic.SplitIfs
import LineShell.Text.Utf8

/-!
What reading bytes means. A character stands where it is written, and where none is written, the longest
piece that begins one, or else a single byte, is bad input. These two rules say how any bytes are to be
read (`Reads`), and the reader reads them so. Hence bytes are a text just if they are what the text is
written as, and writing keeps the order of texts.
-/

namespace LineShell.Utf8

open String (utf8EncodeChar)

/-! ### How characters are written -/

theorem toNat_valid (c : Char) : c.toNat < 0xD800 ∨ 0xDFFF < c.toNat ∧ c.toNat < 0x110000 := c.valid

theorem eq_ofNat_iff {n : Nat} {c : Char} (h : n < 0xD800 ∨ 0xDFFF < n ∧ n < 0x110000) :
    c = Char.ofNat n ↔ c.toNat = n := by
  constructor
  · rintro rfl
    rw [Char.ofNat, dif_pos h]
    rfl
  · rintro rfl
    exact (Char.ofNat_toNat c).symm

/-- The four forms of a character. A longer form is for a number that is too large for the shorter ones. -/
theorem encodeChar_eq_cons_iff {c : Char} {b : UInt8} {tail : Bytes} :
    utf8EncodeChar c = b :: tail ↔
      (tail = [] ∧ b.toNat < 0x80 ∧ c.toNat = b.toNat) ∨
      (∃ t, tail = [t] ∧ (0xC2 ≤ b.toNat ∧ b.toNat ≤ 0xDF) ∧ (0x80 ≤ t.toNat ∧ t.toNat ≤ 0xBF) ∧
        c.toNat = (b.toNat - 0xC0) * 64 + (t.toNat - 0x80)) ∨
      (∃ t u, tail = [t, u] ∧ (0xE0 ≤ b.toNat ∧ b.toNat ≤ 0xEF) ∧ (0x80 ≤ t.toNat ∧ t.toNat ≤ 0xBF) ∧
        (0x80 ≤ u.toNat ∧ u.toNat ≤ 0xBF) ∧ 0x800 ≤ c.toNat ∧
        c.toNat = ((b.toNat - 0xE0) * 64 + (t.toNat - 0x80)) * 64 + (u.toNat - 0x80)) ∨
      (∃ t u w, tail = [t, u, w] ∧ (0xF0 ≤ b.toNat ∧ b.toNat ≤ 0xF4) ∧
        (0x80 ≤ t.toNat ∧ t.toNat ≤ 0xBF) ∧ (0x80 ≤ u.toNat ∧ u.toNat ≤ 0xBF) ∧
        (0x80 ≤ w.toNat ∧ w.toNat ≤ 0xBF) ∧ 0x10000 ≤ c.toNat ∧
        c.toNat = (((b.toNat - 0xF0) * 64 + (t.toNat - 0x80)) * 64 + (u.toNat - 0x80)) * 64
          + (w.toNat - 0x80)) := by
  have hv := toNat_valid c
  rw [utf8EncodeChar, show c.val.toNat = c.toNat from rfl]
  constructor
  · intro h
    split_ifs at h <;> simp only [List.cons.injEq, ← UInt8.toNat_inj, UInt8.toNat_ofNat'] at h <;>
      obtain ⟨hb, rfl⟩ := h
    · exact .inl ⟨rfl, by omega, by omega⟩
    · refine .inr (.inl ⟨_, rfl, ?_⟩)
      simp only [UInt8.toNat_ofNat']
      omega
    · refine .inr (.inr (.inl ⟨_, _, rfl, ?_⟩))
      simp only [UInt8.toNat_ofNat']
      omega
    · refine .inr (.inr (.inr ⟨_, _, _, rfl, ?_⟩))
      simp only [UInt8.toNat_ofNat']
      omega
  · rintro (⟨rfl, hb, hc⟩ | ⟨t, rfl, hb, ht, hc⟩ | ⟨t, u, rfl, hb, ht, hu, hlow, hc⟩ |
      ⟨t, u, w, rfl, hb, ht, hu, hw, hlow, hc⟩)
    · rw [if_pos (by omega)]
      simp only [List.cons.injEq, ← UInt8.toNat_inj, UInt8.toNat_ofNat', and_true]
      omega
    · rw [if_neg (by omega), if_pos (by omega)]
      simp only [List.cons.injEq, ← UInt8.toNat_inj, UInt8.toNat_ofNat', and_true]
      omega
    · rw [if_neg (by omega), if_neg (by omega), if_pos (by omega)]
      simp only [List.cons.injEq, ← UInt8.toNat_inj, UInt8.toNat_ofNat', and_true]
      omega
    · rw [if_neg (by omega), if_neg (by omega), if_neg (by omega)]
      simp only [List.cons.injEq, ← UInt8.toNat_inj, UInt8.toNat_ofNat', and_true]
      omega

/-! ### How characters are read -/

/-- A byte that begins a longer character, and what it then waits for. -/
inductive Leads (b : UInt8) (p : Pending) : Prop
  | two (hb : 0xC2 ≤ b.toNat ∧ b.toNat ≤ 0xDF) (hafter : p.after = 0) (hbits : p.bits = b.toNat - 0xC0)
    (hrange : ∀ t, p.low ≤ t ∧ t ≤ p.high ↔ 0x80 ≤ t.toNat ∧ t.toNat ≤ 0xBF)
  | three (hb : 0xE0 ≤ b.toNat ∧ b.toNat ≤ 0xEF) (hafter : p.after = 1) (hbits : p.bits = b.toNat - 0xE0)
    (hrange : ∀ t, p.low ≤ t ∧ t ≤ p.high ↔ (0x80 ≤ t.toNat ∧ t.toNat ≤ 0xBF) ∧
      (b.toNat = 0xE0 → 0xA0 ≤ t.toNat) ∧ (b.toNat = 0xED → t.toNat ≤ 0x9F))
  | four (hb : 0xF0 ≤ b.toNat ∧ b.toNat ≤ 0xF4) (hafter : p.after = 2) (hbits : p.bits = b.toNat - 0xF0)
    (hrange : ∀ t, p.low ≤ t ∧ t ≤ p.high ↔ (0x80 ≤ t.toNat ∧ t.toNat ≤ 0xBF) ∧
      (b.toNat = 0xF0 → 0x90 ≤ t.toNat) ∧ (b.toNat = 0xF4 → t.toNat ≤ 0x8F))

theorem start_cases (b : UInt8) :
    (b.toNat < 0x80 ∧ start b = ([some (Char.ofNat b.toNat)], none)) ∨
      (∃ p, start b = ([], some p) ∧ Leads b p) ∨
      ((0x80 ≤ b.toNat ∧ b.toNat < 0xC2 ∨ 0xF4 < b.toNat) ∧ start b = ([none], none)) := by
  unfold start
  simp only [UInt8.le_iff_toNat_le, UInt8.lt_iff_toNat_lt, ← UInt8.toNat_inj, UInt8.reduceToNat]
  split_ifs with h1 h2 h3 h4 h5 h6 h7 h8
  · exact .inl ⟨h1, rfl⟩
  · exact .inr (.inl ⟨_, rfl, .two h2 rfl rfl (by simp [UInt8.le_iff_toNat_le])⟩)
  · refine .inr (.inl ⟨_, rfl, .three (by omega) rfl (by dsimp only; omega) fun t => ?_⟩)
    simp only [UInt8.le_iff_toNat_le, UInt8.reduceToNat]
    omega
  · refine .inr (.inl ⟨_, rfl, .three (by omega) rfl (by dsimp only; omega) fun t => ?_⟩)
    simp only [UInt8.le_iff_toNat_le, UInt8.reduceToNat]
    omega
  · refine .inr (.inl ⟨_, rfl, .three (by omega) rfl rfl fun t => ?_⟩)
    simp only [UInt8.le_iff_toNat_le, UInt8.reduceToNat]
    omega
  · refine .inr (.inl ⟨_, rfl, .four (by omega) rfl (by dsimp only; omega) fun t => ?_⟩)
    simp only [UInt8.le_iff_toNat_le, UInt8.reduceToNat]
    omega
  · refine .inr (.inl ⟨_, rfl, .four (by omega) rfl rfl fun t => ?_⟩)
    simp only [UInt8.le_iff_toNat_le, UInt8.reduceToNat]
    omega
  · refine .inr (.inl ⟨_, rfl, .four (by omega) rfl (by dsimp only; omega) fun t => ?_⟩)
    simp only [UInt8.le_iff_toNat_le, UInt8.reduceToNat]
    omega
  · exact .inr (.inr ⟨by omega, rfl⟩)

/-- The bytes that take an unfinished character to its end. -/
def Completes (c : Char) : Pending → Bytes → Prop
  | _, [] => False
  | p, b :: bs =>
    (p.low ≤ b ∧ b ≤ p.high) ∧
      match p.after with
      | 0 => bs = [] ∧ c = Char.ofNat (p.bits * 64 + (b.toNat - 0x80))
      | n + 1 => Completes c ⟨0x80, 0xBF, n, p.bits * 64 + (b.toNat - 0x80)⟩ bs

theorem range_iff (t : UInt8) : 0x80 ≤ t ∧ t ≤ 0xBF ↔ 0x80 ≤ t.toNat ∧ t.toNat ≤ 0xBF := by
  simp only [UInt8.le_iff_toNat_le, UInt8.reduceToNat]

section
variable {p : Pending} {c : Char} {tail : Bytes}

theorem completes_last (hafter : p.after = 0) :
    Completes c p tail ↔
      ∃ t, tail = [t] ∧ (p.low ≤ t ∧ t ≤ p.high) ∧ c = Char.ofNat (p.bits * 64 + (t.toNat - 0x80)) := by
  rcases tail with _ | ⟨t, tail⟩
  · simp [Completes]
  · simp only [Completes, hafter, List.cons.injEq]
    constructor
    · rintro ⟨ht, rfl, hc⟩
      exact ⟨t, ⟨rfl, rfl⟩, ht, hc⟩
    · rintro ⟨t, ⟨rfl, rfl⟩, ht, hc⟩
      exact ⟨ht, rfl, hc⟩

theorem completes_more {n : Nat} (hafter : p.after = n + 1) :
    Completes c p tail ↔
      ∃ t rest, tail = t :: rest ∧ (p.low ≤ t ∧ t ≤ p.high) ∧
        Completes c ⟨0x80, 0xBF, n, p.bits * 64 + (t.toNat - 0x80)⟩ rest := by
  rcases tail with _ | ⟨t, tail⟩
  · simp [Completes]
  · simp only [Completes, hafter, List.cons.injEq]
    constructor
    · rintro ⟨ht, hrest⟩
      exact ⟨t, tail, ⟨rfl, rfl⟩, ht, hrest⟩
    · rintro ⟨t, tail, ⟨rfl, rfl⟩, ht, hrest⟩
      exact ⟨ht, hrest⟩

end

theorem completes_iff_of_leads {b : UInt8} {p : Pending} {c : Char} {tail : Bytes} (h : Leads b p) :
    Completes c p tail ↔ utf8EncodeChar c = b :: tail := by
  have hv := toNat_valid c
  rw [encodeChar_eq_cons_iff]
  cases h with
  | two hb hafter hbits hrange =>
    simp only [completes_last hafter, hbits, hrange]
    constructor
    · rintro ⟨t, rfl, ht, hc⟩
      exact .inr (.inl ⟨t, rfl, hb, ht, (eq_ofNat_iff (by omega)).mp hc⟩)
    · rintro (⟨rfl, hb', hc⟩ | ⟨t, rfl, hb', ht, hc⟩ | ⟨t, u, rfl, hb', -⟩ | ⟨t, u, w, rfl, hb', -⟩)
      · omega
      · exact ⟨t, rfl, ht, (eq_ofNat_iff (by omega)).mpr hc⟩
      · omega
      · omega
  | three hb hafter hbits hrange =>
    simp only [completes_more hafter, completes_last, hbits, hrange, range_iff]
    constructor
    · rintro ⟨t, _, rfl, ht, u, rfl, hu, hc⟩
      have hc' := (eq_ofNat_iff (by omega)).mp hc
      exact .inr (.inr (.inl ⟨t, u, rfl, hb, ht.1, hu, by omega, hc'⟩))
    · rintro (⟨rfl, hb', hc⟩ | ⟨t, rfl, hb', -⟩ | ⟨t, u, rfl, hb', ht, hu, hlow, hc⟩ | ⟨t, u, w, rfl, hb', -⟩)
      · omega
      · omega
      · exact ⟨t, _, rfl, by omega, u, rfl, hu, (eq_ofNat_iff (by omega)).mpr hc⟩
      · omega
  | four hb hafter hbits hrange =>
    simp only [completes_more hafter, completes_more (n := 0), completes_last, hbits, hrange, range_iff]
    constructor
    · rintro ⟨t, _, rfl, ht, u, _, rfl, hu, w, rfl, hw, hc⟩
      have hc' := (eq_ofNat_iff (by omega)).mp hc
      exact .inr (.inr (.inr ⟨t, u, w, rfl, hb, ht.1, hu, hw, by omega, hc'⟩))
    · rintro (⟨rfl, hb', hc⟩ | ⟨t, rfl, hb', -⟩ | ⟨t, u, rfl, hb', -⟩ |
        ⟨t, u, w, rfl, hb', ht, hu, hw, hlow, hc⟩)
      · omega
      · omega
      · omega
      · exact ⟨t, _, rfl, by omega, u, _, rfl, hu, w, rfl, hw, (eq_ofNat_iff (by omega)).mpr hc⟩

theorem encodeChar_cases {c : Char} {b : UInt8} {tail : Bytes} (h : utf8EncodeChar c = b :: tail) :
    (start b = ([some c], none) ∧ tail = []) ∨ ∃ p, start b = ([], some p) ∧ Completes c p tail := by
  rcases start_cases b with ⟨hb, hstart⟩ | ⟨p, hstart, hleads⟩ | ⟨hb, hstart⟩
  · rcases encodeChar_eq_cons_iff.mp h with
      ⟨rfl, -, hc⟩ | ⟨t, -, hb', -⟩ | ⟨t, u, -, hb', -⟩ | ⟨t, u, w, -, hb', -⟩
    · rw [← hc, Char.ofNat_toNat] at hstart
      exact .inl ⟨hstart, rfl⟩
    · omega
    · omega
    · omega
  · exact .inr ⟨p, hstart, (completes_iff_of_leads hleads).mpr h⟩
  · rcases encodeChar_eq_cons_iff.mp h with
      ⟨-, hb', -⟩ | ⟨t, -, hb', -⟩ | ⟨t, u, -, hb', -⟩ | ⟨t, u, w, -, hb', -⟩ <;> omega

theorem eq_of_completes {c d : Char} {p : Pending} {tail more : Bytes} (hc : Completes c p tail)
    (hd : Completes d p (tail ++ more)) : c = d := by
  induction tail generalizing p with
  | nil => cases hc
  | cons t tail ih =>
    cases hafter : p.after with
    | zero =>
      simp only [Completes, List.cons_append, hafter] at hc hd
      rw [hc.2.2, hd.2.2]
    | succ n =>
      simp only [Completes, List.cons_append, hafter] at hc hd
      exact ih hc.2 hd.2

/-- No character is written as the beginning of another one. -/
theorem encodeChar_prefix_inj {c d : Char} (h : utf8EncodeChar c <+: utf8EncodeChar d) : c = d := by
  obtain ⟨more, hmore⟩ := h
  cases hc : utf8EncodeChar c with
  | nil => exact absurd hc String.utf8EncodeChar_ne_nil
  | cons b tail =>
    rw [hc, List.cons_append] at hmore
    rcases encodeChar_cases hc with ⟨hstart, -⟩ | ⟨p, hstart, hcomplete⟩ <;>
      rcases encodeChar_cases hmore.symm with ⟨hstart', -⟩ | ⟨p', hstart', hcomplete'⟩ <;>
      rw [hstart] at hstart' <;> cases hstart'
    · rfl
    · exact eq_of_completes hcomplete hcomplete'

/-! ### How bytes are to be read -/

/-- The bytes begin what some character is written as. -/
def Begins (bs : Bytes) : Prop := ∃ c, bs <+: utf8EncodeChar c

/-- A piece of bad input, in front of what follows it: no character is written there, and the piece is the
longest that begins one, or a single byte. -/
structure Invalid (bad rest : Bytes) : Prop where
  ne_nil : bad ≠ []
  begins : Begins bad ∨ bad.length = 1
  noChar : ∀ c, ¬utf8EncodeChar c <+: bad ++ rest
  longest : ∀ more, more <+: bad ++ rest → Begins more → more.length ≤ bad.length

/-- How bytes are to be read: as the characters written in them and the pieces of bad input between them. -/
inductive Reads : Bytes → List Piece → Prop
  | nil : Reads [] []
  | char (c : Char) {bs : Bytes} {ps : List Piece} (hrest : Reads bs ps) :
    Reads (utf8EncodeChar c ++ bs) (some c :: ps)
  | bad {bad bs : Bytes} {ps : List Piece} (hbad : Invalid bad bs) (hrest : Reads bs ps) :
    Reads (bad ++ bs) (none :: ps)

/-- The reader has read these bytes, and waits for the rest of a character that they begin. -/
structure Holds (read : Bytes) (p : Pending) : Prop where
  ne_nil : read ≠ []
  range : p.low ≤ p.high
  completes : ∀ c tail, Completes c p tail ↔ utf8EncodeChar c = read ++ tail

theorem Invalid.length_le {bad bad' bs bs' : Bytes} (h' : Invalid bad' bs') (h : Invalid bad bs)
    (hsame : bad ++ bs = bad' ++ bs') : bad.length ≤ bad'.length := by
  rcases h.begins with hbegins | hone
  · exact h'.longest bad (hsame ▸ List.prefix_append _ _) hbegins
  · rw [hone]
    exact List.length_pos_iff.mpr h'.ne_nil

theorem exists_completes {p : Pending} (hrange : p.low ≤ p.high) : ∃ c tail, Completes c p tail := by
  obtain ⟨low, high, after, bits⟩ := p
  induction after generalizing low high bits with
  | zero => exact ⟨_, [low], ⟨UInt8.le_refl _, hrange⟩, rfl, rfl⟩
  | succ n ih =>
    have hnext : (0x80 : UInt8) ≤ 0xBF := by decide
    obtain ⟨c, tail, hrest⟩ := ih 0x80 0xBF (bits * 64 + (low.toNat - 0x80)) hnext
    exact ⟨c, low :: tail, ⟨UInt8.le_refl _, hrange⟩, hrest⟩

theorem range_of_start {b : UInt8} {p : Pending} (h : start b = ([], some p)) : p.low ≤ p.high := by
  unfold start at h
  split_ifs at h <;> cases h <;> dsimp only <;> decide

section
variable {read bs : Bytes} {p : Pending} {b : UInt8}

theorem Holds.next {n : Nat} (h : Holds read p) (hb : p.low ≤ b ∧ b ≤ p.high) (hafter : p.after = n + 1) :
    Holds (read ++ [b]) ⟨0x80, 0xBF, n, p.bits * 64 + (b.toNat - 0x80)⟩ where
  ne_nil := by simp
  range := show (0x80 : UInt8) ≤ 0xBF by decide
  completes c tail := by
    rw [List.append_assoc, List.singleton_append, ← h.completes]
    simp [Completes, hafter, hb]

theorem Holds.last (h : Holds read p) (hb : p.low ≤ b ∧ b ≤ p.high) (hafter : p.after = 0) :
    utf8EncodeChar (Char.ofNat (p.bits * 64 + (b.toNat - 0x80))) = read ++ [b] := by
  rw [← h.completes]
  simp [Completes, hafter, hb]

theorem Holds.begins (h : Holds read p) : Begins read := by
  obtain ⟨c, tail, hc⟩ := exists_completes h.range
  exact ⟨c, tail, ((h.completes c tail).mp hc).symm⟩

theorem Holds.inRange {c : Char} (h : Holds read p) (hb : read ++ b :: bs <+: utf8EncodeChar c) :
    p.low ≤ b ∧ b ≤ p.high := by
  obtain ⟨tail, htail⟩ := hb
  rw [List.append_assoc] at htail
  exact ((h.completes c _).mpr htail.symm).1

theorem Holds.invalid (h : Holds read p) (hout : ∀ b ∈ bs.head?, ¬(p.low ≤ b ∧ b ≤ p.high)) :
    Invalid read bs := by
  have hlongest : ∀ more, more <+: read ++ bs → Begins more → more.length ≤ read.length := by
    rintro more hmore ⟨c, hc⟩
    refine Nat.le_of_not_lt fun hlong => ?_
    obtain ⟨extra, rfl⟩ := List.prefix_of_prefix_length_le (List.prefix_append _ _) hmore (Nat.le_of_lt hlong)
    cases extra with
    | nil => simp at hlong
    | cons b extra =>
      obtain ⟨rest, rfl⟩ := (List.prefix_append_right_inj read).mp hmore
      exact hout b rfl (h.inRange hc)
  refine ⟨h.ne_nil, .inl h.begins, fun c hc => ?_, hlongest⟩
  -- A character that is written there is no longer than what has been read, which begins another one.
  have hread := List.prefix_of_prefix_length_le hc (List.prefix_append _ _)
    (hlongest _ hc ⟨c, List.prefix_rfl⟩)
  obtain ⟨d, hd⟩ := h.begins
  obtain rfl := encodeChar_prefix_inj (hread.trans hd)
  have hsame : utf8EncodeChar c = read ++ [] := by
    rw [List.append_nil]
    exact hread.eq_of_length_le hd.length_le
  exact ((h.completes c []).mpr hsame).elim

end

/-- By induction on what is left, with any beginning of a character read before it. -/
theorem reads_piecesFrom (bs : Bytes) :
    Reads bs (pieces bs) ∧ ∀ read p, Holds read p → Reads (read ++ bs) (piecesFrom (some p) bs) := by
  induction bs with
  | nil => exact ⟨.nil, fun read p h => .bad (h.invalid (by simp)) .nil⟩
  | cons b bs ih =>
    have hfirst : Reads (b :: bs) (pieces (b :: bs)) := by
      rw [pieces, piecesFrom, feed]
      rcases start_cases b with ⟨hb, hstart⟩ | ⟨p, hstart, hleads⟩ | ⟨hb, hstart⟩ <;> rw [hstart]
      · have hc : utf8EncodeChar (Char.ofNat b.toNat) = [b] := by
          refine encodeChar_eq_cons_iff.mpr (.inl ⟨rfl, hb, ?_⟩)
          exact (eq_ofNat_iff (by omega)).mp rfl
        have hread := Reads.char (Char.ofNat b.toNat) ih.1
        rwa [hc] at hread
      · refine ih.2 [b] p ⟨List.cons_ne_nil _ _, range_of_start hstart, ?_⟩
        exact fun c tail => completes_iff_of_leads hleads
      · have hno : ∀ c tail, utf8EncodeChar c ≠ b :: tail := by
          intro c tail hc
          rcases encodeChar_cases hc with ⟨hstart', -⟩ | ⟨p, hstart', -⟩ <;> cases hstart.symm.trans hstart'
        have hbegins : ∀ more, more <+: b :: bs → Begins more → more = [] := by
          rintro (_ | ⟨b', more⟩) hmore ⟨c, tail, hc⟩
          · rfl
          · obtain ⟨rfl, -⟩ := List.cons_prefix_cons.mp hmore
            exact absurd hc.symm (hno c _)
        have hbad : Invalid [b] bs := by
          refine ⟨List.cons_ne_nil _ _, .inr rfl, fun c hc => ?_, fun more hmore h => ?_⟩
          · exact String.utf8EncodeChar_ne_nil (hbegins _ hc ⟨c, List.prefix_rfl⟩)
          · rw [hbegins more hmore h]
            exact Nat.zero_le _
        exact .bad hbad ih.1
    refine ⟨hfirst, fun read p h => ?_⟩
    by_cases hb : p.low ≤ b ∧ b ≤ p.high
    · cases hafter : p.after with
      | zero =>
        have hread := Reads.char (Char.ofNat (p.bits * 64 + (b.toNat - 0x80))) ih.1
        rw [h.last hb hafter, List.append_assoc, List.singleton_append] at hread
        simpa [pieces, piecesFrom, feed, hb, hafter] using hread
      | succ n =>
        have hread := ih.2 _ _ (h.next hb hafter)
        rw [List.append_assoc, List.singleton_append] at hread
        simpa [pieces, piecesFrom, feed, hb, hafter] using hread
    · have hinvalid : Invalid read (b :: bs) := h.invalid (by simpa using hb)
      have hread := Reads.bad hinvalid hfirst
      simpa [piecesFrom, feed, hb, pieces] using hread

theorem Reads.unique {bs : Bytes} {ps qs : List Piece} (h : Reads bs ps) (h' : Reads bs qs) : ps = qs := by
  induction h generalizing qs with
  | nil =>
    generalize hbs : ([] : Bytes) = bs at h'
    cases h' with
    | nil => rfl
    | char d hrest => exact absurd (List.append_eq_nil_iff.mp hbs.symm).1 String.utf8EncodeChar_ne_nil
    | bad hbad hrest => exact absurd (List.append_eq_nil_iff.mp hbs.symm).1 hbad.ne_nil
  | @char c bs ps hrest ih =>
    generalize hbs : utf8EncodeChar c ++ bs = all at h'
    cases h' with
    | nil => exact absurd (List.append_eq_nil_iff.mp hbs).1 String.utf8EncodeChar_ne_nil
    | @char d bs' qs hrest' =>
      have hsame : c = d := by
        rcases List.prefix_or_prefix_of_prefix ⟨bs, hbs⟩ (List.prefix_append _ _) with hcd | hdc
        · exact encodeChar_prefix_inj hcd
        · exact (encodeChar_prefix_inj hdc).symm
      subst hsame
      rw [ih (List.append_cancel_left hbs ▸ hrest')]
    | bad hbad hrest' => exact absurd ⟨bs, hbs⟩ (hbad.noChar c)
  | @bad bad bs ps hbad hrest ih =>
    generalize hbs : bad ++ bs = all at h'
    cases h' with
    | nil => exact absurd (List.append_eq_nil_iff.mp hbs).1 hbad.ne_nil
    | char d hrest' => exact absurd ⟨_, hbs.symm⟩ (hbad.noChar d)
    | @bad bad' bs' qs hbad' hrest' =>
      have hle := hbad'.length_le hbad hbs
      have hle' := hbad.length_le hbad' hbs.symm
      obtain ⟨rfl, rfl⟩ := List.append_inj hbs (by omega)
      rw [ih hrest']

theorem reads_iff {bs : Bytes} {ps : List Piece} : Reads bs ps ↔ ps = pieces bs :=
  ⟨fun h => h.unique (reads_piecesFrom bs).1, fun h => h ▸ (reads_piecesFrom bs).1⟩

/-! ### Texts -/

theorem mapM_id_eq_some {ps : List Piece} {cs : List Char} : ps.mapM id = some cs ↔ ps = cs.map some := by
  induction ps generalizing cs with
  | nil => cases cs <;> simp
  | cons piece ps ih =>
    rw [List.mapM_cons]
    cases piece with
    | none => cases cs <;> simp
    | some d =>
      simp only [id_eq, Option.pure_def, Option.bind_eq_bind, Option.bind_some, Option.bind_eq_some_iff,
        Option.some.injEq, ih]
      constructor
      · rintro ⟨_, rfl, rfl⟩
        rfl
      · intro h
        obtain ⟨c, tail, rfl, hc, rfl⟩ := List.map_eq_cons_iff.mp h.symm
        exact ⟨tail, rfl, by rw [Option.some.inj hc]⟩

theorem reads_characters_iff {bs : Bytes} {cs : List Char} :
    Reads bs (cs.map some) ↔ bs = cs.flatMap utf8EncodeChar := by
  constructor
  · intro h
    generalize hps : cs.map some = ps at h
    induction h generalizing cs with
    | nil =>
      obtain rfl := List.map_eq_nil_iff.mp hps
      rfl
    | char c hrest ih =>
      obtain ⟨d, ds, rfl, hd, hds⟩ := List.map_eq_cons_iff.mp hps
      cases hd
      rw [List.flatMap_cons, ← ih hds]
    | bad hbad hrest ih =>
      obtain ⟨d, ds, rfl, hd, hds⟩ := List.map_eq_cons_iff.mp hps
      cases hd
  · rintro rfl
    induction cs with
    | nil => exact .nil
    | cons c cs ih => exact .char c ih

theorem decode?_eq_some_iff {bs : Bytes} {s : String} : decode? bs = some s ↔ bs = encode s := by
  rw [encode, ← reads_characters_iff, reads_iff, decode?, Option.map_eq_some_iff]
  constructor
  · rintro ⟨cs, hcs, rfl⟩
    rw [String.toList_ofList, mapM_id_eq_some.mp hcs]
  · intro h
    exact ⟨s.toList, mapM_id_eq_some.mpr h.symm, String.ofList_toList⟩

/-- Several bytes are texts if each of them is. -/
theorem mapM_decode?_eq_some_iff {args : List Bytes} {texts : List String} :
    args.mapM decode? = some texts ↔ args = texts.map encode := by
  induction args generalizing texts with
  | nil => cases texts <;> simp
  | cons bs args ih =>
    simp only [List.mapM_cons, Option.pure_def, Option.bind_eq_bind, Option.bind_eq_some_iff, Option.some.injEq, ih,
      decode?_eq_some_iff]
    constructor
    · rintro ⟨text, rfl, texts, rfl, rfl⟩
      rfl
    · intro h
      cases texts with
      | nil => cases h
      | cons text texts =>
        obtain ⟨rfl, rfl⟩ := List.cons.inj h
        exact ⟨text, rfl, texts, rfl, rfl⟩

theorem exists_notText_of_mapM {args : List Bytes} (h : args.mapM decode? = none) :
    ∃ bs ∈ args, ∀ text, bs ≠ encode text := by
  induction args with
  | nil => cases h
  | cons bs args ih =>
    cases hbs : decode? bs with
    | none =>
      refine ⟨bs, List.mem_cons_self, ?_⟩
      rintro text rfl
      cases hbs.symm.trans (decode?_eq_some_iff.mpr rfl)
    | some text =>
      have hrest : args.mapM decode? = none := by
        exact Option.eq_none_iff_forall_ne_some.mpr (by simpa [List.mapM_cons, hbs] using h)
      obtain ⟨bs', hmem, hno⟩ := ih hrest
      exact ⟨bs', List.mem_cons_of_mem _ hmem, hno⟩
theorem encode_injective {s t : String} (h : encode s = encode t) : s = t :=
  Option.some.inj ((decode?_eq_some_iff.mpr rfl).symm.trans (decode?_eq_some_iff.mpr h))

theorem decodeLossy_encode (s : String) : decodeLossy (encode s) = s := by
  have h := reads_iff.mp (reads_characters_iff.mpr (rfl : encode s = s.toList.flatMap utf8EncodeChar))
  rw [decodeLossy, ← h]
  simp [Function.comp_def]

theorem eq_singleton_of_mem {c : Char} {b : UInt8} (hb : b.toNat < 0x80) (hmem : b ∈ utf8EncodeChar c) :
    utf8EncodeChar c = [b] := by
  cases hc : utf8EncodeChar c with
  | nil => exact absurd hc String.utf8EncodeChar_ne_nil
  | cons start tail =>
    rw [hc] at hmem
    rcases encodeChar_eq_cons_iff.mp hc with
      ⟨rfl, -⟩ | ⟨t, rfl, hstart, ht, -⟩ | ⟨t, u, rfl, hstart, ht, hu, -⟩ | ⟨t, u, w, rfl, hstart, ht, hu, hw, -⟩
    · rw [List.mem_singleton.mp hmem]
    all_goals
      simp only [List.mem_cons, List.not_mem_nil, or_false, ← UInt8.toNat_inj] at hmem
      omega

/-- What stands behind an ASCII byte of a text is a text. -/
theorem exists_encode_behind {s : String} {front rest : Bytes} {b : UInt8} (hb : b.toNat < 0x80)
    (h : encode s = front ++ b :: rest) : ∃ behind, rest = encode behind := by
  rw [encode] at h
  generalize s.toList = cs at h
  induction cs generalizing front with
  | nil => simp at h
  | cons c cs ih =>
    rw [List.flatMap_cons] at h
    rcases List.append_eq_append_iff.mp h with ⟨more, -, hmore⟩ | ⟨char, hchar, hrest⟩
    · exact ih hmore
    · cases char with
      | nil => exact @ih [] hrest.symm
      | cons d char =>
        rw [List.cons_append] at hrest
        obtain ⟨rfl, rfl⟩ := List.cons.inj hrest
        have hone : front ++ b :: char = [b] := by
          rw [← hchar]
          exact eq_singleton_of_mem hb (hchar ▸ List.mem_append_right _ List.mem_cons_self)
        obtain rfl : char = [] := by
          have hlength := congrArg List.length hone
          rw [List.length_append, List.length_cons, List.length_singleton] at hlength
          exact List.length_eq_zero_iff.mp (by omega)
        exact ⟨String.ofList cs, by rw [encode, String.toList_ofList, List.nil_append]⟩

/-! ### The order of texts -/

theorem encodeChar_lt {c d : Char} (h : c < d) (bs bs' : Bytes) :
    utf8EncodeChar c ++ bs < utf8EncodeChar d ++ bs' := by
  have hlt : c.toNat < d.toNat := h
  cases hc : utf8EncodeChar c with
  | nil => exact absurd hc String.utf8EncodeChar_ne_nil
  | cons b tail =>
    cases hd : utf8EncodeChar d with
    | nil => exact absurd hd String.utf8EncodeChar_ne_nil
    | cons b' tail' =>
      rcases encodeChar_eq_cons_iff.mp hc with
          ⟨rfl, hb, hv⟩ | ⟨t, rfl, hb, ht, hv⟩ | ⟨t, u, rfl, hb, ht, hu, hlow, hv⟩ |
          ⟨t, u, w, rfl, hb, ht, hu, hw, hlow, hv⟩ <;>
        rcases encodeChar_eq_cons_iff.mp hd with
          ⟨rfl, hb', hv'⟩ | ⟨t', rfl, hb', ht', hv'⟩ | ⟨t', u', rfl, hb', ht', hu', hlow', hv'⟩ |
          ⟨t', u', w', rfl, hb', ht', hu', hw', hlow', hv'⟩ <;>
        simp only [List.cons_append, List.nil_append, List.cons_lt_cons_iff, UInt8.lt_iff_toNat_lt,
          ← UInt8.toNat_inj] <;>
        omega

theorem encode_lt_encode {s t : String} (h : s < t) : encode s < encode t := by
  rw [String.lt_iff] at h
  rw [encode, encode]
  generalize s.toList = cs, t.toList = ds at h
  induction cs generalizing ds with
  | nil =>
    cases ds with
    | nil => exact absurd h (List.lt_irrefl _)
    | cons d ds =>
      obtain ⟨b, tail, hd⟩ := List.exists_cons_of_ne_nil (String.utf8EncodeChar_ne_nil (c := d))
      simp [hd]
  | cons c cs ih =>
    cases ds with
    | nil => exact absurd h (List.not_lt_nil _)
    | cons d ds =>
      rw [List.flatMap_cons, List.flatMap_cons]
      rcases List.cons_lt_cons_iff.mp h with hlt | ⟨rfl, hlt⟩
      · exact encodeChar_lt hlt _ _
      · exact List.append_left_lt (ih ds hlt)

theorem encode_le_encode {s t : String} (h : s ≤ t) : encode s ≤ encode t := by
  refine List.not_lt.mp fun hlt => ?_
  by_cases hst : s < t
  · exact List.lt_asymm hlt (encode_lt_encode hst)
  · obtain rfl := String.le_antisymm h (String.not_lt.mp hst)
    exact List.lt_irrefl _ hlt

end LineShell.Utf8
