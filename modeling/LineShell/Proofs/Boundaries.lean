import Mathlib.Data.List.TakeWhile
import LineShell.Proofs.Encoding
import LineShell.Proofs.History
import LineShell.Proofs.Newline
import LineShell.Session

/-!
Where lines end. A source and the text that it is read as are cut at the same places: after each newline,
and nowhere else. So the lines, put together again, are the text of the whole source, whatever bad bytes
there are in it and in whatever pieces it comes.
-/

namespace LineShell

/-! ### Cuts -/

/-- Puts an element in front of the first line. -/
def inFront {α : Type} (x : α) : List (List α) → List (List α)
  | [] => [[x]]
  | line :: lines => (x :: line) :: lines

/-- How a list is to be cut: after each separator, and nowhere else. -/
inductive Cut {α : Type} (sep : α) : List α → List (List α) → Prop
  | nil : Cut sep [] []
  | last {line : List α} (hne : line ≠ []) (hsep : sep ∉ line) : Cut sep line [line]
  | line {front xs : List α} {lines : List (List α)} (hsep : sep ∉ front) (hrest : Cut sep xs lines) :
    Cut sep (front ++ sep :: xs) ((front ++ [sep]) :: lines)

namespace Cut

variable {α : Type} {sep : α} {xs : List α} {lines : List (List α)}

theorem flatten (h : Cut sep xs lines) : lines.flatten = xs := by
  induction h with
  | nil => rfl
  | last hne hsep => simp
  | line hsep hrest ih => simp [ih]

theorem length [DecidableEq α] (h : Cut sep xs lines) :
    lines.length = xs.count sep + if xs = [] ∨ xs.getLast? = some sep then 0 else 1 := by
  induction h with
  | nil => simp
  | @last line hne hsep =>
    have hlast : ¬(line = [] ∨ line.getLast? = some sep) :=
      not_or.mpr ⟨hne, fun h => hsep (List.mem_of_getLast? h)⟩
    rw [List.count_eq_zero.mpr hsep, if_neg hlast, List.length_singleton]
  | @line front xs lines hsep hrest ih =>
    have hlast : (front ++ sep :: xs = [] ∨ (front ++ sep :: xs).getLast? = some sep) ↔
        (xs = [] ∨ xs.getLast? = some sep) := by
      cases xs <;> simp
    rw [List.length_cons, ih, List.count_append, List.count_eq_zero.mpr hsep, List.count_cons_self]
    simp only [hlast]
    omega

theorem shape (h : Cut sep xs lines) : ∀ line ∈ lines, line ≠ [] ∧ sep ∉ line.dropLast := by
  induction h with
  | nil => simp
  | last hne hsep =>
    exact List.forall_mem_singleton.mpr ⟨hne, fun hmem => hsep (List.dropLast_subset _ hmem)⟩
  | line hsep hrest ih =>
    refine List.forall_mem_cons.mpr ⟨⟨by simp, ?_⟩, ih⟩
    rwa [List.dropLast_concat]

theorem complete (h : Cut sep xs lines) : ∀ line ∈ lines.dropLast, line.getLast? = some sep := by
  induction h with
  | nil => simp
  | last hne hsep => simp
  | @line front xs lines hsep hrest ih =>
    cases lines with
    | nil => simp
    | cons line lines =>
      rw [List.dropLast_cons_cons]
      exact List.forall_mem_cons.mpr ⟨List.getLast?_concat, ih⟩

theorem complete_of_ends (h : Cut sep xs lines) (hends : xs = [] ∨ xs.getLast? = some sep) :
    ∀ line ∈ lines, line.getLast? = some sep := by
  induction h with
  | nil => simp
  | last hne hsep => exact absurd hends (not_or.mpr ⟨hne, fun hlast => hsep (List.mem_of_getLast? hlast)⟩)
  | @line front xs lines hsep hrest ih =>
    have hends' : xs = [] ∨ xs.getLast? = some sep := by
      cases xs <;> simp_all
    exact List.forall_mem_cons.mpr ⟨List.getLast?_concat, ih hends'⟩

theorem cons {x : α} (hx : x ≠ sep) (h : Cut sep xs lines) : Cut sep (x :: xs) (inFront x lines) := by
  have hcons : ∀ {front : List α}, sep ∉ front → sep ∉ x :: front := by
    intro front hfront hmem
    rcases List.mem_cons.mp hmem with rfl | hmem
    · exact hx rfl
    · exact hfront hmem
  cases h with
  | nil => exact .last (List.cons_ne_nil _ _) (hcons List.not_mem_nil)
  | last hne hsep => exact .last (List.cons_ne_nil _ _) (hcons hsep)
  | line hsep hrest => exact .line (hcons hsep) hrest

theorem append_inj {front front' xs' : List α} (h : front ++ sep :: xs = front' ++ sep :: xs')
    (hsep : sep ∉ front) (hsep' : sep ∉ front') : front = front' ∧ xs = xs' := by
  rcases List.append_eq_append_iff.mp h with ⟨more, rfl, hmore⟩ | ⟨more, rfl, hmore⟩
  · cases more with
    | nil => exact ⟨(List.append_nil _).symm, List.cons.inj hmore |>.2⟩
    | cons x more =>
      obtain ⟨rfl, -⟩ := List.cons.inj hmore
      simp at hsep'
  · cases more with
    | nil => exact ⟨List.append_nil _, (List.cons.inj hmore).2.symm⟩
    | cons x more =>
      obtain ⟨rfl, -⟩ := List.cons.inj hmore
      simp at hsep

theorem unique {lines' : List (List α)} (h : Cut sep xs lines) (h' : Cut sep xs lines') : lines = lines' := by
  induction h generalizing lines' with
  | nil =>
    generalize hxs : ([] : List α) = xs at h'
    cases h' with
    | nil => rfl
    | last hne hsep => exact absurd hxs.symm hne
    | line hsep hrest => simp at hxs
  | @last line hne hsep =>
    cases h' with
    | nil => exact absurd rfl hne
    | last hne' hsep' => rfl
    | line hsep' hrest => simp at hsep
  | @line front xs lines hsep hrest ih =>
    generalize hxs : front ++ sep :: xs = all at h'
    cases h' with
    | nil => simp at hxs
    | last hne hsep' => exact absurd (hxs ▸ by simp) hsep'
    | @line front' xs' lines' hsep' hrest' =>
      obtain ⟨rfl, rfl⟩ := append_inj hxs hsep hsep'
      rw [ih hrest']

end Cut

theorem Utf8.decodeLossy_ne_nil {bs : Bytes} (h : bs ≠ []) : (decodeLossy bs).toList ≠ [] := by
  have hreads : Reads bs (pieces bs) := reads_iff.mpr rfl
  rw [decodeLossy, String.toList_ofList]
  intro hnil
  rw [List.map_eq_nil_iff.mp hnil] at hreads
  cases hreads
  exact h rfl

namespace Lines

theorem cut_split (bs : Bytes) : Cut newline bs (split bs) := by
  induction bs with
  | nil => exact .nil
  | cons b bs ih =>
    rw [split_cons]
    by_cases hb : b = newline
    · rw [if_pos hb, hb]
      exact .line List.not_mem_nil ih
    · rw [if_neg hb]
      have hextend : extend b (split bs) = inFront b (split bs) := by
        cases split bs <;> rfl
      rw [hextend]
      exact ih.cons hb

/-- The lines that are whole of a source are those before its last newline. -/
theorem filter_isComplete_split {whole rest : Bytes} (hwhole : whole = [] ∨ whole.getLast? = some newline)
    (hrest : newline ∉ rest) : (split (whole ++ rest)).filter isComplete = split whole := by
  have hall : ∀ line ∈ split whole, isComplete line = true := by
    simpa [isComplete] using (cut_split whole).complete_of_ends hwhole
  have hnone : ∀ line ∈ split rest, isComplete line = false := by
    intro line hline
    rw [isComplete, beq_eq_false_iff_ne]
    intro hlast
    rw [← (cut_split rest).flatten] at hrest
    exact hrest (List.mem_flatten.mpr ⟨line, hline, List.mem_of_getLast? hlast⟩)
  rw [split_append hwhole, List.filter_append, List.filter_eq_self.mpr hall]
  simpa using hnone

theorem cut_splitText (cs : List Char) : Cut '\n' cs (splitText cs) := by
  induction cs with
  | nil => exact .nil
  | cons c cs ih =>
    rw [splitText]
    by_cases hc : c = '\n'
    · rw [if_pos hc, hc]
      exact .line List.not_mem_nil ih
    · rw [if_neg hc]
      have hcut := ih.cons hc
      cases hlines : splitText cs <;> rwa [hlines] at hcut

/-- Decoding keeps the cuts. -/
theorem cut_decode {bs : Bytes} {lines : List Bytes} (h : Cut newline bs lines) :
    Cut '\n' (Utf8.decodeLossy bs).toList (lines.map fun line => (Utf8.decodeLossy line).toList) := by
  induction h with
  | nil => exact .nil
  | last hne hsep =>
    exact .last (Utf8.decodeLossy_ne_nil hne) (Utf8.newline_notMem_decodeLossy hsep)
  | @line front xs lines hsep hrest ih =>
    have hline : (Utf8.decodeLossy (front ++ [newline])).toList =
        (Utf8.decodeLossy front).toList ++ ['\n'] := by
      rw [Utf8.decodeLossy_append_newline]
      simp [show Utf8.decodeLossy [] = "" from rfl]
    rw [List.map_cons, hline, Utf8.decodeLossy_append_newline]
    simpa using Cut.line (Utf8.newline_notMem_decodeLossy hsep) ih

end Lines

/-! ### Sources that come in pieces -/

/-- The bytes that some events have read, in order. -/
def received (h : List Event) : Bytes :=
  h.flatMap fun
    | ⟨.read _ _, .ok piece⟩ => piece
    | _ => []

namespace Session
open LineShell.Action

variable {source : Option Descriptor} {held rest line : Bytes} {h : List Event} {rounds : Nat}

theorem nextLine_of_newline {front : Bytes} (hfront : Lines.newline ∉ front) :
    nextLine source (rounds + 1) (front ++ Lines.newline :: rest) =
      pure (.ok (front ++ [Lines.newline], rest)) := by
  have hne : ∀ b ∈ front, decide (b ≠ Lines.newline) = true := by
    intro b hb
    exact decide_eq_true fun heq => hfront (heq ▸ hb)
  have htake : (front ++ Lines.newline :: rest).takeWhile (· ≠ Lines.newline) = front := by
    rw [List.takeWhile_append_of_pos hne, List.takeWhile_cons_of_neg (by simp), List.append_nil]
  rw [nextLine, htake, List.drop_left]

theorem nextLine_of_notMem (hheld : Lines.newline ∉ held) :
    nextLine source (rounds + 1) held = Action.request (.read source pieceSize) >>= fun
      | .error e => pure (.error e)
      | .ok [] => pure (.ok (held, []))
      | .ok piece => nextLine source rounds (held ++ piece) := by
  have htake : held.takeWhile (· ≠ Lines.newline) = held := by
    rw [List.takeWhile_eq_self_iff]
    intro b hb
    exact decide_eq_true fun heq => hheld (heq ▸ hb)
  rw [nextLine]
  split
  · rename_i hdrop
    rw [htake, List.drop_length] at hdrop
    cases hdrop
  · rfl

/-- The line and what is left make up what there was and what has come. A line without a newline is what is
left when the source gives nothing more. -/
theorem trace_nextLine (htrace : Trace (nextLine source rounds held) h (.ok (line, rest)))
    (hrounds : h.length < rounds) :
    held ++ received h = line ++ rest ∧
      ((∃ front, line = front ++ [Lines.newline] ∧ Lines.newline ∉ front) ∨
        Lines.newline ∉ line ∧ rest = []) := by
  induction rounds generalizing held h with
  | zero => exact absurd hrounds (Nat.not_lt_zero _)
  | succ rounds ih =>
    by_cases hheld : Lines.newline ∈ held
    · obtain ⟨front, after, rfl, hfront⟩ := List.eq_append_cons_of_mem hheld
      rw [nextLine_of_newline hfront] at htrace
      obtain ⟨rfl, hresult⟩ := trace_pure.mp htrace
      cases hresult
      exact ⟨by simp [received], .inl ⟨front, rfl, hfront⟩⟩
    · rw [nextLine_of_notMem hheld] at htrace
      obtain ⟨answer, k, hk, rfl⟩ := trace_request_bind.mp htrace
      rcases answer with e | _ | ⟨b, piece⟩
      · cases (trace_pure.mp hk).2
      · obtain ⟨rfl, hresult⟩ := trace_pure.mp hk
        cases hresult
        exact ⟨by simp [received], .inr ⟨hheld, rfl⟩⟩
      · have hlater := ih hk (Nat.lt_of_succ_lt_succ hrounds)
        rwa [List.append_assoc] at hlater

/-- A source yields these lines, from what has been read of it and not been used, until one is empty. Once
the source has ended, it gives nothing more. -/
inductive Yields (source : Option Descriptor) : Bytes → List Event → List Bytes → Prop
  | ended {held rest : Bytes} {h : List Event} (hrounds : h.length < manyPieces)
    (htrace : Trace (nextLine source manyPieces held) h (.ok ([], rest))) : Yields source held h []
  | line {held rest line : Bytes} {h k : List Event} {lines : List Bytes} (hrounds : h.length < manyPieces)
    (htrace : Trace (nextLine source manyPieces held) h (.ok (line, rest)))
    (hline : Lines.isComplete line = true) (hrest : Yields source rest k lines) :
    Yields source held (h ++ k) (line :: lines)
  | last {held rest line : Bytes} {h k : List Event} (hrounds : h.length < manyPieces)
    (htrace : Trace (nextLine source manyPieces held) h (.ok (line, rest)))
    (hline : Lines.isComplete line = false) (hne : line ≠ []) (hrest : Yields source rest k []) :
    Yields source held (h ++ k) [line]

theorem received_append (h k : List Event) : received (h ++ k) = received h ++ received k := List.flatMap_append

theorem Yields.cut {lines : List Bytes} (hyields : Yields source held h lines) :
    Cut Lines.newline (held ++ received h) lines := by
  induction hyields with
  | ended hrounds htrace =>
    obtain ⟨hsame, ⟨front, hfront, -⟩ | ⟨-, rfl⟩⟩ := trace_nextLine htrace hrounds
    · exact absurd hfront.symm (by simp)
    · rw [hsame]
      exact .nil
  | @line held rest line h k lines hrounds htrace hline hrest ih =>
    obtain ⟨hsame, ⟨front, rfl, hfront⟩ | ⟨hno, -⟩⟩ := trace_nextLine htrace hrounds
    · have hcut := Cut.line hfront ih
      rwa [List.append_cons, ← List.append_assoc, ← hsame, List.append_assoc, ← received_append] at hcut
    · have hlast : line.getLast? = some Lines.newline := by simpa [Lines.isComplete] using hline
      exact absurd (List.mem_of_getLast? hlast) hno
  | @last held rest line h k hrounds htrace hline hne hrest ih =>
    obtain ⟨hsame, ⟨front, rfl, hfront⟩ | ⟨hno, -⟩⟩ := trace_nextLine htrace hrounds
    · simp [Lines.isComplete] at hline
    · rw [received_append, ← List.append_assoc, hsame, List.append_assoc, ← ih.flatten]
      simpa using Cut.last hne hno

theorem exists_yields {bs : Bytes} {lines : List Bytes} (hcut : Cut Lines.newline bs lines) :
    ∃ h, Yields source bs h lines ∧ received h = [] := by
  obtain ⟨n, hn⟩ : ∃ n, manyPieces = n + 2 := ⟨Nat.pow 2 62 - 2, by decide⟩
  have hread : ∀ {held : Bytes}, Lines.newline ∉ held →
      Trace (nextLine source manyPieces held) [⟨.read source pieceSize, .ok []⟩] (.ok (held, [])) := by
    intro held hheld
    rw [hn, nextLine_of_notMem hheld]
    exact trace_request_bind.mpr ⟨.ok [], [], trace_pure.mpr ⟨rfl, rfl⟩, rfl⟩
  have hend : Yields source [] [⟨.read source pieceSize, .ok []⟩] [] :=
    .ended (by rw [List.length_singleton]; omega) (hread List.not_mem_nil)
  induction hcut with
  | nil => exact ⟨_, hend, rfl⟩
  | @last line hne hsep =>
    have hline : Lines.isComplete line = false := by
      rw [Lines.isComplete, beq_eq_false_iff_ne]
      exact fun hlast => hsep (List.mem_of_getLast? hlast)
    exact ⟨_, .last (by rw [List.length_singleton]; omega) (hread hsep) hline hne hend, rfl⟩
  | @line front xs lines hsep hrest ih =>
    obtain ⟨h, hyields, hreceived⟩ := ih
    have htrace : Trace (nextLine source manyPieces (front ++ Lines.newline :: xs)) []
        (.ok (front ++ [Lines.newline], xs)) := by
      rw [hn, nextLine_of_newline hsep]
      exact trace_pure.mpr ⟨rfl, rfl⟩
    have hline : Lines.isComplete (front ++ [Lines.newline]) = true := by simp [Lines.isComplete]
    exact ⟨[] ++ h, .line (by rw [List.length_nil]; omega) htrace hline hyields, hreceived⟩

end Session

namespace Lines

/-- Reading by lines loses nothing and makes nothing up, whatever the bytes are. The lines of a source make up
the text of the whole source, in which each piece of bad input is one replacement character; the text is cut
just where the source is, behind each newline byte; and a reader that takes the source in pieces, and line by
line, yields the same lines. -/
theorem decode_cuts (bs : Bytes) :
    String.join (decode bs) = Utf8.decodeLossy bs ∧
    (∃ ps, Utf8.Reads bs ps ∧ Utf8.decodeLossy bs = String.ofList (ps.map (·.getD Utf8.replacement))) ∧
    (decode bs).length = bs.count newline + (if bs = [] ∨ bs.getLast? = some newline then 0 else 1) ∧
    (∀ line ∈ decode bs, line ≠ "" ∧ '\n' ∉ line.toList.dropLast) ∧
    (∀ line ∈ (decode bs).dropLast, line.toList.getLast? = some '\n') ∧
    (∃ lines, Cut newline bs lines ∧ decode bs = lines.map Utf8.decodeLossy ∧ ∀ source lines',
      (∃ held h, Session.Yields source held h lines' ∧ held ++ received h = bs) ↔ lines' = lines) ∧
    Cut '\n' (Utf8.decodeLossy bs).toList ((decode bs).map String.toList) ∧
    ∀ s, bs = Utf8.encode s → String.join (decode bs) = s := by
  have hsource := cut_split bs
  have htext : Cut '\n' (Utf8.decodeLossy bs).toList ((decode bs).map String.toList) := by
    rw [decode, List.map_map]
    exact cut_decode hsource
  have hjoin : String.join (decode bs) = Utf8.decodeLossy bs := by
    rw [← String.toList_inj, String.toList_join, List.flatMap_def]
    exact htext.flatten
  have hreads : Utf8.Reads bs (Utf8.pieces bs) := Utf8.reads_iff.mpr rfl
  refine ⟨hjoin, ⟨_, hreads, rfl⟩, ?_, ?_, ?_, ⟨_, hsource, rfl, ?_⟩, htext, ?_⟩
  · rw [decode, List.length_map]
    exact hsource.length
  · intro line hline
    have hshape := htext.shape _ (List.mem_map_of_mem hline)
    exact ⟨fun hempty => hshape.1 (by rw [hempty]; rfl), hshape.2⟩
  · intro line hline
    refine htext.complete _ ?_
    rw [← List.map_dropLast]
    exact List.mem_map_of_mem hline
  · intro source lines'
    constructor
    · rintro ⟨held, h, hyields, rfl⟩
      exact hyields.cut.unique hsource
    · rintro rfl
      obtain ⟨h, hyields, hreceived⟩ := Session.exists_yields hsource
      exact ⟨bs, h, hyields, by rw [hreceived, List.append_nil]⟩
  · rintro s rfl
    rw [hjoin, Utf8.decodeLossy_encode]

end Lines
end LineShell
