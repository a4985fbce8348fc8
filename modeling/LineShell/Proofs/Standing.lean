import LineShell.Toml.Document
import Mathlib.Data.List.Basic
import Mathlib.Data.List.Nodup

/-!
What the keys at the top of a document stand for. Each line of a document is about one of them: the first part
of its path, where the path of an entry starts with that of the table it is in. What the other keys stand for
is left as it is. So a key stands for a value, for a table or for nothing according to the lines about it alone,
in whatever order they come and whatever else there is.
-/

namespace LineShell.Toml

/-! ### Lines -/

/-- The value that an item is, if it is not a table or an array of tables. -/
def Item.value? : Item → Option Value
  | .value v _ => some v
  | _ => none

namespace Statement

/-- The path of the table that what follows is in. -/
def scope (current : List String) : Statement → List String
  | .header _ path _ => path
  | .entry _ _ _ => current

/-- The path from the top to what is told of. -/
def target (current : List String) : Statement → List String
  | .header _ path _ => path
  | .entry path _ _ => current ++ path

/-- The value that is told, if it is one. -/
def value? : Statement → Option Value
  | .header _ _ _ => none
  | .entry _ v _ => some v

/-- The lines of a document: what each one is about, from the top, and the value that it tells. -/
def lines : List String → List Statement → List (List String × Option Value)
  | _, [] => []
  | current, s :: ss => (s.target current, s.value?) :: lines (s.scope current) ss

end Statement

namespace Entries

/-- What a key stands for: nothing, or something that may be a value. -/
def stands (es : Entries) (key : String) : Option (Option Value) := (es.lookup key).map Item.value?

theorem stands_eq_none_iff {es : Entries} {key : String} : es.stands key = none ↔ es.lookup key = none :=
  Option.map_eq_none_iff

/-- What a line does that makes a key stand for a value or for something else: the key stood for nothing, or for
something else than a value and it still does. All other keys stand for what they did. -/
structure Tells (es : Entries) (key : String) (v : Option Value) (es' : Entries) : Prop where
  before : es.stands key = none ∨ es.stands key = some none ∧ v = none
  here : es'.stands key = some v
  elsewhere : ∀ k ≠ key, es'.stands k = es.stands k
  nodup : (es.map Prod.fst).Nodup → (es'.map Prod.fst).Nodup

section
variable {es : Entries} {key : String} {item : Item}

theorem lookup_cons_eq (k : String) (e : String × Item) :
    List.lookup k (e :: es) = if k = e.1 then some e.2 else es.lookup k := by
  rw [List.lookup_cons]
  by_cases hk : k = e.1
  · simp [hk]
  · rw [if_neg hk, beq_eq_false_iff_ne.mpr hk]

theorem lookup_append_of_ne {k : String} (hk : k ≠ key) : (es ++ [(key, item)]).lookup k = es.lookup k := by
  rw [List.lookup_append, lookup_cons_eq, if_neg hk]
  exact Option.or_none

theorem notMem_of_lookup (h : es.lookup key = none) : key ∉ es.map Prod.fst := by
  rintro hmem
  obtain ⟨e, he, rfl⟩ := List.mem_map.mp hmem
  simpa using List.lookup_eq_none_iff.mp h e he

theorem lookup_of_notMem (h : key ∉ es.map Prod.fst) : es.lookup key = none := by
  rw [List.lookup_eq_none_iff]
  intro e he
  rw [bne_iff_ne]
  rintro rfl
  exact h (List.mem_map_of_mem he)

theorem nodup_append (h : key ∉ es.map Prod.fst) (hnodup : (es.map Prod.fst).Nodup) :
    ((es ++ [(key, item)]).map Prod.fst).Nodup := by
  rw [List.map_append]
  exact List.nodup_append_comm.mp (List.nodup_cons.mpr ⟨h, hnodup⟩)

theorem tells_append {v : Option Value} (h : es.lookup key = none) (hitem : item.value? = v) :
    Tells es key v (es ++ [(key, item)]) where
  before := .inl (stands_eq_none_iff.mpr h)
  here := by simp [stands, List.lookup_append, h, hitem]
  elsewhere k hk := by rw [stands, lookup_append_of_ne hk, stands]
  nodup := nodup_append (notMem_of_lookup h)

theorem lookup_replace (k : String) :
    (es.replace key item).lookup k = if k = key then (es.lookup k).map fun _ => item else es.lookup k := by
  induction es with
  | nil => simp [replace]
  | cons e es ih =>
    rw [replace] at ih ⊢
    rw [List.map_cons, lookup_cons_eq, lookup_cons_eq, ih]
    by_cases he : e.1 = key
    · by_cases hk : k = key <;> simp [he, hk]
    · by_cases hk : k = key
      · simp [he, hk, Ne.symm he]
      · simp [he, hk]

theorem tells_replace (h : es.stands key = some none) (hitem : item.value? = none) :
    Tells es key none (es.replace key item) where
  before := .inr ⟨h, rfl⟩
  here := by
    obtain ⟨old, hold, -⟩ := Option.map_eq_some_iff.mp h
    simp [stands, lookup_replace, hold, hitem]
  elsewhere k hk := by simp [stands, lookup_replace, hk]
  nodup hnodup := by
    have hkeys : (es.replace key item).map Prod.fst = es.map Prod.fst := by
      rw [replace, List.map_map]
      refine List.map_congr_left fun e _ => ?_
      dsimp only [Function.comp]
      split
      · next he => exact he.symm
      · rfl
    rwa [hkeys]

theorem lookup_filter_ne (k : String) :
    (es.filter (·.1 ≠ key)).lookup k = if k = key then none else es.lookup k := by
  induction es with
  | nil => simp
  | cons e es ih =>
    by_cases he : e.1 = key
    · rw [List.filter_cons_of_neg (by simpa using he), ih, lookup_cons_eq]
      by_cases hk : k = key <;> simp [he, hk]
    · rw [List.filter_cons_of_pos (by simpa using he), lookup_cons_eq, lookup_cons_eq, ih]
      by_cases hk : k = key
      · simp [hk, Ne.symm he]
      · simp [hk]

theorem tells_last (h : es.stands key = some none) (hitem : item.value? = none) :
    Tells es key none (es.filter (·.1 ≠ key) ++ [(key, item)]) where
  before := .inr ⟨h, rfl⟩
  here := by
    rw [stands, List.lookup_append, lookup_filter_ne, if_pos rfl, lookup_cons_eq, if_pos rfl]
    exact congrArg some hitem
  elsewhere k hk := by rw [stands, lookup_append_of_ne hk, lookup_filter_ne, if_neg hk, stands]
  nodup hnodup := nodup_append (by simp) (hnodup.sublist (List.filter_sublist.map _))

/-! ### Statements -/

theorem stands_of_lookup (h : es.lookup key = some item) : es.stands key = some item.value? := by
  rw [stands, h]
  rfl

variable {t t' : Table} {current path : List String} {origin : Origin} {v : Option Value}

/-- What is changed below a key leaves the key standing for what is not a value. -/
theorem tells_changeAt {isDotted : Bool} {f : Origin → Table → Option Table}
    (h : changeAt isDotted f (key :: path) origin t = some t') : Tells t.1 key none t'.1 := by
  obtain ⟨es, span⟩ := t
  unfold changeAt at h
  split at h
  · next hnone =>
    obtain ⟨⟨sub, place⟩, -, hrest⟩ := Option.bind_eq_some_iff.mp h
    cases hrest
    exact tells_append hnone rfl
  · cases h
  · next sub place hsome =>
    split at h
    · cases h
    obtain ⟨⟨sub, place⟩, -, hrest⟩ := Option.bind_eq_some_iff.mp h
    cases hrest
    exact tells_replace (stands_of_lookup hsome) rfl
  · next elements hsome =>
    split at h
    · cases h
    · obtain ⟨last, -, hrest⟩ := Option.bind_eq_some_iff.mp h
      cases hrest
      exact tells_replace (stands_of_lookup hsome) rfl

theorem tells_openTable {place : Span} (h : openTable key place origin t = some t') : Tells t.1 key none t'.1 := by
  obtain ⟨es, span⟩ := t
  simp only [openTable] at h
  split at h
  · next hnone =>
    cases h
    exact tells_append hnone rfl
  · next sub place hsome =>
    cases h
    exact tells_last (stands_of_lookup hsome) rfl
  · cases h

theorem tells_addElement {place : Span} (h : addElement key place origin t = some t') : Tells t.1 key none t'.1 := by
  obtain ⟨es, span⟩ := t
  simp only [addElement] at h
  split at h
  · next hnone =>
    cases h
    exact tells_append hnone rfl
  · next elements hsome =>
    cases h
    exact tells_replace (stands_of_lookup hsome) rfl
  · cases h

theorem tells_addValue {isNested : Bool} {value : Value} {place : Span}
    (h : addValue isNested key value place origin t = some t') : Tells t.1 key (some value) t'.1 := by
  obtain ⟨es, span⟩ := t
  simp only [addValue] at h
  split at h
  · cases h
  split at h
  · cases h
  · next hsome =>
    cases h
    exact tells_append (Option.not_isSome_iff_eq_none.mp hsome) rfl

/-- What is told of the first part of a path by a line about all of it. -/
def told (path : List String) (v : Option Value) : Option Value := if path.length = 1 then v else none

theorem tells_addEntry {value : Value} {place : Span} {last : String}
    (h : addEntry (path ++ [last]) last value place origin t = some t') :
    ∃ key rest, path ++ [last] = key :: rest ∧ Tells t.1 key (told (key :: rest) (some value)) t'.1 := by
  obtain ⟨⟨es, span⟩, hchange, hrest⟩ := Option.bind_eq_some_iff.mp h
  cases hrest
  rw [List.dropLast_concat] at hchange
  cases path with
  | nil =>
    rw [changeAt] at hchange
    have htells := tells_addValue hchange
    exact ⟨last, [], rfl, htells⟩
  | cons key rest =>
    have htold : told (key :: (rest ++ [last])) (some value) = none := by simp [told]
    have htells := tells_changeAt hchange
    exact ⟨key, rest ++ [last], rfl, htold ▸ htells⟩

/-- One statement is about one key. -/
theorem tells_step {s : Statement} {next : List String} (h : step current t s = some (next, t')) :
    next = s.scope current ∧
      ∃ key rest, s.target current = key :: rest ∧ Tells t.1 key (told (key :: rest) s.value?) t'.1 := by
  cases s with
  | header isElement path place =>
    obtain ⟨last, hlast, hrest⟩ := Option.bind_eq_some_iff.mp h
    obtain ⟨front, rfl⟩ := List.getLast?_eq_some_iff.mp hlast
    obtain ⟨t₁, hchange, hresult⟩ := Option.bind_eq_some_iff.mp hrest
    cases hresult
    refine ⟨rfl, ?_⟩
    rw [List.dropLast_concat] at hchange
    have htold : ∀ path, told path none = none := fun path => ite_self none
    cases front with
    | nil =>
      refine ⟨last, [], rfl, ?_⟩
      rw [changeAt] at hchange
      cases isElement with
      | true =>
        rw [if_pos rfl] at hchange
        exact htold _ ▸ tells_addElement hchange
      | false =>
        rw [if_neg Bool.false_ne_true] at hchange
        exact htold _ ▸ tells_openTable hchange
    | cons key rest => exact ⟨key, rest ++ [last], rfl, htold _ ▸ tells_changeAt hchange⟩
  | entry path value place =>
    obtain ⟨last, hlast, hrest⟩ := Option.bind_eq_some_iff.mp h
    obtain ⟨front, rfl⟩ := List.getLast?_eq_some_iff.mp hlast
    obtain ⟨t₁, hchange, hresult⟩ := Option.bind_eq_some_iff.mp hrest
    cases hresult
    refine ⟨rfl, ?_⟩
    cases current with
    | nil => exact tells_addEntry hchange
    | cons key rest =>
      have htold : told (key :: (rest ++ (front ++ [last]))) (some value) = none := by simp [told]
      exact ⟨key, rest ++ (front ++ [last]), rfl, htold ▸ tells_changeAt hchange⟩

/-! ### Statements in a row -/

theorem Tells.stands_eq {es' : Entries} (h : Tells es key v es') (k : String) :
    es'.stands k = (es.stands k).or (if k = key then some v else none) := by
  by_cases hk : k = key
  · subst hk
    rw [h.here, if_pos rfl]
    rcases h.before with hnone | ⟨htable, rfl⟩
    · rw [hnone]
      rfl
    · rw [htable]
      rfl
  · rw [h.elsewhere k hk, if_neg hk, Option.or_none]

/-- The first line about a key settles what it stands for. -/
theorem stands_ofStatements {ss : List Statement} (h : ofStatements current t ss = some t') (k : String) :
    t'.1.stands k = (t.1.stands k).or
      (((Statement.lines current ss).find? (·.1.head? = some k)).map fun line => told line.1 line.2) := by
  induction ss generalizing current t with
  | nil =>
    cases h
    exact (Option.or_none).symm
  | cons s ss ih =>
    obtain ⟨⟨next, t₁⟩, hstep, hrest⟩ := Option.bind_eq_some_iff.mp h
    obtain ⟨rfl, key, rest, htarget, htells⟩ := tells_step hstep
    rw [ih hrest, htells.stands_eq, Option.or_assoc, Statement.lines, htarget]
    by_cases hk : k = key
    · subst hk
      rw [if_pos rfl, List.find?_cons_of_pos (by simp)]
      rfl
    · rw [if_neg hk, List.find?_cons_of_neg (by simpa using Ne.symm hk), Option.none_or]

theorem stands_of_mem_lines {ss : List Statement} {value : Value} {k : String}
    (h : ofStatements current t ss = some t') (hline : ([k], some value) ∈ Statement.lines current ss) :
    t'.1.stands k = some (some value) := by
  induction ss generalizing current t with
  | nil => cases hline
  | cons s ss ih =>
    obtain ⟨⟨next, t₁⟩, hstep, hrest⟩ := Option.bind_eq_some_iff.mp h
    obtain ⟨rfl, key, rest, htarget, htells⟩ := tells_step hstep
    rcases List.mem_cons.mp hline with hfirst | hline
    · obtain ⟨hpath, hvalue⟩ := Prod.mk.inj hfirst
      rw [← hpath] at htarget
      cases htarget
      rw [← hvalue] at htells
      rw [stands_ofStatements hrest, htells.here]
      rfl
    · exact ih hrest hline

theorem nodup_ofStatements {ss : List Statement} (h : ofStatements current t ss = some t')
    (hnodup : (t.1.map Prod.fst).Nodup) : (t'.1.map Prod.fst).Nodup := by
  induction ss generalizing current t with
  | nil =>
    cases h
    exact hnodup
  | cons s ss ih =>
    obtain ⟨⟨next, t₁⟩, hstep, hrest⟩ := Option.bind_eq_some_iff.mp h
    obtain ⟨-, key, rest, -, htells⟩ := tells_step hstep
    exact ih hrest (htells.nodup hnodup)

end
end Entries

/-! ### Documents -/

section
variable {text : String} {d : Document} {ss : List Statement}

theorem ofStatements_of_read (h : read text = some d) (hlines : statementsOf text = some ss) :
    ∃ span, Entries.ofStatements [] ([], some ⟨0, 0⟩) ss = some (d.entries, span) := by
  obtain ⟨ss', hlines', hrest⟩ := Option.bind_eq_some_iff.mp h
  cases hlines.symm.trans hlines'
  obtain ⟨⟨entries, span⟩, hentries, hresult⟩ := Option.bind_eq_some_iff.mp hrest
  cases hresult
  exact ⟨span, hentries⟩

theorem nodup_of_read (h : read text = some d) : (d.entries.map Prod.fst).Nodup := by
  obtain ⟨ss, hlines, -⟩ := Option.bind_eq_some_iff.mp h
  obtain ⟨span, hentries⟩ := ofStatements_of_read h hlines
  exact Entries.nodup_ofStatements hentries List.nodup_nil

/-- A key stands for a value just if a line tells it, and for nothing just if no line is about it. -/
theorem stands_iff (h : read text = some d) (hlines : statementsOf text = some ss) (key : String) :
    (∀ value, d.entries.stands key = some (some value) ↔ ([key], some value) ∈ Statement.lines [] ss) ∧
      (d.entries.stands key = none ↔ ∀ line ∈ Statement.lines [] ss, line.1.head? ≠ some key) := by
  obtain ⟨span, hentries⟩ := ofStatements_of_read h hlines
  have hstands := Entries.stands_ofStatements hentries key
  rw [show Entries.stands [] key = none from rfl, Option.none_or] at hstands
  refine ⟨fun value => ⟨fun hvalue => ?_, Entries.stands_of_mem_lines hentries⟩, ?_⟩
  · obtain ⟨⟨path, v⟩, hfind, htold⟩ := Option.map_eq_some_iff.mp (hstands.symm.trans hvalue)
    obtain ⟨rest, rfl⟩ : ∃ rest, path = key :: rest := by
      have hhead := List.find?_some hfind
      cases path with
      | nil => simp at hhead
      | cons first rest => exact ⟨rest, by simpa using hhead⟩
    unfold Entries.told at htold
    split at htold
    · next hlength =>
      obtain rfl : rest = [] := by simpa using hlength
      cases htold
      exact List.mem_of_find?_eq_some hfind
    · cases htold
  · rw [hstands, Option.map_eq_none_iff, List.find?_eq_none]
    simp

/-- Two documents with the same lines about a key, in any order and among any others, have it stand for the same. -/
theorem stands_congr {text' : String} {d' : Document} {ss' : List Statement} {key : String} (h : read text = some d)
    (hlines : statementsOf text = some ss) (h' : read text' = some d') (hlines' : statementsOf text' = some ss')
    (hsame : ∀ line, line.1.head? = some key → (line ∈ Statement.lines [] ss ↔ line ∈ Statement.lines [] ss')) :
    d.entries.stands key = d'.entries.stands key := by
  obtain ⟨hvalue, hnone⟩ := stands_iff h hlines key
  obtain ⟨hvalue', hnone'⟩ := stands_iff h' hlines' key
  have hnones : d.entries.stands key = none ↔ d'.entries.stands key = none := by
    rw [hnone, hnone']
    constructor
    · exact fun hno line hline hkey => hno line ((hsame line hkey).mpr hline) hkey
    · exact fun hno line hline hkey => hno line ((hsame line hkey).mp hline) hkey
  have hvalues : ∀ v, d.entries.stands key = some (some v) ↔ d'.entries.stands key = some (some v) := fun v => by
    rw [hvalue, hvalue']
    exact hsame _ rfl
  rcases hcase : d.entries.stands key with _ | _ | v
  · exact (hnones.mp hcase).symm
  · rcases hcase' : d'.entries.stands key with _ | _ | v
    · cases hcase.symm.trans (hnones.mpr hcase')
    · rfl
    · cases hcase.symm.trans ((hvalues v).mpr hcase')
  · exact ((hvalues v).mp hcase).symm

end
end LineShell.Toml
