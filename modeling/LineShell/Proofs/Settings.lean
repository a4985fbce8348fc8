import LineShell.Config.Reading
import LineShell.Proofs.Encoding
import LineShell.Proofs.History
import LineShell.Proofs.Standing
import LineShell.Proofs.Starting
import Mathlib

/-!
Where the settings come from. Each setting is the value of its own key at the top of the document, or the default
where the key is absent, and a key with a value of another type spoils the document. Nothing else in the document
matters to them.
-/

namespace LineShell
open LineShell.Action

namespace Config

/-! ### Keys and settings -/

/-- Some settings with the values that keys stand for put in place of them. -/
structure Takes (c : Config) (stands : String → Option (Option Toml.Value)) (c' : Config) : Prop where
  prompt : stands "prompt" = none ∧ c'.prompt = c.prompt ∨ stands "prompt" = some (some (.string c'.prompt))
  maxLineLength : stands "max_line_length" = none ∧ c'.limits.maxLineLength = c.limits.maxLineLength ∨
    stands "max_line_length" = some (some (.integer c'.limits.maxLineLength))
  maxArgs : stands "max_args" = none ∧ c'.limits.maxArgs = c.limits.maxArgs ∨
    stands "max_args" = some (some (.integer c'.limits.maxArgs))
  logDirectory : stands "log_dir" = none ∧ c'.logDirectory = c.logDirectory ∨
    ∃ s, stands "log_dir" = some (some (.string s)) ∧ c'.logDirectory = .ofString s

/-- One of the keys of the settings stands for something of another type than its setting has. -/
def WrongType (stands : String → Option (Option Toml.Value)) : Prop :=
  (∃ key ∈ ["prompt", "log_dir"], ∃ v, stands key = some v ∧ ∀ s, v ≠ some (.string s)) ∨
    ∃ key ∈ ["max_line_length", "max_args"], ∃ v, stands key = some v ∧ ∀ n : Nat, v ≠ some (.integer n)

section
variable {stands : String → Option (Option Toml.Value)} {c c' : Config} {whole : Toml.Span} {item : Toml.Item}

theorem textOf_eq_ok_iff {wanted s : String} : textOf whole wanted item = .ok s ↔ item.value? = some (.string s) := by
  unfold textOf
  split
  · simp [Toml.Item.value?]
  · next hother =>
    refine ⟨nofun, fun hvalue => ?_⟩
    cases item with
    | value v span =>
      cases hvalue
      exact absurd rfl (hother s span)
    | _ => cases hvalue

theorem countOf_eq_ok_iff {n : Nat} : countOf whole item = .ok n ↔ item.value? = some (.integer n) := by
  unfold countOf
  split
  · next m span =>
    rw [Toml.Item.value?]
    split
    · next hm =>
      constructor
      · rintro ⟨⟩
        rw [Int.toNat_of_nonneg hm]
      · intro hvalue
        cases hvalue
        rfl
    · next hm =>
      refine ⟨nofun, fun hvalue => ?_⟩
      cases hvalue
      exact absurd (Int.natCast_nonneg n) hm
  · next hother =>
    refine ⟨nofun, fun hvalue => ?_⟩
    cases item with
    | value v span =>
      cases hvalue
      exact absurd rfl (hother n span)
    | _ => cases hvalue

theorem map_eq_ok_iff {ε α β : Type} {x : Except ε α} {f : α → β} {b : β} :
    (do pure (f (← x))) = Except.ok b ↔ ∃ a, x = .ok a ∧ b = f a := by
  cases x with
  | error e => exact ⟨nofun, nofun⟩
  | ok a =>
    constructor
    · rintro ⟨⟩
      exact ⟨a, rfl, rfl⟩
    · rintro ⟨_, ⟨⟩, rfl⟩
      rfl

theorem takes_iff : Takes c stands c' ↔
    (stands "prompt" = none ∧ c'.prompt = c.prompt ∨ stands "prompt" = some (some (.string c'.prompt))) ∧
    (stands "max_line_length" = none ∧ c'.limits.maxLineLength = c.limits.maxLineLength ∨
      stands "max_line_length" = some (some (.integer c'.limits.maxLineLength))) ∧
    (stands "max_args" = none ∧ c'.limits.maxArgs = c.limits.maxArgs ∨
      stands "max_args" = some (some (.integer c'.limits.maxArgs))) ∧
    (stands "log_dir" = none ∧ c'.logDirectory = c.logDirectory ∨
      ∃ s, stands "log_dir" = some (some (.string s)) ∧ c'.logDirectory = .ofString s) :=
  ⟨fun ⟨hprompt, hline, hargs, hlog⟩ => ⟨hprompt, hline, hargs, hlog⟩,
    fun ⟨hprompt, hline, hargs, hlog⟩ => ⟨hprompt, hline, hargs, hlog⟩⟩

/-- Taking over one key more, about which nothing has been known. -/
theorem takes_update_iff {key : String} (hkey : stands key = none) :
    Takes c (Function.update stands key (some item.value?)) c' ↔
      ∃ c₁, c.assign whole key item = .ok c₁ ∧ Takes c₁ stands c' := by
  unfold assign
  split
  · simp only [map_eq_ok_iff, textOf_eq_ok_iff, takes_iff, Function.update_apply]
    grind
  · simp only [map_eq_ok_iff, countOf_eq_ok_iff, takes_iff, Function.update_apply]
    grind
  · simp only [map_eq_ok_iff, countOf_eq_ok_iff, takes_iff, Function.update_apply]
    grind
  · simp only [map_eq_ok_iff, textOf_eq_ok_iff, takes_iff, Function.update_apply]
    grind
  · next hprompt hline hargs hlog =>
    simp [takes_iff, Ne.symm hprompt, Ne.symm hline, Ne.symm hargs, Ne.symm hlog]

theorem stands_cons (key : String) (es : Toml.Entries) :
    Toml.Entries.stands ((key, item) :: es) = Function.update es.stands key (some item.value?) := by
  funext k
  rw [Toml.Entries.stands, Toml.Entries.lookup_cons_eq, Function.update_apply]
  split <;> rfl

/-- Each key is taken over for itself, since none comes twice. -/
theorem foldlM_assign_eq_ok_iff {es : Toml.Entries} (hnodup : (es.map Prod.fst).Nodup) :
    es.foldlM (fun c e => c.assign whole e.1 e.2) c = .ok c' ↔ Takes c es.stands c' := by
  induction es generalizing c with
  | nil =>
    rw [takes_iff, List.foldlM_nil]
    constructor
    · rintro ⟨⟩
      exact ⟨.inl ⟨rfl, rfl⟩, .inl ⟨rfl, rfl⟩, .inl ⟨rfl, rfl⟩, .inl ⟨rfl, rfl⟩⟩
    · rintro ⟨⟨-, hprompt⟩ | ⟨⟨⟩⟩, ⟨-, hline⟩ | ⟨⟨⟩⟩, ⟨-, hargs⟩ | ⟨⟨⟩⟩, ⟨-, hlog⟩ | ⟨-, ⟨⟩, -⟩⟩
      obtain ⟨prompt, ⟨line, args⟩, log⟩ := c
      obtain ⟨prompt', ⟨line', args'⟩, log'⟩ := c'
      cases hprompt
      cases hline
      cases hargs
      cases hlog
      rfl
  | cons e es ih =>
    obtain ⟨key, item⟩ := e
    obtain ⟨hkey, hnodup⟩ := List.nodup_cons.mp hnodup
    have habsent : Toml.Entries.stands es key = none :=
      Toml.Entries.stands_eq_none_iff.mpr (Toml.Entries.lookup_of_notMem hkey)
    have hupdate : Takes c (Function.update (Toml.Entries.stands es) key (some item.value?)) c' ↔
        ∃ c₁, c.assign whole key item = .ok c₁ ∧ Takes c₁ (Toml.Entries.stands es) c' := takes_update_iff habsent
    rw [stands_cons, hupdate, List.foldlM_cons]
    cases hassign : c.assign whole key item with
    | error fault => exact ⟨nofun, nofun⟩
    | ok c₁ =>
      constructor
      · exact fun hrest => ⟨c₁, rfl, (ih hnodup).mp hrest⟩
      · rintro ⟨_, ⟨⟩, htakes⟩
        exact (ih hnodup).mpr htakes

/-- A key that stands for nothing else than values of one type gives a value of that type, or the default. -/
theorem exists_setting {α : Type} {key : String} {f : α → Toml.Value}
    (h : ∀ v, stands key = some v → ∃ a, v = some (f a)) (default : α) :
    ∃ a, stands key = none ∧ a = default ∨ stands key = some (some (f a)) := by
  cases hv : stands key with
  | none => exact ⟨default, .inl ⟨rfl, rfl⟩⟩
  | some v =>
    obtain ⟨a, rfl⟩ := h v hv
    exact ⟨a, .inr rfl⟩

/-- There are settings to take just if no key is of the wrong type. -/
theorem exists_takes_iff : (∃ c', Takes c stands c') ↔ ¬WrongType stands := by
  constructor
  · rintro ⟨c', htakes⟩ (⟨key, hkey, v, hv, hwrong⟩ | ⟨key, hkey, v, hv, hwrong⟩)
    · have hprompt := htakes.prompt
      have hlog := htakes.logDirectory
      simp only [List.mem_cons, List.not_mem_nil, or_false] at hkey
      rcases hkey with rfl | rfl <;> grind
    · have hline := htakes.maxLineLength
      have hargs := htakes.maxArgs
      simp only [List.mem_cons, List.not_mem_nil, or_false] at hkey
      rcases hkey with rfl | rfl <;> grind
  · intro hright
    have htext : ∀ key ∈ ["prompt", "log_dir"], ∀ v, stands key = some v → ∃ s, v = some (Toml.Value.string s) :=
      fun key hkey v hv => by_contra fun hno => hright (.inl ⟨key, hkey, v, hv, not_exists.mp hno⟩)
    have hcount : ∀ key ∈ ["max_line_length", "max_args"], ∀ v, stands key = some v →
        ∃ n : Nat, v = some (Toml.Value.integer n) :=
      fun key hkey v hv => by_contra fun hno => hright (.inr ⟨key, hkey, v, hv, not_exists.mp hno⟩)
    obtain ⟨prompt, hprompt⟩ := exists_setting (htext "prompt" (by simp)) c.prompt
    obtain ⟨line, hline⟩ := exists_setting (hcount "max_line_length" (by simp)) c.limits.maxLineLength
    obtain ⟨args, hargs⟩ := exists_setting (hcount "max_args" (by simp)) c.limits.maxArgs
    obtain ⟨log, hlog⟩ : ∃ log, stands "log_dir" = none ∧ log = c.logDirectory ∨
        ∃ s, stands "log_dir" = some (some (.string s)) ∧ log = .ofString s := by
      obtain ⟨s, ⟨hnone, -⟩ | hs⟩ := exists_setting (htext "log_dir" (by simp)) ""
      · exact ⟨_, .inl ⟨hnone, rfl⟩⟩
      · exact ⟨_, .inr ⟨s, hs, rfl⟩⟩
    exact ⟨⟨prompt, ⟨line, args⟩, log⟩, hprompt, hline, hargs, hlog⟩

end

/-! ### Documents and texts -/

/-- The keys of the settings. -/
def keys : List String := ["prompt", "max_line_length", "max_args", "log_dir"]

theorem ofDocument_eq_ok_iff {c c' : Config} {d : Toml.Document} (hnodup : (d.entries.map Prod.fst).Nodup) :
    ofDocument c d = .ok c' ↔ Takes c d.entries.stands c' := foldlM_assign_eq_ok_iff hnodup

theorem takes_congr {stands stands' : String → Option (Option Toml.Value)} {c c' : Config}
    (h : ∀ key ∈ keys, stands key = stands' key) : Takes c stands c' ↔ Takes c stands' c' := by
  rw [takes_iff, takes_iff, h "prompt" (by simp [keys]), h "max_line_length" (by simp [keys]),
    h "max_args" (by simp [keys]), h "log_dir" (by simp [keys])]

/-- In two documents the four keys stand for the same, and none comes twice. -/
structure SameSettings (d d' : Toml.Document) : Prop where
  nodup : (d.entries.map Prod.fst).Nodup
  nodup' : (d'.entries.map Prod.fst).Nodup
  stands : ∀ key ∈ keys, d.entries.stands key = d'.entries.stands key

theorem SameSettings.ofDocument_eq_ok_iff {c c' : Config} {d d' : Toml.Document} (h : SameSettings d d') :
    ofDocument c d = .ok c' ↔ ofDocument c d' = .ok c' := by
  rw [Config.ofDocument_eq_ok_iff h.nodup, Config.ofDocument_eq_ok_iff h.nodup', takes_congr h.stands]

section
variable {temporary : Path} {text text' : String} {c : Config}

theorem ofText_eq_ok_iff : ofText temporary text = .ok c ↔
    ∃ d, Toml.read text = some d ∧ Takes (standard temporary) d.entries.stands c := by
  unfold ofText
  cases hread : Toml.read text with
  | none => exact ⟨nofun, nofun⟩
  | some d =>
    have hnodup := Toml.nodup_of_read hread
    constructor
    · exact fun hresult => ⟨d, rfl, (ofDocument_eq_ok_iff hnodup).mp hresult⟩
    · rintro ⟨_, ⟨⟩, htakes⟩
      exact (ofDocument_eq_ok_iff hnodup).mpr htakes

theorem exists_ofText_eq_error_iff : (∃ e, ofText temporary text = .error e) ↔
    Toml.read text = none ∨ ∃ d, Toml.read text = some d ∧ WrongType d.entries.stands := by
  have hresult : (∃ e, ofText temporary text = .error e) ↔ ¬∃ c, ofText temporary text = .ok c := by
    cases ofText temporary text <;> simp
  simp only [hresult, ofText_eq_ok_iff]
  cases hread : Toml.read text with
  | none => simp
  | some d =>
    have htakes : (∃ c, Takes (standard temporary) d.entries.stands c) ↔ ¬WrongType d.entries.stands :=
      exists_takes_iff
    constructor
    · intro hno
      refine .inr ⟨d, rfl, by_contra fun hright => ?_⟩
      obtain ⟨c, hc⟩ := htakes.mpr hright
      exact hno ⟨c, d, rfl, hc⟩
    · rintro (hnone | ⟨_, ⟨⟩, hwrong⟩) ⟨c, _, ⟨⟩, hc⟩
      · cases hnone
      · exact htakes.mp ⟨c, hc⟩ hwrong

/-- Both texts are documents, and they have the same lines about the keys of the settings. -/
def Agree (text text' : String) : Prop :=
  ∃ d d' ss ss', Toml.read text = some d ∧ Toml.read text' = some d' ∧ Toml.statementsOf text = some ss ∧
    Toml.statementsOf text' = some ss' ∧
    ∀ line, line.1.head? ∈ keys.map some →
      (line ∈ Toml.Statement.lines [] ss ↔ line ∈ Toml.Statement.lines [] ss')

theorem Agree.ofText_eq_ok_iff (h : Agree text text') : ofText temporary text = .ok c ↔ ofText temporary text' = .ok c := by
  obtain ⟨d, d', ss, ss', hread, hread', hlines, hlines', hsame⟩ := h
  have hstands : ∀ key ∈ keys, d.entries.stands key = d'.entries.stands key :=
    fun key hkey => Toml.stands_congr hread hlines hread' hlines'
      fun line hline => hsame line (hline ▸ List.mem_map_of_mem hkey)
  rw [Config.ofText_eq_ok_iff, Config.ofText_eq_ok_iff, hread, hread']
  constructor
  · rintro ⟨_, ⟨⟩, htakes⟩
    exact ⟨d', rfl, (takes_congr hstands).mp htakes⟩
  · rintro ⟨_, ⟨⟩, htakes⟩
    exact ⟨d, rfl, (takes_congr hstands).mpr htakes⟩

end

/-! ### Files -/

section
variable {path temporary : Path} {text : String} {h : List Event}

/-- The file at the path has been read to its end, and its bytes are those of the text. -/
def Holds (path : Path) (h : List Event) (text : String) : Prop :=
  ∃ d rest, h = ⟨.openInput path, .ok d⟩ :: ⟨.readAll (some d), ⟨Utf8.encode text, none⟩⟩ :: rest

/-- This is the directory for what is passing, as it has been asked for. -/
def Passing (h : List Event) (temporary : Path) : Prop :=
  ∃ value, ⟨.getVariable temporaryVariable, value⟩ ∈ h ∧ temporary = value.elim (.ofString "/tmp") Path.mk

theorem Holds.unique {text' : String} (htext : Holds path h text) (htext' : Holds path h text') : text' = text := by
  obtain ⟨d, rest, rfl⟩ := htext
  obtain ⟨d', rest', hsame⟩ := htext'
  obtain ⟨hopened, hread⟩ := List.cons.inj hsame
  cases hopened
  have hbytes := (List.cons.inj hread).1
  exact Utf8.encode_injective (congrArg Reading.bytes (eq_of_heq (Event.mk.inj hbytes).2)).symm

/-- The result for a text that the file at the path holds. -/
def ofTextAt (path temporary : Path) (text : String) : Except ConfigError Config :=
  (ofText temporary text).mapError (.malformed path text)

theorem ofTextAt_eq_ok_iff {c : Config} : ofTextAt path temporary text = .ok c ↔ ofText temporary text = .ok c := by
  rw [ofTextAt]
  cases ofText temporary text with
  | ok c =>
    constructor <;>
      · rintro ⟨⟩
        rfl
  | error e => exact iff_of_false nofun nofun

theorem exists_ofTextAt_eq_malformed_iff :
    (∃ text' e, ofTextAt path temporary text = .error (.malformed path text' e)) ↔
      ∃ e, ofText temporary text = .error e := by
  rw [ofTextAt]
  cases ofText temporary text with
  | ok c => exact iff_of_false nofun nofun
  | error e => exact iff_of_true ⟨text, e, rfl⟩ ⟨e, rfl⟩

theorem ofTextAt_ne_unreadable (e : Fault) : ofTextAt path temporary text ≠ .error (.unreadable path e) := by
  rw [ofTextAt]
  cases ofText temporary text <;> nofun

/-- The courses of reading a file with settings: it cannot be opened, or be read to its end, or is no text; or it is
one, and then that settles the result. -/
inductive FileCourse (path : Path) : List Event → Except ConfigError Config → Prop
  | unreadable {h : List Event} (e : Fault) (hno : ∀ text, ¬Holds path h text) :
    FileCourse path h (.error (.unreadable path e))
  | read {h : List Event} {text : String} {temporary : Path} (htext : Holds path h text)
    (hpassing : ∀ t, Passing h t ↔ t = temporary) : FileCourse path h (ofTextAt path temporary text)

theorem trace_ofFile {r : Except ConfigError Config} (htrace : Trace (ofFile path) h r) : FileCourse path h r := by
  obtain ⟨h₁, contents, k₁, hcontents, rest₁, rfl⟩ := trace_bind.mp htrace
  obtain ⟨opened, k₂, rest₂, rfl⟩ := trace_request_bind.mp hcontents
  obtain e | d := opened
  · obtain ⟨rfl, rfl⟩ := trace_pure.mp rest₂
    obtain ⟨rfl, rfl⟩ := trace_pure.mp rest₁
    refine .unreadable e ?_
    rintro text ⟨d, rest, hholds⟩
    cases (List.cons.inj hholds).1
  obtain ⟨⟨bytes, failure⟩, k₃, rest₃, rfl⟩ := trace_request_bind.mp rest₂
  obtain ⟨⟨⟩, k₄, rest₄, rfl⟩ := trace_request_bind.mp rest₃
  -- What the file is held to be settles what has been read of it.
  have hread : ∀ {text}, Holds path (⟨.openInput path, .ok d⟩ :: ⟨.readAll (some d), ⟨bytes, failure⟩⟩ ::
      ⟨.close d, ()⟩ :: k₄ ++ k₁) text → failure = none ∧ Utf8.decode? bytes = some text := by
    rintro text ⟨d', rest, hholds⟩
    obtain ⟨hopen, hholds⟩ := List.cons.inj hholds
    cases hopen
    cases (List.cons.inj hholds).1
    exact ⟨rfl, Utf8.decode?_eq_some_iff.mpr rfl⟩
  cases failure with
  | some e =>
    obtain ⟨rfl, rfl⟩ := trace_pure.mp rest₄
    obtain ⟨rfl, rfl⟩ := trace_pure.mp rest₁
    exact .unreadable e fun text htext => nomatch (hread htext).1
  | none =>
    dsimp only at rest₄
    cases hdecode : Utf8.decode? bytes with
    | none =>
      rw [hdecode] at rest₄
      obtain ⟨rfl, rfl⟩ := trace_pure.mp rest₄
      obtain ⟨rfl, rfl⟩ := trace_pure.mp rest₁
      exact .unreadable .notUtf8 fun text htext => nomatch hdecode.symm.trans (hread htext).2
    | some text =>
      rw [hdecode] at rest₄
      obtain ⟨rfl, rfl⟩ := trace_pure.mp rest₄
      obtain rfl := Utf8.decode?_eq_some_iff.mp hdecode
      obtain ⟨h₂, temporary, k, htemporary, rest, rfl⟩ := trace_bind.mp rest₁
      obtain ⟨value, k', hvalue, rfl⟩ := trace_request_bind.mp htemporary
      obtain ⟨rfl, rfl⟩ := trace_pure.mp hvalue
      obtain ⟨rfl, rfl⟩ : k = [] ∧ r = ofTextAt path (value.elim (.ofString "/tmp") Path.mk) text := by
        rw [ofTextAt]
        cases hsettings : ofText (value.elim (.ofString "/tmp") Path.mk) text <;> rw [hsettings] at rest <;>
          exact trace_pure.mp rest
      refine .read ⟨d, _, rfl⟩ fun t => ?_
      constructor
      · rintro ⟨value', hmem, rfl⟩
        simp only [List.cons_append, List.nil_append, List.mem_cons] at hmem
        rcases hmem with hmem | hmem | hmem | hmem | hmem <;> cases hmem
        rfl
      · rintro rfl
        exact ⟨value, by simp, rfl⟩

/-- Whatever the file holds, its settings are found out as they should be. A file that cannot be read to its end, or is
no text, is unreadable. A text is malformed just if it is no document or gives one of the four keys a value of another
type than its setting has. Otherwise each setting is the value of its own key, or the default if the key is absent. So
what else there is in a document makes no difference, nor does the order of the lines of its text. -/
theorem ofFile_settings {σ : Type} (system : System σ) (path : Path) (t : σ) :
    let h := (ofFile path).history system t
    let result := ((ofFile path).run system t).1
    ((∃ e, result = .error (.unreadable path e)) ↔ ¬∃ text, Holds path h text) ∧
    ((∃ text e, result = .error (.malformed path text e)) ↔ ∃ text, Holds path h text ∧
      (Toml.read text = none ∨ ∃ d, Toml.read text = some d ∧ WrongType d.entries.stands)) ∧
    (∀ c, result = .ok c ↔ ∃ text d temporary, Holds path h text ∧ Toml.read text = some d ∧ Passing h temporary ∧
      Takes { prompt := "mysh> ", limits := ⟨1024, 64⟩, logDirectory := temporary } d.entries.stands c) ∧
    (∀ c c' d d', SameSettings d d' → (ofDocument c d = .ok c' ↔ ofDocument c d' = .ok c')) ∧
    ∀ temporary text text' c, Agree text text' → (ofText temporary text = .ok c ↔ ofText temporary text' = .ok c) := by
  intro h result
  have hcourse : FileCourse path h result := trace_ofFile (trace_run system (ofFile path) t)
  generalize h = h, result = result at hcourse ⊢
  refine ⟨?_, ?_, ?_, fun _ _ _ _ hsame => hsame.ofDocument_eq_ok_iff, fun _ _ _ _ hagree => hagree.ofText_eq_ok_iff⟩
  · cases hcourse with
    | unreadable e hno => exact iff_of_true ⟨e, rfl⟩ (not_exists.mpr hno)
    | read htext hpassing => exact iff_of_false (not_exists.mpr ofTextAt_ne_unreadable) (not_not.mpr ⟨_, htext⟩)
  · cases hcourse with
    | unreadable e hno => exact iff_of_false nofun fun ⟨text, htext, _⟩ => hno text htext
    | read htext hpassing =>
      rw [exists_ofTextAt_eq_malformed_iff, exists_ofText_eq_error_iff]
      constructor
      · exact fun hwrong => ⟨_, htext, hwrong⟩
      · rintro ⟨text', htext', hwrong⟩
        rwa [← htext.unique htext']
  · intro c
    cases hcourse with
    | unreadable e hno => exact iff_of_false nofun fun ⟨text, _, _, htext, _⟩ => hno text htext
    | read htext hpassing =>
      rw [ofTextAt_eq_ok_iff, ofText_eq_ok_iff]
      constructor
      · rintro ⟨d, hread, htakes⟩
        exact ⟨_, d, _, htext, hread, (hpassing _).mpr rfl, htakes⟩
      · rintro ⟨text', d, temporary', htext', hread, htemporary, htakes⟩
        obtain rfl := htext.unique htext'
        obtain rfl := (hpassing _).mp htemporary
        exact ⟨d, hread, htakes⟩

/-- A document with a table in it that has a key of the same name, and one with the same settings in another order. -/
theorem ofFile_settings_reordered :
    let text := "max_args = 3\nprompt = \"$ \"\n[a]\nprompt = 5\n"
    let text' := "prompt = \"$ \"\nb = 1\nmax_args = 3\n"
    let system := Startup.filled (Utf8.encode text) (.ok ⟨[Path.slash]⟩) (.ok ())
    let path : Path := .ofString "/c"
    let c : Config := { prompt := "$ ", limits := { maxArgs := 3 }, logDirectory := .ofString "/tmp" }
    ((ofFile path).run system ()).1 = .ok c ∧ Agree text text' ∧ ofText (.ofString "/tmp") text' = .ok c := by
  intro text text' system path c
  obtain ⟨-, -, -, -, hagrees⟩ := ofFile_settings system path ()
  have htext : ofText (.ofString "/tmp") text = .ok c := by decide +kernel
  have hagree : Agree text text' := by
    obtain ⟨d, hread⟩ := Option.isSome_iff_exists.mp (by decide +kernel : (Toml.read text).isSome = true)
    obtain ⟨d', hread'⟩ := Option.isSome_iff_exists.mp (by decide +kernel : (Toml.read text').isSome = true)
    have hlines : Toml.statementsOf text = some [.entry ["max_args"] (.integer 3) ⟨11, 12⟩,
        .entry ["prompt"] (.string "$ ") ⟨22, 26⟩, .header false ["a"] ⟨27, 30⟩,
        .entry ["prompt"] (.integer 5) ⟨40, 41⟩] := by cbv
    have hlines' : Toml.statementsOf text' = some [.entry ["prompt"] (.string "$ ") ⟨9, 13⟩,
        .entry ["b"] (.integer 1) ⟨18, 19⟩, .entry ["max_args"] (.integer 3) ⟨31, 32⟩] := by cbv
    refine ⟨d, d', _, _, hread, hread', hlines, hlines', fun line hline => ?_⟩
    rw [keys] at hline
    simp only [Toml.Statement.lines, Toml.Statement.target, Toml.Statement.value?, Toml.Statement.scope, List.mem_cons]
    grind
  exact ⟨by decide +kernel, hagree, (hagrees _ _ _ _ hagree).mp htext⟩

end
end Config
end LineShell
