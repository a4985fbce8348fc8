import LineShell.Machine.Lookup
import Mathlib.Data.List.Basic
import Mathlib.Data.List.Induction

/-!
What paths mean. A path leads from name to name through the directories of a file tree: a dot stays, two dots lead
back to the directory above, which after a link is the one above its target, and a link is replaced by the path that
it holds. This is stated as a relation that knows of no rights and no limits but that on the links of one path. Where
nothing may refuse to be looked up, a walk through the tree of a machine is right for it.
-/

namespace LineShell
namespace Path

/-! ### The names along a path -/

/-- The names to go along. A path with a slash at its end leads on to the dot behind it. -/
def components (p : Path) : List Name := p.names ++ if p.endsInSlash then [Machine.dot] else []

/-- A name that an entry can have. -/
structure IsName (n : Name) : Prop where
  ne_nil : n ≠ []
  ne_dot : n ≠ Machine.dot
  ne_dotDot : n ≠ Machine.dotDot
  slash_notMem : slash ∉ n
  nul_notMem : 0 ∉ n

instance (n : Name) : Decidable (IsName n) :=
  decidable_of_iff (n ≠ [] ∧ n ≠ Machine.dot ∧ n ≠ Machine.dotDot ∧ slash ∉ n ∧ 0 ∉ n)
    ⟨fun ⟨hne, hdot, hdotDot, hslash, hnul⟩ => ⟨hne, hdot, hdotDot, hslash, hnul⟩,
      fun h => ⟨h.ne_nil, h.ne_dot, h.ne_dotDot, h.slash_notMem, h.nul_notMem⟩⟩

theorem pieces_ne_nil (bs : Bytes) : pieces bs ≠ [] := by
  cases bs with
  | nil => exact List.cons_ne_nil _ _
  | cons b bs =>
    rw [pieces]
    split
    · exact List.cons_ne_nil _ _
    · split <;> exact List.cons_ne_nil _ _

theorem pieces_append_slash (xs ys : Bytes) : pieces (xs ++ slash :: ys) = pieces xs ++ pieces ys := by
  induction xs with
  | nil => simp [pieces]
  | cons b xs ih =>
    obtain ⟨p, ps, hxs⟩ := List.exists_cons_of_ne_nil (pieces_ne_nil xs)
    by_cases hb : b = slash <;> simp [pieces, hb, ih, hxs]

theorem pieces_eq_singleton {bs : Bytes} (h : slash ∉ bs) : pieces bs = [bs] := by
  induction bs with
  | nil => rfl
  | cons b bs ih =>
    rw [List.mem_cons, not_or] at h
    rw [pieces, if_neg (Ne.symm h.1), ih h.2]

theorem flatten_pieces (bs : Bytes) : (pieces bs).flatten = bs.filter (· ≠ slash) := by
  induction bs with
  | nil => rfl
  | cons b bs ih =>
    obtain ⟨p, ps, hbs⟩ := List.exists_cons_of_ne_nil (pieces_ne_nil bs)
    rw [hbs] at ih
    by_cases hb : b = slash
    · rw [List.filter_cons_of_neg (by simpa using hb), ← ih, ← hbs, pieces, if_pos hb]
      rfl
    · rw [List.filter_cons_of_pos (by simpa using hb), ← ih, pieces, if_neg hb, hbs]
      rfl

theorem names_append_slash (xs ys : Bytes) : names ⟨xs ++ slash :: ys⟩ = names ⟨xs⟩ ++ names ⟨ys⟩ := by
  simp only [names, pieces_append_slash, List.filter_append]

theorem names_eq_singleton {n : Name} (hn : IsName n) : names ⟨n⟩ = [n] := by
  simp [names, pieces_eq_singleton hn.slash_notMem, hn.ne_nil]

/-- A path without names has nothing but slashes in it. -/
theorem eq_slash_of_names {p : Path} (h : p.names = []) : ∀ b ∈ p.bytes, b = slash := by
  have hslashes : p.bytes.filter (· ≠ slash) = [] := by
    rw [← flatten_pieces, List.flatten_eq_nil_iff]
    simpa [names] using h
  simpa [List.filter_eq_nil_iff] using hslashes

theorem isAbsolute_of_names {p : Path} (hp : p.bytes ≠ []) (h : p.names = []) : p.isAbsolute = true := by
  have hfirst := eq_slash_of_names h _ (List.head_mem hp)
  simp [isAbsolute, List.head?_eq_some_head hp, hfirst]

theorem components_ne_nil {p : Path} (hp : p.bytes ≠ []) : p.components ≠ [] := by
  intro h
  obtain ⟨hnames, hend⟩ := List.append_eq_nil_iff.mp h
  have hlast := eq_slash_of_names hnames _ (List.getLast_mem hp)
  simp [endsInSlash, List.getLast?_eq_some_getLast hp, hlast] at hend

theorem components_name {n : Name} (hn : IsName n) : components ⟨n⟩ = [n] := by
  have hend : endsInSlash ⟨n⟩ = false := by
    simpa [endsInSlash] using fun h => hn.slash_notMem (List.mem_of_getLast? h)
  rw [components, names_eq_singleton hn, hend]
  rfl

/-! ### The paths of locations -/

section
variable {l : List Name} {p : Path}

theorem isAbsolute_ofNames : (ofNames l).isAbsolute = true := by
  cases l <;> rfl

theorem names_flatMap (hl : ∀ n ∈ l, IsName n) : names ⟨l.flatMap (slash :: ·)⟩ = l := by
  induction l using List.reverseRecOn with
  | nil => rfl
  | append_singleton l n ih =>
    obtain ⟨hl, hn⟩ := List.forall_mem_append.mp hl
    rw [List.flatMap_append, List.flatMap_singleton, names_append_slash, ih hl,
      names_eq_singleton (List.forall_mem_singleton.mp hn)]

theorem ofNames_concat (l : List Name) (n : Name) : ofNames (l ++ [n]) = ⟨l.flatMap (slash :: ·) ++ slash :: n⟩ := by
  have hbytes : (l ++ [n]).flatMap (slash :: ·) = l.flatMap (slash :: ·) ++ slash :: n := by
    rw [List.flatMap_append, List.flatMap_singleton]
  rw [← hbytes]
  cases l <;> rfl

theorem length_ofNames_le (l : List Name) (n : Name) :
    (ofNames l).bytes.length ≤ (ofNames (l ++ [n])).bytes.length := by
  rw [ofNames_concat, List.length_append, List.length_cons]
  cases l with
  | nil => exact Nat.le_add_left _ _
  | cons m l => exact Nat.le_add_right _ _

theorem getLast?_ofNames (hl : ∀ n ∈ l, IsName n) (hne : l ≠ []) : (ofNames l).bytes.getLast? ≠ some slash := by
  induction l using List.reverseRecOn with
  | nil => exact absurd rfl hne
  | append_singleton l n =>
    have hn := List.forall_mem_singleton.mp (List.forall_mem_append.mp hl).2
    rw [ofNames_concat, List.append_cons, List.getLast?_append_of_ne_nil _ hn.ne_nil]
    exact fun h => hn.slash_notMem (List.mem_of_getLast? h)

theorem components_ofNames (hl : ∀ n ∈ l, IsName n) (hne : l ≠ []) : (ofNames l).components = l := by
  have hnames : (ofNames l).names = l := by
    cases l with
    | nil => exact absurd rfl hne
    | cons n l => exact names_flatMap hl
  have hend : (ofNames l).endsInSlash = false := by simpa [endsInSlash] using getLast?_ofNames hl hne
  rw [components, hnames, hend]
  exact List.append_nil l

/-- A relative path is taken from a location by writing it behind, with a slash. -/
theorem join_ofNames (hl : ∀ n ∈ l, IsName n) (hp : p.isAbsolute = false) :
    (ofNames l).join p = ⟨l.flatMap (slash :: ·) ++ slash :: p.bytes⟩ := by
  rw [join, if_neg (by simp [hp])]
  cases l with
  | nil => rfl
  | cons n l =>
    have hend := getLast?_ofNames hl (List.cons_ne_nil _ _)
    have hne : (ofNames (n :: l)).bytes.isEmpty = false := rfl
    rw [if_neg (by simpa [hne] using hend)]
    rfl

theorem components_join (hl : ∀ n ∈ l, IsName n) (hp : p.isAbsolute = false) (hne : p.bytes ≠ []) :
    ((ofNames l).join p).components = l ++ p.components := by
  obtain ⟨bytes⟩ := p
  have hend : endsInSlash ⟨l.flatMap (slash :: ·) ++ slash :: bytes⟩ = endsInSlash ⟨bytes⟩ := by
    rw [endsInSlash, endsInSlash, List.append_cons, List.getLast?_append_of_ne_nil _ hne]
  rw [join_ofNames hl hp, components, hend, names_append_slash, names_flatMap hl, List.append_assoc, components]

theorem nul_notMem_flatMap (hl : ∀ n ∈ l, IsName n) : 0 ∉ l.flatMap (slash :: ·) := by
  intro h
  obtain ⟨n, hn, hmem⟩ := List.mem_flatMap.mp h
  rcases List.mem_cons.mp hmem with hslash | hmem
  · cases hslash
  · exact (hl n hn).nul_notMem hmem

theorem nul_notMem_ofNames (hl : ∀ n ∈ l, IsName n) : 0 ∉ (ofNames l).bytes := by
  cases l with
  | nil => decide
  | cons n l => exact nul_notMem_flatMap hl

end
end Path

namespace Machine

/-- The rights of a directory. -/
def Node.rights? : Node → Option Nat
  | .directory mode _ => some mode
  | _ => none

theorem mem_of_lookup {α β : Type} [BEq α] [LawfulBEq α] {k : α} {v : β} {xs : List (α × β)}
    (h : xs.lookup k = some v) : (k, v) ∈ xs := by
  obtain ⟨before, after, rfl, -⟩ := List.lookup_eq_some_iff.mp h
  exact List.mem_append_right _ List.mem_cons_self

namespace FileTree

/-! ### Where paths lead -/

section
variable (t : FileTree)

/-- Something that is not a link stands at a location. -/
def Stands (l : Location) : Prop := ∃ node, t.get? l = some node ∧ ∀ target, node ≠ .link target

/-- Entries have proper names, and are in directories. -/
structure Wellformed : Prop where
  names : ∀ e ∈ t.entries, ∀ n ∈ e.1, Path.IsName n
  parent : ∀ e ∈ t.entries, t.isDirectory e.1.dropLast = true

instance : Decidable t.Wellformed :=
  decidable_of_iff ((∀ e ∈ t.entries, ∀ n ∈ e.1, Path.IsName n) ∧ ∀ e ∈ t.entries, t.isDirectory e.1.dropLast = true)
    ⟨fun ⟨hnames, hparent⟩ => ⟨hnames, hparent⟩, fun h => ⟨h.names, h.parent⟩⟩

/-- What there is to go along where a link stands in the way: what it holds, and then the rest. -/
def followed (target : Path) (rest : List Name) : List Name :=
  if rest = [] then target.components else target.names ++ rest

/-- From a directory, names lead to a location through so many links. -/
inductive Resolves : Nat → Location → List Name → Location → Prop
  | here (l : Location) : Resolves 0 l [] l
  | dot {links : Nat} {here goal : Location} {rest : List Name} (hhere : t.isDirectory here = true)
    (hrest : Resolves links here rest goal) : Resolves links here (Machine.dot :: rest) goal
  | dotDot {links : Nat} {here goal : Location} {rest : List Name} (hhere : t.isDirectory here = true)
    (hrest : Resolves links here.dropLast rest goal) : Resolves links here (Machine.dotDot :: rest) goal
  | enter {links : Nat} {here goal : Location} {name : Name} {rest : List Name} (hhere : t.isDirectory here = true)
    (hname : name ≠ Machine.dot ∧ name ≠ Machine.dotDot) (hnext : t.isDirectory (here ++ [name]) = true)
    (hrest : Resolves links (here ++ [name]) rest goal) : Resolves links here (name :: rest) goal
  | arrive {here : Location} {name : Name} (hhere : t.isDirectory here = true)
    (hname : name ≠ Machine.dot ∧ name ≠ Machine.dotDot) (hstands : t.Stands (here ++ [name])) :
    Resolves 0 here [name] (here ++ [name])
  | follow {links : Nat} {here goal : Location} {name : Name} {target : Bytes} {rest : List Name}
    (hhere : t.isDirectory here = true) (hname : name ≠ Machine.dot ∧ name ≠ Machine.dotDot)
    (hlink : t.get? (here ++ [name]) = some (.link target)) (htarget : target ≠ [])
    (hrest : Resolves links (if (⟨target⟩ : Path).isAbsolute then [] else here) (followed ⟨target⟩ rest) goal) :
    Resolves (links + 1) here (name :: rest) goal

/-- A path leads to a location, from the root or else from `base`, and through no more links than are allowed. -/
structure Realpath (base : Location) (limit : Nat) (path : Path) (goal : Location) : Prop where
  ne_nil : path.bytes ≠ []
  nul_notMem : 0 ∉ path.bytes
  resolves : ∃ links ≤ limit, t.Resolves links (if path.isAbsolute then [] else base) path.components goal

end

section
variable {t : FileTree} {base here goal l l' : Location} {links limit : Nat} {name : Name} {rest : List Name}
  {node : Node}

theorem isDirectory_iff : t.isDirectory l = true ↔ ∃ mode isSealed, t.get? l = some (.directory mode isSealed) := by
  unfold isDirectory
  split
  · next mode isSealed h => exact ⟨fun _ => ⟨mode, isSealed, h⟩, fun _ => rfl⟩
  · next h => exact ⟨nofun, fun ⟨mode, isSealed, hget⟩ => absurd hget (h mode isSealed)⟩

theorem isDirectory_root : t.isDirectory [] = true := rfl

theorem stands_of_isDirectory (h : t.isDirectory l = true) : t.Stands l := by
  obtain ⟨mode, isSealed, hget⟩ := isDirectory_iff.mp h
  exact ⟨_, hget, nofun⟩

theorem mem_entries_of_get? (h : t.get? l = some node) (hl : l ≠ []) : (l, node) ∈ t.entries := by
  rw [get?, if_neg hl] at h
  exact mem_of_lookup h

theorem Wellformed.isName (ht : t.Wellformed) (h : t.get? l = some node) : ∀ n ∈ l, Path.IsName n := by
  by_cases hl : l = []
  · simp [hl]
  · exact ht.names _ (mem_entries_of_get? h hl)

theorem Wellformed.isDirectory_dropLast (ht : t.Wellformed) (h : t.get? l = some node) :
    t.isDirectory l.dropLast = true := by
  by_cases hl : l = []
  · rw [hl]
    rfl
  · exact ht.parent _ (mem_entries_of_get? h hl)

theorem Wellformed.isDirectory_of_append (ht : t.Wellformed) (h : t.isDirectory (l ++ l') = true) :
    t.isDirectory l = true := by
  induction l' using List.reverseRecOn with
  | nil => rwa [List.append_nil] at h
  | append_singleton l' n ih =>
    obtain ⟨mode, isSealed, hget⟩ := isDirectory_iff.mp h
    have hparent := ht.isDirectory_dropLast hget
    rw [← List.append_assoc, List.dropLast_concat] at hparent
    exact ih hparent

/-- What can come of the first name. -/
theorem resolves_cons_iff :
    t.Resolves links here (name :: rest) goal ↔ t.isDirectory here = true ∧
      if name = dot then t.Resolves links here rest goal
      else if name = dotDot then t.Resolves links here.dropLast rest goal
      else match t.get? (here ++ [name]) with
        | none => False
        | some (.directory _ _) => t.Resolves links (here ++ [name]) rest goal
        | some (.link target) => ∃ n, links = n + 1 ∧ target ≠ [] ∧
          t.Resolves n (if (⟨target⟩ : Path).isAbsolute then [] else here) (followed ⟨target⟩ rest) goal
        | some _ => links = 0 ∧ rest = [] ∧ goal = here ++ [name] := by
  constructor
  · intro h
    cases h with
    | dot hhere hrest => exact ⟨hhere, by rwa [if_pos rfl]⟩
    | dotDot hhere hrest => exact ⟨hhere, by rwa [if_neg (by decide), if_pos rfl]⟩
    | enter hhere hname hnext hrest =>
      obtain ⟨mode, isSealed, hget⟩ := isDirectory_iff.mp hnext
      exact ⟨hhere, by simpa only [if_neg hname.1, if_neg hname.2, hget]⟩
    | arrive hhere hname hstands =>
      obtain ⟨node, hget, hlink⟩ := hstands
      refine ⟨hhere, ?_⟩
      rw [if_neg hname.1, if_neg hname.2, hget]
      cases node with
      | directory mode isSealed => exact .here _
      | link target => exact absurd rfl (hlink target)
      | _ => exact ⟨rfl, rfl, rfl⟩
    | follow hhere hname hlink htarget hrest =>
      exact ⟨hhere, by simpa only [if_neg hname.1, if_neg hname.2, hlink] using ⟨_, rfl, htarget, hrest⟩⟩
  · rintro ⟨hhere, h⟩
    split at h
    · next hdot => exact hdot ▸ .dot hhere h
    split at h
    · next hdotDot => exact hdotDot ▸ .dotDot hhere h
    next hdot hdotDot =>
    split at h
    · exact h.elim
    · next hget => exact .enter hhere ⟨hdot, hdotDot⟩ (isDirectory_iff.mpr ⟨_, _, hget⟩) h
    · next hget =>
      obtain ⟨n, rfl, htarget, hrest⟩ := h
      exact .follow hhere ⟨hdot, hdotDot⟩ hget htarget hrest
    · next node _ hlink hget =>
      obtain ⟨rfl, rfl, rfl⟩ := h
      exact .arrive hhere ⟨hdot, hdotDot⟩ ⟨node, hget, hlink⟩

/-- The names of a directory lead to it from each directory on the way. -/
theorem Resolves.along (ht : t.Wellformed) (h : t.isDirectory (l ++ l') = true)
    (hrest : t.Resolves links (l ++ l') rest goal) : t.Resolves links l (l' ++ rest) goal := by
  induction l' generalizing l with
  | nil => rwa [List.append_nil] at hrest
  | cons n l' ih =>
    obtain ⟨mode, isSealed, hget⟩ := isDirectory_iff.mp h
    have hn := ht.isName hget n (by simp)
    have hhere := ht.isDirectory_of_append h
    rw [List.append_cons] at h hrest
    exact .enter hhere ⟨hn.ne_dot, hn.ne_dotDot⟩ (ht.isDirectory_of_append h) (ih h hrest)

theorem Resolves.stands (ht : t.Wellformed) (h : t.Resolves links here rest goal) (hhere : t.Stands here) :
    t.Stands goal := by
  induction h with
  | here l => exact hhere
  | dot _ _ ih => exact ih hhere
  | dotDot hdirectory _ ih =>
    obtain ⟨mode, isSealed, hget⟩ := isDirectory_iff.mp hdirectory
    exact ih (stands_of_isDirectory (ht.isDirectory_dropLast hget))
  | enter _ _ hnext _ ih => exact ih (stands_of_isDirectory hnext)
  | arrive _ _ hstands => exact hstands
  | follow hdirectory _ _ _ _ ih =>
    refine ih ?_
    split
    · exact stands_of_isDirectory isDirectory_root
    · exact stands_of_isDirectory hdirectory

theorem Realpath.stands {path : Path} (ht : t.Wellformed) (h : t.Realpath base limit path goal) : t.Stands goal := by
  obtain ⟨n, -, hresolves⟩ := h.resolves
  obtain ⟨name, rest, hcomponents⟩ := List.exists_cons_of_ne_nil (Path.components_ne_nil h.ne_nil)
  rw [hcomponents] at hresolves
  exact hresolves.stands ht (stands_of_isDirectory (resolves_cons_iff.mp hresolves).1)

/-- The path of what stands at a location leads there. -/
theorem realpath_ofNames (ht : t.Wellformed) (hl : t.Stands l) : t.Realpath base limit (.ofNames l) l := by
  obtain ⟨node, hget, hlink⟩ := hl
  have hnames := ht.isName hget
  refine ⟨by cases l <;> exact List.cons_ne_nil _ _, Path.nul_notMem_ofNames hnames, 0, Nat.zero_le _, ?_⟩
  rw [if_pos Path.isAbsolute_ofNames]
  induction l using List.reverseRecOn with
  | nil => exact .dot isDirectory_root (.here _)
  | append_singleton l n =>
    have hparent := ht.isDirectory_dropLast hget
    rw [List.dropLast_concat] at hparent
    have hn := hnames n (by simp)
    rw [Path.components_ofNames hnames (by simp)]
    exact Resolves.along ht hparent (.arrive hparent ⟨hn.ne_dot, hn.ne_dotDot⟩ ⟨node, hget, hlink⟩)

/-- Where a relative path leads from a directory, there the two paths lead when they are joined. -/
theorem realpath_join {p : Path} (ht : t.Wellformed) (hl : t.isDirectory l = true) (hp : p.isAbsolute = false)
    (hne : p.bytes ≠ []) (hnul : 0 ∉ p.bytes) (hlimit : links ≤ limit) (h : t.Resolves links l p.components goal) :
    t.Realpath base limit ((Path.ofNames l).join p) goal := by
  obtain ⟨mode, isSealed, hget⟩ := isDirectory_iff.mp hl
  have hnames := ht.isName hget
  have hjoin := Path.join_ofNames hnames hp
  have habsolute : ((Path.ofNames l).join p).isAbsolute = true := by
    rw [hjoin]
    cases l <;> rfl
  refine ⟨by simp [hjoin], ?_, links, hlimit, ?_⟩
  · rw [hjoin]
    intro hmem
    rcases List.mem_append.mp hmem with hmem | hmem
    · exact Path.nul_notMem_flatMap hnames hmem
    · rcases List.mem_cons.mp hmem with hslash | hmem
      · cases hslash
      · exact hnul hmem
  · rw [if_pos habsolute, Path.components_join hnames hp hne]
    exact Resolves.along ht hl h

/-! ### Walks -/

variable (t) in
/-- Nothing refuses to be looked up: every directory may be searched, and no name is too long. -/
structure Open : Prop where
  searchable : ∀ e ∈ t.entries, ∀ mode ∈ e.2.rights?, isSearchable mode = true
  short : ∀ e ∈ t.entries, ∀ n ∈ e.1, n.length ≤ maxName

instance : Decidable t.Open :=
  decidable_of_iff ((∀ e ∈ t.entries, ∀ mode ∈ e.2.rights?, isSearchable mode = true) ∧
      ∀ e ∈ t.entries, ∀ n ∈ e.1, n.length ≤ maxName)
    ⟨fun ⟨hsearchable, hshort⟩ => ⟨hsearchable, hshort⟩, fun h => ⟨h.searchable, h.short⟩⟩

theorem Open.isSearchable {mode : Nat} {isSealed : Bool} (hopen : t.Open)
    (hget : t.get? l = some (.directory mode isSealed)) : isSearchable mode = true := by
  by_cases hl : l = []
  · subst hl
    cases hget
    rfl
  · exact hopen.searchable _ (mem_entries_of_get? hget hl) mode rfl

theorem followed_append (target : Path) (rest : List Name) (slashed : Bool) :
    followed target (rest ++ if slashed then [dot] else []) =
      target.names ++ rest ++ if slashed || rest.isEmpty && target.endsInSlash then [dot] else [] := by
  cases slashed <;> cases rest <;> simp [followed, Path.components]

/-- By the cases of a walk. It starts from a directory even where no names are left. -/
theorem walk_eq_taken_iff {slashed : Bool} {names : List Name} (ht : t.Wellformed) (hopen : t.Open)
    (hhere : names = [] → t.isDirectory here = true) :
    walk t .reach links here slashed names = .ok (.taken goal) ↔
      ∃ n ≤ links, t.Resolves n here (names ++ if slashed then [dot] else []) goal := by
  fun_induction walk t .reach links here slashed names with
  | case1 links here slashed =>
    have hdirectory := hhere rfl
    cases slashed with
    | false =>
      constructor
      · rintro ⟨⟩
        exact ⟨0, Nat.zero_le _, .here _⟩
      · rintro ⟨n, -, h⟩
        cases h
        rfl
    | true =>
      constructor
      · rintro ⟨⟩
        exact ⟨0, Nat.zero_le _, .dot hdirectory (.here _)⟩
      · rintro ⟨n, -, h⟩
        obtain ⟨-, hrest⟩ := resolves_cons_iff.mp h
        cases hrest
        rfl
  | case3 links here slashed name rest mode isSealed hget hsearch =>
    rw [hopen.isSearchable hget] at hsearch
    cases hsearch
  | case4 links here slashed rest mode isSealed hget hsearch ih =>
    have hdirectory := isDirectory_iff.mpr ⟨_, _, hget⟩
    simp [ih fun _ => hdirectory, resolves_cons_iff, hdirectory]
  | case5 links here slashed rest mode isSealed hget hsearch hname ih =>
    have hdirectory := isDirectory_iff.mpr ⟨_, _, hget⟩
    simp [ih fun _ => ht.isDirectory_dropLast hget, resolves_cons_iff, hdirectory, hname]
  | case7 links here slashed name rest mode isSealed hget hsearch hdot hdotDot _ hlong =>
    -- There is no such entry.
    have hnone : t.get? (here ++ [name]) = none := by
      by_contra h
      obtain ⟨node, hnode⟩ := Option.ne_none_iff_exists'.mp h
      have hshort := hopen.short _ (mem_entries_of_get? hnode (by simp)) name (by simp)
      omega
    simp [resolves_cons_iff, hdot, hdotDot, hnone]
  | case10 links here slashed name rest mode isSealed hget hsearch hdot hdotDot _ _ mode' isSealed' hnext ih =>
    have hdirectory := isDirectory_iff.mpr ⟨_, _, hget⟩
    simp [ih fun _ => isDirectory_iff.mpr ⟨_, _, hnext⟩, resolves_cons_iff, hdirectory, hdot, hdotDot, hnext]
  | case14 here slashed name rest mode isSealed hget hsearch hdot hdotDot _ _ target hlink _ links path htarget ih =>
    have hdirectory := isDirectory_iff.mpr ⟨_, _, hget⟩
    have hbase : t.isDirectory (if path.isAbsolute then [] else here) = true := by
      split
      · exact isDirectory_root
      · exact hdirectory
    rw [dite_eq_ite, ← followed_append] at ih
    rw [ih fun _ => hbase]
    constructor
    · rintro ⟨n, hn, hrest⟩
      exact ⟨n + 1, Nat.succ_le_succ hn, .follow hdirectory ⟨hdot, hdotDot⟩ hlink htarget hrest⟩
    · rintro ⟨n, hn, h⟩
      rw [List.cons_append, resolves_cons_iff, if_neg hdot, if_neg hdotDot, hlink] at h
      obtain ⟨-, k, rfl, -, hrest⟩ := h
      exact ⟨k, Nat.le_of_succ_le_succ hn, hrest⟩
  | case15 links here slashed name rest mode isSealed hget hsearch hdot hdotDot _ _ node hother hlink hnode hlast =>
    have hdirectory := isDirectory_iff.mpr ⟨_, _, hget⟩
    obtain ⟨rfl, hslashed⟩ := hlast
    rw [Bool.not_eq_true'] at hslashed
    subst hslashed
    constructor
    · rintro ⟨⟩
      exact ⟨0, Nat.zero_le _, .arrive hdirectory ⟨hdot, hdotDot⟩ ⟨node, hnode, hlink⟩⟩
    · rintro ⟨n, -, h⟩
      simp_all [resolves_cons_iff]
  | _ => simp_all [resolves_cons_iff, isDirectory]

theorem follow_eq_taken_iff {path : Path} (ht : t.Wellformed) (hopen : t.Open) :
    t.follow .reach base path = .ok (.taken goal) ↔ t.Realpath base maxLinks path goal := by
  unfold follow
  by_cases hnul : 0 ∈ path.bytes
  · rw [if_pos (by simpa using hnul)]
    exact ⟨nofun, fun h => absurd hnul h.nul_notMem⟩
  rw [if_neg (by simpa using hnul)]
  by_cases hne : path.bytes = []
  · rw [if_pos hne]
    exact ⟨nofun, fun h => absurd hne h.ne_nil⟩
  have hstart : path.names = [] → t.isDirectory (if path.isAbsolute then [] else base) = true := by
    intro hnames
    rw [if_pos (Path.isAbsolute_of_names hne hnames)]
    rfl
  rw [if_neg hne]
  constructor
  · intro h
    refine ⟨hne, hnul, (walk_eq_taken_iff ht hopen hstart).mp ?_⟩
    cases hplace : walk t .reach maxLinks (if path.isAbsolute then [] else base) path.endsInSlash path.names with
    | error e =>
      rw [hplace] at h
      cases h
    | ok place =>
      rw [hplace] at h
      cases h
      rfl
  · intro h
    rw [(walk_eq_taken_iff ht hopen hstart).mpr h.resolves]
    rfl

theorem canonical_eq_ok_iff {path canonical : Path} (ht : t.Wellformed) (hopen : t.Open) :
    t.canonical base path = .ok canonical ↔
      ∃ goal, t.Realpath base maxLinks path goal ∧ canonical = .ofNames goal := by
  simp only [← follow_eq_taken_iff ht hopen]
  rw [FileTree.canonical]
  rcases t.follow .reach base path with e | (l | l)
  · exact ⟨nofun, nofun⟩
  · constructor
    · rintro ⟨⟩
      exact ⟨l, rfl, rfl⟩
    · rintro ⟨_, ⟨⟩, rfl⟩
      rfl
  · exact ⟨nofun, nofun⟩

/-- What stands at a location is reached by its path, unless that is too long. -/
theorem reach_ofNames_eq_ok_iff (ht : t.Wellformed) (hopen : t.Open) (hl : t.Stands l) :
    t.reach base (.ofNames l) = .ok l' ↔ l' = l ∧ (Path.ofNames l).bytes.length < maxPath := by
  have hfollow : t.follow .reach base (.ofNames l) = .ok (.taken l) :=
    (follow_eq_taken_iff ht hopen).mpr (realpath_ofNames ht hl)
  obtain ⟨node, hget, -⟩ := hl
  have hnul := Path.nul_notMem_ofNames (ht.isName hget)
  by_cases hlong : maxPath ≤ (Path.ofNames l).bytes.length
  · have hlocate : t.locate .reach base (.ofNames l) = .error (.os .enametoolong) := by
      simp [locate, hnul, hlong]
    rw [reach, hlocate]
    exact ⟨nofun, fun h => absurd hlong (Nat.not_le_of_lt h.2)⟩
  · have hlocate : t.locate .reach base (.ofNames l) = .ok (.taken l) := by
      simp [locate, hlong, hfollow]
    rw [reach, hlocate]
    constructor
    · rintro ⟨⟩
      exact ⟨rfl, Nat.lt_of_not_le hlong⟩
    · rintro ⟨rfl, -⟩
      rfl

end
end FileTree
end Machine
end LineShell
