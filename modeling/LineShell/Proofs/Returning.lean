import LineShell.Machine.Standard
import LineShell.Machine.System
import LineShell.Proofs.AllOrNothing
import LineShell.Proofs.Encoding
import LineShell.Proofs.Purposes
import LineShell.Proofs.Resolution

/-!
Going where one has been. The working directory that `pwd` shows is one that `cd` goes to again, from wherever, and
what is shown then is the same. This rests on what a path means: a directory that `cd` has found is held by its
canonical path, which leads to it without a link, so that nothing can lead elsewhere as long as the files stay as
they are.
-/

namespace LineShell

open Machine (Location FileTree locationOf)

/-- In the states that satisfy `I`, the surroundings give paths the meaning that they have in a file tree, from the
directory `base` of their process. What they refuse is a path that goes through more than `limit` links, and to look
at one of `longest` bytes or more; they refuse nothing for its rights. To look at files changes nothing of this. -/
structure Posix {σ : Type} (system : System σ) (I : σ → Prop) (t : FileTree) (base : Location) (limit longest : Nat) :
    Prop where
  stays : ∀ r u, r.purpose = .looking → I u → I (system.answer r u).2
  canonicalize : ∀ path canonical u, I u →
    ((system.answer (.canonicalize path) u).1 = .ok canonical ↔
      ∃ l, t.Realpath base limit path l ∧ canonical = .ofNames l)
  examine : ∀ l u, I u → t.Stands l →
    ((system.answer (.examine (.ofNames l)) u).1 = .ok .directory ↔
      t.isDirectory l = true ∧ (Path.ofNames l).bytes.length < longest)
  checkSearch : ∀ l u, I u → t.isDirectory l = true → (Path.ofNames l).bytes.length < longest →
    (system.answer (.checkSearch (.ofNames l)) u).1 = .ok ()

/-! ### Machines as such surroundings -/

namespace Machine

variable {m : Machine}

theorem answer_of_looking {r : Request} (h : r.purpose = .looking) : (answer r m).2 = m := by
  cases r <;> first | rfl | cases h

theorem kindOf_eq_directory_iff {path : Path} :
    m.kindOf path = .ok .directory ↔
      ∃ status, m.examineEntry m.shellSetting path true = .ok status ∧ status.kind = .directory := by
  rw [kindOf]
  rcases m.examineEntry m.shellSetting path true with e | ⟨kind, _, _, _, _, _⟩
  · exact ⟨nofun, nofun⟩
  · constructor
    · intro h
      cases kind <;> cases h
      exact ⟨_, rfl, rfl⟩
    · rintro ⟨_, ⟨⟩, ⟨⟩⟩
      rfl

/-- What is found at a location is a directory just if the tree has one there. A stream may lead to one elsewhere. -/
theorem kindOf_ofNames_iff {l : Location} (ht : m.tree.Wellformed) (hopen : m.tree.Open)
    (hfiles : ∀ f ∈ m.files, (m.statusOf f.2).kind ≠ .directory)
    (hl : m.tree.Stands l) :
    m.kindOf (.ofNames l) = .ok .directory ↔
      m.tree.isDirectory l = true ∧ (Path.ofNames l).bytes.length < maxPath := by
  rw [kindOf_eq_directory_iff, examineEntry, if_pos rfl]
  have hreach : ∀ l', m.tree.reach m.shellSetting.directory (.ofNames l) = .ok l' ↔
      l' = l ∧ (Path.ofNames l).bytes.length < maxPath :=
    fun l' => FileTree.reach_ofNames_eq_ok_iff ht hopen hl
  obtain ⟨node, hget, hlink⟩ := hl
  cases hplace : m.tree.reach m.shellSetting.directory (.ofNames l) with
  | error e =>
    constructor
    · rintro ⟨_, ⟨⟩, -⟩
    · intro h
      cases hplace.symm.trans ((hreach l).mpr ⟨rfl, h.2⟩)
  | ok place =>
    obtain ⟨rfl, hshort⟩ := (hreach place).mp hplace
    rw [FileTree.isDirectory]
    simp only [bind, Except.bind, hget, hshort, and_true]
    cases node with
    | directory mode isSealed => exact ⟨fun _ => rfl, fun _ => ⟨_, rfl, rfl⟩⟩
    | link target => exact absurd rfl (hlink target)
    | stream n =>
      refine ⟨?_, fun h => by cases h⟩
      dsimp only
      cases hstream : m.streamOf m.shellSetting n with
      | none => rintro ⟨_, ⟨⟩, -⟩
      | some f =>
        rintro ⟨_, ⟨⟩, hkind⟩
        obtain ⟨number, -, hfile⟩ := Option.bind_eq_some_iff.mp hstream
        exact absurd hkind (hfiles (number, f) (mem_of_lookup hfile))
    | _ =>
      refine ⟨?_, fun h => by cases h⟩
      rintro ⟨_, ⟨⟩, ⟨⟩⟩

/-- A machine on which nothing is refused is such surroundings, as long as it has no directory open. -/
theorem posix_system (ht : m.tree.Wellformed) (hopen : m.tree.Open)
    (hfiles : ∀ f ∈ m.files, (m.statusOf f.2).kind ≠ .directory) :
    Posix Machine.system (· = m) m.tree m.directory maxLinks maxPath where
  stays r u hr hu := by
    subst hu
    exact answer_of_looking hr
  canonicalize path canonical u hu := by
    subst hu
    exact FileTree.canonical_eq_ok_iff ht hopen
  examine l u hu hl := by
    subst hu
    exact kindOf_ofNames_iff ht hopen hfiles hl
  checkSearch l u hu hl hshort := by
    subst hu
    have hreach : u.tree.reach u.shellSetting.directory (.ofNames l) = .ok l :=
      (FileTree.reach_ofNames_eq_ok_iff ht hopen (FileTree.stands_of_isDirectory hl)).mpr ⟨rfl, hshort⟩
    obtain ⟨mode, isSealed, hget⟩ := FileTree.isDirectory_iff.mp hl
    have henter : u.enterable u.shellSetting (.ofNames l) = .ok l := by
      simp only [enterable, hreach, bind, Except.bind, hget, hopen.isSearchable hget]
      rfl
    show ((u.enterable u.shellSetting (.ofNames l)).mapError errnoOf).map (fun _ => ()) = .ok ()
    rw [henter]
    rfl

end Machine

/-! ### Back and forth -/

namespace Builtin

/-- What `pwd` shows in a directory is a text, and `cd` with that text leads to the directory from wherever. -/
def Returns {σ : Type} (system : System σ) (directory : Path) (text : String) (u : σ) : Prop :=
  let shown := (Builtin.pwd.invoke directory []).run system u
  shown.1 = (.line text, directory) ∧
    ∀ origin, ((Builtin.cd.invoke origin [text]).run system shown.2).1 = (.success, directory)

section
variable {σ : Type} {system : System σ} {I : σ → Prop} {t : FileTree} {base l : Location} {limit longest : Nat}
  {directory : Path} {target text : String} {u : σ}
variable (hposix : Posix system I t base limit longest) (ht : t.Wellformed) (hu : I u)
include hposix hu

theorem invoke_keeps (b : Builtin) (directory : Path) (args : List String) :
    I ((b.invoke directory args).run system u).2 :=
  (for_invoke b directory args).keeps hposix.stays hu

theorem pwd_eq (hl : t.isDirectory l = true) (htext : Path.ofNames l = .ofString text)
    (hshort : (Path.ofNames l).bytes.length < longest) :
    ((Builtin.pwd.invoke (.ofNames l) []).run system u).1 = (.line text, .ofNames l) := by
  have hexamined := (hposix.examine l u hu (FileTree.stands_of_isDirectory hl)).mpr ⟨hl, hshort⟩
  have hshown : (Path.ofNames l).display = text := by rw [htext, Path.display, Path.ofString, Utf8.decodeLossy_encode]
  have hrun : ((Builtin.pwd.invoke (.ofNames l) []).run system u).1 =
      (.line (Path.ofNames l).display, .ofNames l) := by
    rw [invoke_eq rfl, execute, showDirectory, run_request_bind (Prod.ext hexamined rfl)]
    rfl
  rw [hrun, hshown]

include ht

/-- To be admitted is to be led to a directory. -/
theorem admits_iff {path canonical : Path} :
    Admits system u path canonical ↔ ∃ l, t.Realpath base limit path l ∧ canonical = .ofNames l ∧
      t.isDirectory l = true ∧ (Path.ofNames l).bytes.length < longest := by
  have hresolved := hposix.stays (.canonicalize path) u rfl hu
  constructor
  · rintro ⟨u₁, u₂, u₃, hcanonical, hexamined, -⟩
    rw [hcanonical] at hresolved
    obtain ⟨l, hpath, rfl⟩ := (hposix.canonicalize path canonical u hu).mp (by rw [hcanonical])
    obtain ⟨hdirectory, hshort⟩ := (hposix.examine l u₁ hresolved (hpath.stands ht)).mp (by rw [hexamined])
    exact ⟨l, hpath, rfl, hdirectory, hshort⟩
  · rintro ⟨l, hpath, rfl, hdirectory, hshort⟩
    have hexamined := hposix.stays (.examine (.ofNames l)) _ rfl hresolved
    refine ⟨_, _, _, Prod.ext ?_ rfl, Prod.ext ?_ rfl, Prod.ext ?_ rfl⟩
    · exact (hposix.canonicalize path (.ofNames l) u hu).mpr ⟨l, hpath, rfl⟩
    · exact (hposix.examine l _ hresolved (hpath.stands ht)).mpr ⟨hdirectory, hshort⟩
    · exact hposix.checkSearch l _ hexamined hdirectory hshort

theorem cd_eq (hpath : t.Realpath base limit (directory.join (.ofString target)) l) (hl : t.isDirectory l = true)
    (hshort : (Path.ofNames l).bytes.length < longest) :
    ((Builtin.cd.invoke directory [target]).run system u).1 = (.success, .ofNames l) :=
  (succeeds_iff_admits system directory u target).2 _
    ((admits_iff hposix ht hu).mpr ⟨l, hpath, rfl, hl, hshort⟩)

/-- A directory is returned to by its own path. -/
theorem returns_ofNames (hl : t.isDirectory l = true) (htext : Path.ofNames l = .ofString text)
    (hshort : (Path.ofNames l).bytes.length < longest) : Returns system (.ofNames l) text u := by
  refine ⟨pwd_eq hposix hu hl htext hshort, fun origin => ?_⟩
  have hjoin : origin.join (.ofString text) = .ofNames l := by
    rw [← htext, Path.join, if_pos Path.isAbsolute_ofNames]
  refine cd_eq hposix ht (invoke_keeps hposix hu _ _ _) ?_ hl hshort
  rw [hjoin]
  exact FileTree.realpath_ofNames ht (FileTree.stands_of_isDirectory hl)

/-- A relative target that leads to a directory without a link. -/
theorem cd_relative {here : Location} {names : List Name} (hhere : t.isDirectory here = true)
    (hrelative : (Path.ofString target).isAbsolute = false) (hne : (Path.ofString target).bytes ≠ [])
    (hnul : 0 ∉ (Path.ofString target).bytes) (hnames : (Path.ofString target).components = names)
    (hresolves : t.Resolves 0 here names l) (hl : t.isDirectory l = true)
    (hshort : (Path.ofNames l).bytes.length < longest) :
    ((Builtin.cd.invoke (.ofNames here) [target]).run system u).1 = (.success, .ofNames l) := by
  subst hnames
  exact cd_eq hposix ht hu (FileTree.realpath_join ht hhere hrelative hne hnul (Nat.zero_le _) hresolves) hl hshort

theorem cd_dot (hl : t.isDirectory l = true) (hshort : (Path.ofNames l).bytes.length < longest) :
    ((Builtin.cd.invoke (.ofNames l) ["."]).run system u).1 = (.success, .ofNames l) := by
  have hnames : (Path.ofString ".").components = [Machine.dot] := by decide
  exact cd_relative hposix ht hu hl (by decide) (by decide) (by decide) hnames (.dot hl (.here l)) hl hshort

theorem cd_dotDot {n : Name} (hl : t.isDirectory (l ++ [n]) = true)
    (hshort : (Path.ofNames (l ++ [n])).bytes.length < longest) :
    ((Builtin.cd.invoke (.ofNames (l ++ [n])) [".."]).run system u).1 = (.success, .ofNames l) := by
  have hnames : (Path.ofString "..").components = [Machine.dotDot] := by decide
  have hresolves : t.Resolves 0 (l ++ [n]) [Machine.dotDot] l := by
    refine .dotDot hl ?_
    rw [List.dropLast_concat]
    exact .here l
  exact cd_relative hposix ht hu hl (by decide) (by decide) (by decide) hnames hresolves
    (ht.isDirectory_of_append hl) (Nat.lt_of_le_of_lt (Path.length_ofNames_le l n) hshort)

theorem cd_name {name : String} (hl : t.isDirectory (l ++ [Utf8.encode name]) = true)
    (hshort : (Path.ofNames (l ++ [Utf8.encode name])).bytes.length < longest) :
    ((Builtin.cd.invoke (.ofNames l) [name]).run system u).1 = (.success, .ofNames (l ++ [Utf8.encode name])) := by
  obtain ⟨mode, isSealed, hget⟩ := FileTree.isDirectory_iff.mp hl
  have hn := ht.isName hget (Utf8.encode name) (by simp)
  have hhere := ht.isDirectory_of_append hl
  have hrelative : (Path.ofString name).isAbsolute = false := by
    simpa [Path.isAbsolute, Path.ofString] using fun h => hn.slash_notMem (List.mem_of_head? h)
  exact cd_relative hposix ht hu hhere hrelative hn.ne_nil hn.nul_notMem (Path.components_name hn)
    (.arrive hhere ⟨hn.ne_dot, hn.ne_dotDot⟩ (FileTree.stands_of_isDirectory hl)) hl hshort

end

/-- `cd` and `pwd` are inverse to each other. In a directory whose path is a text, and not too long to be used, `pwd`
shows what leads `cd` back from wherever; `.` stays there, and `..` and the name of the directory lead back to it.
Whatever a `cd` goes through, the path that it ends with means itself, so that to go there again changes nothing. -/
theorem cd_returns {σ : Type} {system : System σ} {I : σ → Prop} {t : FileTree} {base : Location} {limit longest : Nat}
    (hposix : Posix system I t base limit longest) (ht : t.Wellformed) :
    (∀ l text u, t.isDirectory l = true → Path.ofNames l = .ofString text →
      (Path.ofNames l).bytes.length < longest → I u →
      Returns system (.ofNames l) text u ∧
      ((Builtin.cd.invoke (.ofNames l) ["."]).run system u).1 = (.success, .ofNames l) ∧
      (l ≠ [] → ∃ name, l.getLast? = some (Utf8.encode name) ∧
        let above := (Builtin.cd.invoke (.ofNames l) [".."]).run system u
        above.1 = (.success, .ofNames l.dropLast) ∧
          ((Builtin.cd.invoke above.1.2 [name]).run system above.2).1 = (.success, .ofNames l))) ∧
    ∀ origin target u, I u →
      let moved := (Builtin.cd.invoke origin [target]).run system u
      moved.1.1.Succeeds → I moved.2 ∧ ∀ v, I v →
        (system.answer (.canonicalize moved.1.2) v).1 = .ok moved.1.2 ∧
          ∀ text, moved.1.2 = .ofString text → Returns system moved.1.2 text v := by
  refine ⟨fun l text u hl htext hshort hu => ⟨?_, cd_dot hposix ht hu hl hshort, fun hne => ?_⟩,
    fun origin target u hu => ?_⟩
  · exact returns_ofNames hposix ht hu hl htext hshort
  · obtain ⟨l, n, rfl⟩ : ∃ front n, l = front ++ [n] := ⟨_, _, (List.dropLast_concat_getLast hne).symm⟩
    rw [Path.ofNames_concat] at htext
    obtain ⟨name, rfl⟩ := Utf8.exists_encode_behind (by decide) (congrArg Path.bytes htext).symm
    have hup := cd_dotDot hposix ht hu hl hshort
    refine ⟨name, List.getLast?_concat, by rw [hup, List.dropLast_concat], ?_⟩
    rw [hup]
    exact cd_name hposix ht (invoke_keeps hposix hu _ _ _) hl hshort
  · intro moved hsucceeds
    obtain ⟨hiff, hmoved⟩ := succeeds_iff_admits system origin u target
    obtain ⟨canonical, hadmits⟩ := hiff.mp hsucceeds
    have hdirectory : moved.1.2 = canonical := congrArg Prod.snd (hmoved canonical hadmits)
    obtain ⟨l, -, rfl, hl, hshort⟩ := (admits_iff hposix ht hu).mp hadmits
    rw [hdirectory]
    refine ⟨invoke_keeps hposix hu _ _ _, fun v hv => ⟨?_, fun text htext => ?_⟩⟩
    · have hstands := FileTree.stands_of_isDirectory hl
      exact (hposix.canonicalize _ _ v hv).mpr ⟨l, FileTree.realpath_ofNames ht hstands, rfl⟩
    · exact returns_ofNames hposix ht hv hl htext hshort

/-- A link on the way: what is above it is above its target. -/
theorem cd_returns_linked :
    let tree : FileTree := { entries := [
      (locationOf ["srv"], .directory 0o755 false),
      (locationOf ["srv", "é"], .directory 0o700 false),
      (locationOf ["home"], .directory 0o755 false),
      (locationOf ["home", "up"], .link (Utf8.encode "../srv/./é/"))] }
    let m : Machine := { tree }
    let moved := (Builtin.cd.invoke (.ofString "/home") ["up/.."]).run Machine.system m
    let above := (Builtin.cd.invoke (.ofString "/srv/é") [".."]).run Machine.system m
    Posix Machine.system (· = m) tree [] Machine.maxLinks Machine.maxPath ∧ tree.Wellformed ∧
      Returns Machine.system (.ofString "/srv/é") "/srv/é" m ∧
      ((Builtin.cd.invoke (.ofString "/srv/é") ["."]).run Machine.system m).1 = (.success, .ofString "/srv/é") ∧
      above.1 = (.success, .ofString "/srv") ∧
      ((Builtin.cd.invoke above.1.2 ["é"]).run Machine.system above.2).1 = (.success, .ofString "/srv/é") ∧
      moved.1 = (.success, .ofString "/srv") ∧
      (Machine.system.answer (.canonicalize moved.1.2) m).1 = .ok moved.1.2 ∧
      Returns Machine.system moved.1.2 "/srv" m := by
  intro tree m moved above
  have ht : tree.Wellformed := by decide
  have hposix : Posix Machine.system (· = m) tree [] Machine.maxLinks Machine.maxPath :=
    Machine.posix_system ht (by decide) (by decide)
  have hpath : tree.Realpath [] Machine.maxLinks ((Path.ofString "/home").join (.ofString "up/.."))
      (locationOf ["srv"]) := by
    refine ⟨by decide, by decide, 1, by decide, ?_⟩
    have hcomponents : ((Path.ofString "/home").join (.ofString "up/..")).components =
        locationOf ["home", "up", ".."] := by decide
    have hrest : tree.Resolves 0 (locationOf ["home"]) (locationOf ["..", "srv", ".", "é", ".."])
        (locationOf ["srv"]) :=
      .dotDot rfl (.enter rfl (by decide) rfl (.dot rfl (.enter rfl (by decide) rfl (.dotDot rfl (.here _)))))
    have hlink : tree.get? (locationOf ["home", "up"]) = some (.link (Utf8.encode "../srv/./é/")) := rfl
    have hthrough : tree.Resolves 1 (locationOf ["home"]) (locationOf ["up", ".."]) (locationOf ["srv"]) :=
      .follow rfl (by decide) hlink (by decide) hrest
    rw [hcomponents]
    exact .enter rfl (by decide) rfl hthrough
  have hmoved : moved.1 = (.success, .ofString "/srv") := cd_eq hposix ht rfl hpath rfl (by decide)
  obtain ⟨hall, hany⟩ := cd_returns hposix ht
  obtain ⟨hreturns, hdot, habove⟩ := hall (locationOf ["srv", "é"]) "/srv/é" m rfl (by decide) (by decide) rfl
  obtain ⟨name, hname, hup, hback⟩ := habove (by decide)
  obtain rfl : "é" = name := Utf8.encode_injective (Option.some.inj hname)
  obtain ⟨-, hlater⟩ := hany (.ofString "/home") "up/.." m rfl (by rw [hmoved]; exact ⟨rfl, rfl⟩)
  obtain ⟨hsame, htext⟩ := hlater m rfl
  exact ⟨hposix, ht, hreturns, hdot, hup, hback, hmoved, hsame, htext "/srv" (congrArg Prod.snd hmoved)⟩

end Builtin
end LineShell
