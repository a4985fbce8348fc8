import LineShell.Machine.Lookup
import LineShell.Machine.Tools.Options
import LineShell.Machine.Tools.Quoting

/-!
Names of files: their parts, where they lead, and the directory that everything is seen from.
-/

namespace LineShell.Machine.Naming

/-- Bytes without the slashes at their end. -/
def withoutSlashes (bs : Bytes) : Bytes := (bs.reverse.dropWhile (· == Path.slash)).reverse

/-- The last name of a path. -/
def baseName (path : Bytes) : Bytes :=
  if path ≠ [] ∧ path.all (· == Path.slash) then [Path.slash]
  else ((withoutSlashes path).reverse.takeWhile (· ≠ Path.slash)).reverse

/-- The path without its last name. -/
def directoryName (path : Bytes) : Bytes :=
  if path ≠ [] ∧ path.all (· == Path.slash) then [Path.slash]
  else
    let rest := ((withoutSlashes path).reverse.dropWhile (· ≠ Path.slash)).reverse
    if rest = [] then dot
    else
      let front := withoutSlashes rest
      if front = [] then [Path.slash] else front

/-- A name without a suffix, unless nothing else is left of it. -/
def withoutSuffix (suffix name : Bytes) : Bytes :=
  if suffix ≠ [] ∧ suffix.length < name.length ∧ suffix.isSuffixOf name then
    name.take (name.length - suffix.length)
  else name

/-- The byte that ends each name. -/
def ending (o : Options) : Bytes := [if o.has "zero" then 0 else Lines.newline]

/-- Prints the last names of paths. -/
def base : Job Nat := do
  let o ← Job.optionsOf "a|multiple s|suffix= z|zero" false (← Job.args)
  let isMany := o.has "multiple" || o.has "suffix"
  match o.operands with
  | [] => Job.refuseText "missing operand"
  | [name] =>
    Job.print (withoutSuffix ((o.value? "suffix").getD []) (baseName name) ++ ending o)
    pure 0
  | name :: suffix :: rest =>
    if isMany then
      (name :: suffix :: rest).forM fun name =>
        Job.print (withoutSuffix ((o.value? "suffix").getD []) (baseName name) ++ ending o)
      pure 0
    else
      match rest with
      | extra :: _ => Job.refuse (Utf8.encode "extra operand " ++ Quoting.plain extra)
      | [] =>
        Job.print (withoutSuffix suffix (baseName name) ++ ending o)
        pure 0

/-- Prints paths without their last names. -/
def directory : Job Nat := do
  let o ← Job.options "z|zero"
  if o.operands = [] then Job.refuseText "missing operand"
  else
    o.operands.forM fun path => Job.print (directoryName path ++ ending o)
    pure 0

/-- Two paths lead to the same entry. -/
def isSame (a b : Bytes) : Job Bool := do
  match ← Job.call (.examine ⟨a⟩ true), ← Job.call (.examine ⟨b⟩ true) with
  | .ok x, .ok y => pure (x.identity == y.identity)
  | _, _ => pure false

/-- Prints the present directory. -/
def present : Job Nat := do
  let o ← Job.options "L|logical P|physical"
  if o.operands ≠ [] then Job.complainText "ignoring non-option arguments"
  let known ← Job.variableValue "PWD"
  let isLogical := o.last? ["logical", "physical"] == some "logical"
  let logical ← match known with
    | some path =>
      let isClean := (⟨path⟩ : Path).isAbsolute && !(⟨path⟩ : Path).names.any fun n => n == dot || n == dotDot
      let same ← isSame path dot
      pure (if isLogical && isClean && same then some path else none)
    | none => pure none
  match logical with
  | some path =>
    Job.printLine path
    pure 0
  | none =>
    match ← Job.call .directory with
    | .ok path =>
      Job.printLine path
      pure 0
    | .error e => Job.failOf (Utf8.encode "couldn't find directory entry in '..' with matching i-node") e

/-- What must be there of a path whose links are replaced: all of it, all but the last name, or nothing. -/
inductive Presence where
  | all
  | allButLast
  | nothing
  deriving DecidableEq, Repr

/-- How many links are replaced at most on one path. -/
def mostLinks : Nat := 40

/-- Replaces the links of a path, name by name; where nothing stands the names are kept. -/
def resolveNames (presence : Presence) (followsLinks : Bool) :
    Nat → Nat → List Name → List Name → Job (Except Errno (List Name))
  | 0, _, done, _ => pure (.ok done)
  | _, _, done, [] => pure (.ok done)
  | n + 1, links, done, name :: rest => do
    if name = dot then resolveNames presence followsLinks n links done rest
    else if name = dotDot then resolveNames presence followsLinks n links done.dropLast rest
    else
      let here := (Path.ofNames (done ++ [name])).bytes
      match ← Job.call (.examine ⟨here⟩ false) with
      | .error e =>
        match presence with
        | .all => pure (.error e)
        | .allButLast =>
          if rest = [] ∧ e = .enoent then resolveNames presence followsLinks n links (done ++ [name]) rest
          else pure (.error e)
        | .nothing => resolveNames presence followsLinks n links (done ++ [name]) rest
      | .ok status =>
        if status.kind = .link ∧ followsLinks then
          match links with
          | 0 => pure (.error .eloop)
          | links + 1 =>
            match ← Job.call (.readLink ⟨here⟩) with
            | .error e => pure (.error e)
            | .ok target =>
              let goal : Path := ⟨target⟩
              resolveNames presence followsLinks n links (if goal.isAbsolute then [] else done) (goal.names ++ rest)
        else if status.kind ≠ .directory ∧ status.kind ≠ .link ∧ rest ≠ [] ∧ presence ≠ .nothing then
          pure (.error .enotdir)
        else resolveNames presence followsLinks n links (done ++ [name]) rest

/-- The path without links that a path leads to. -/
def resolve (presence : Presence) (followsLinks : Bool) (path : Bytes) : Job (Except Errno (List Name)) := do
  if path = [] then pure (.error .enoent)
  else
    let p : Path := ⟨path⟩
    let start : Except Errno (List Name) ← if p.isAbsolute then pure (.ok []) else do
      match ← Job.call .directory with
      | .ok directory => pure (.ok (⟨directory⟩ : Path).names)
      | .error e => pure (.error e)
    match start with
    | .error e => pure (.error e)
    | .ok base =>
      let result ← resolveNames presence followsLinks (manyNames p) mostLinks base p.names
      match result with
      | .error e => pure (.error e)
      | .ok names =>
        if p.endsInSlash ∧ presence ≠ .nothing then
          match ← Job.call (.examine (.ofNames names) true) with
          | .ok status => pure (if status.kind = .directory then .ok names else .error .enotdir)
          | .error e => pure (if presence = .all then .error e else .ok names)
        else pure (.ok names)
where
  /-- More steps than names and links can take. -/
  manyNames (p : Path) : Nat := p.names.length + mostLinks * 4096

/-- Prints where links lead. -/
def link : Job Nat := do
  let o ← Job.options
    "f|canonicalize e|canonicalize-existing m|canonicalize-missing n|no-newline q|quiet s|silent v|verbose z|zero"
  if o.operands = [] then Job.refuseText "missing operand"
  else
    let isMany := 1 < o.operands.length
    if isMany ∧ o.has "no-newline" then Job.complainText "ignoring --no-newline with multiple arguments"
    let ending := if o.has "no-newline" ∧ !isMany then [] else ending o
    let presence := match o.last? ["canonicalize", "canonicalize-existing", "canonicalize-missing"] with
      | some "canonicalize" => some Presence.allButLast
      | some "canonicalize-existing" => some .all
      | some _ => some .nothing
      | none => none
    let isVerbose := o.last? ["quiet", "silent", "verbose"] == some "verbose"
    Job.forEach o.operands fun path => do
      let target ← match presence with
        | none => Job.call (.readLink ⟨path⟩)
        | some presence => do
          pure ((← resolve presence true path).map fun names => (Path.ofNames names).bytes)
      match target with
      | .ok target =>
        Job.print (target ++ ending)
        pure 0
      | .error e =>
        if isVerbose then Job.complainOf (Quoting.ifNeeded path) e
        pure 1

/-- The path from one location to another. -/
def between (base goal : List Name) : Bytes :=
  let rec common : List Name → List Name → Nat
    | a :: as, b :: bs => if a = b then common as bs + 1 else 0
    | _, _ => 0
  let n := common base goal
  match List.replicate (base.length - n) dotDot ++ goal.drop n with
  | [] => dot
  | names => [Path.slash].intercalate names

/-- Prints paths without links. -/
def real : Job Nat := do
  let o ← Job.options
    "e|canonicalize-existing m|canonicalize-missing L|logical P|physical q|quiet s|strip no-symlinks relative-to= relative-base= z|zero"
  if o.operands = [] then Job.refuseText "missing operand"
  else
    let presence := match o.last? ["canonicalize-existing", "canonicalize-missing"] with
      | some "canonicalize-existing" => Presence.all
      | some _ => .nothing
      | none => .allButLast
    let follows := !(o.has "strip" || o.has "no-symlinks")
    let placeOf (key : String) : Job (Option (List Name)) := do
      match o.value? key with
      | none => pure none
      | some path =>
        match ← resolve presence follows path with
        | .ok names => pure (some names)
        | .error e => Job.failOf (Quoting.ifNeeded path) e
    let goal ← placeOf "relative-to"
    let base ← placeOf "relative-base"
    let isBelow (names : List Name) : Bool := base.all (·.isPrefixOf names)
    let goal := match goal.or base with
      | some names => if isBelow names then some names else none
      | none => none
    Job.forEach o.operands fun path => do
      match ← resolve presence follows path with
      | .ok names =>
        let shown := match goal with
          | some goal => if isBelow names then between goal names else (Path.ofNames names).bytes
          | none => (Path.ofNames names).bytes
        Job.print (shown ++ ending o)
        pure 0
      | .error e =>
        if !o.has "quiet" then Job.complainOf (Quoting.ifNeeded path) e
        pure 1

end LineShell.Machine.Naming
