import LineShell.Machine.Script.Settings

/-!
The commands of a shell about where it is and what it may use: its directory, which it knows by the names
that led there, the rights that new files do not get, and its limits.
-/

namespace LineShell.Machine.Script

namespace Place

/-- Follows names from a directory as far as their text says: two dots go back by one name. -/
def follow (base : List Bytes) : List Bytes → List Bytes
  | [] => base
  | name :: names =>
    if name = [] ∨ name = [0x2E] then follow base names
    else if name = [0x2E, 0x2E] then follow base.dropLast names
    else follow (base ++ [name]) names

/-- Where a path leads from a directory as far as its text says. -/
def logical (directory path : Bytes) : Bytes :=
  let isAbsolute := path.head? = some Path.slash
  let isDouble (p : Bytes) : Bool := match p with
    | 0x2F :: 0x2F :: rest => rest.head? != some Path.slash
    | _ => false
  let base := if isAbsolute then [] else (Path.pieces directory).filter (· ≠ [])
  let names := follow base (Path.pieces path)
  let bytes := (Path.ofNames names).bytes
  if isDouble (if isAbsolute then path else directory) then Path.slash :: bytes else bytes

/-- The directory as the machine knows it. -/
def physical : Sh Bytes := do
  match ← Sh.call .directory with
  | .ok bytes => pure bytes
  | .error _ => pure []

/-- Remembers the directory, and the one before it. -/
def remember (directory : Bytes) : Sh Unit := do
  let old := (← get).directory
  Sh.assign (Utf8.encode "OLDPWD") old true
  modify fun s => { s with directory }
  Sh.assign (Utf8.encode "PWD") directory true

/-- Enters a directory, by its names or by where they lead, and tells whether this could be done. -/
def enter (isPhysical : Bool) (path : Bytes) : Sh Bool := do
  let current := (← get).directory
  let goal := if isPhysical ∨ (current = [] ∧ path.head? ≠ some Path.slash) then none
    else some (logical current path)
  match ← Sh.call (.changeDirectory ⟨goal.getD path⟩) with
  | .error _ => pure false
  | .ok () =>
    let directory ← match goal with
      | some goal => pure goal
      | none => physical
    remember directory
    pure true

/-- The path starts with a dot name, so that it is not looked for along a search path. -/
def startsWithDots (path : Bytes) : Bool :=
  match Path.pieces path with
  | name :: _ => name == [0x2E] || name == [0x2E, 0x2E]
  | [] => false

/-- Looks for a directory along a search path; the place that it was found at is given back. -/
def findAlong (path : Bytes) : List Bytes → Sh (Option (Bytes × Bool))
  | [] => pure none
  | d :: ds => do
    let candidate := if d = [] then path else d ++ Path.slash :: path
    match ← Sh.call (.examine ⟨candidate⟩ true) with
    | .ok status =>
      if status.kind = .directory then pure (some (candidate, d != [])) else findAlong path ds
    | .error _ => findAlong path ds

/-- Whether the directory is wanted by where it really is. -/
def isPhysicalBy (given : List (Char × Bytes)) : Bool := (given.getLast?.map Prod.fst) == some 'P'

/-- Changes the directory. -/
def change (args : List Bytes) : Sh Nat := do
  let (given, operands) ← Sh.options "LP" args
  let isPhysical := isPhysicalBy given
  let isBack := operands.head? = some [0x2D]
  let wanted ← match operands.head? with
    | none => Sh.valueOf? "HOME"
    | some [0x2D] => Sh.valueOf? "OLDPWD"
    | some path => pure (some path)
  let path := wanted.getD []
  let along := path.head? ≠ some Path.slash ∧ !startsWithDots path
  let path' := if path = [] then [0x2E] else path
  let found ← if along then do
      let places := ((← Sh.valueOf? "CDPATH").getD []).splitOn 0x3A
      findAlong path' (if places = [[]] then [[]] else places)
    else pure none
  let (goal, shows) := found.getD (path', false)
  if ← enter isPhysical goal then
    if isBack || shows then Sh.printLine (← get).directory
    pure 0
  else Sh.fail (Utf8.encode "can't cd to " ++ path')

/-- Shows the directory. -/
def show_ (args : List Bytes) : Sh Nat := do
  let (given, _) ← Sh.options "LP" args
  let s ← get
  let directory ← if isPhysicalBy given ∨ s.directory = [] then physical else pure s.directory
  Sh.printLine directory
  pure 0

/-- Finds out where the shell is when it starts: the environment may know by which names. -/
def begin_ : Sh Unit := do
  let known := (← Sh.valueOf? "PWD").getD []
  let here ← Sh.call (.examine ⟨[0x2E]⟩ true)
  let there ← Sh.call (.examine ⟨known⟩ true)
  let isRight := match here, there with
    | .ok a, .ok b => known.head? == some Path.slash && a.identity == b.identity
    | _, _ => false
  let directory ← if isRight then pure known else physical
  modify fun s => { s with directory }
  Sh.assign (Utf8.encode "PWD") directory true

/-! ### Rights -/

/-- The classes of users, and the rights of each. -/
def classes : List (UInt8 × Nat) := [(0x75, 6), (0x67, 3), (0x6F, 0)]
def rights : List (UInt8 × Nat) := [(0x72, 4), (0x77, 2), (0x78, 1)]

/-- A mask as the rights that are left. -/
def symbolic (mask : Nat) : Bytes :=
  let one (c : UInt8 × Nat) : Bytes :=
    c.1 :: 0x3D :: (rights.filter fun r => (mask >>> c.2) &&& r.2 == 0).map Prod.fst
  [0x2C].intercalate (classes.map one)

/-- Reads one change of the rights that are left. -/
def applyClause (left : Nat) (clause : Bytes) : Option Nat :=
  let who := clause.takeWhile fun b => b == 0x61 || (classes.lookup b).isSome
  let shifts := if who = [] ∨ who.contains 0x61 then [6, 3, 0] else who.filterMap fun b => classes.lookup b
  let spread (bits : Nat) : Nat := shifts.foldl (fun v s => v ||| (bits <<< s)) 0
  let rec go : Nat → Bytes → Nat → Option Nat
    | 0, _, _ => none
    | n + 1, text, left =>
      match text with
      | [] => some left
      | operator :: rest =>
        let letters := rest.takeWhile fun b => (rights.lookup b).isSome || b == 0x58 || b == 0x73
        let bits := spread ((letters.filterMap fun b => rights.lookup b).foldl (· ||| ·) 0)
        let rest := rest.drop letters.length
        if operator = 0x2B then go n rest (left ||| bits)
        else if operator = 0x2D then go n rest (left &&& (0o777 ^^^ bits))
        else if operator = 0x3D then go n rest ((left &&& (0o777 ^^^ spread 7)) ||| bits)
        else none
  match clause.drop who.length with
  | [] => none
  | text => go (text.length + 1) text left

/-- The mask that a text asks for. -/
def maskOf (mask : Nat) (text : Bytes) : Option Nat :=
  ((text.splitOn 0x2C).foldlM applyClause (0o777 ^^^ mask)).map (0o777 ^^^ ·)

/-- Sets the rights that new files do not get, or shows them. -/
def setMask (args : List Bytes) : Sh Nat := do
  let (given, operands) ← Sh.options "S" args
  let mask : Nat ← Sh.call (.setMask 0)
  let _ : Nat ← Sh.call (.setMask mask)
  match operands with
  | [] =>
    if given = [] then
      let ds := String.ofList (Nat.toDigits 8 mask)
      Sh.printLine (Utf8.encode (String.ofList (List.replicate (4 - ds.length) '0') ++ ds))
    else Sh.printLine (symbolic mask)
    pure 0
  | text :: _ =>
    if text.head?.any Numeral.isDigit then
      match Numeral.digits? 8 text with
      | some (n, []) => do
        let _ : Nat ← Sh.call (.setMask n)
        pure 0
      | _ => Sh.badNumber text
    else
      match maskOf mask text with
      | some n => do
        let _ : Nat ← Sh.call (.setMask n)
        pure 0
      | none => Sh.fail (Utf8.encode "Illegal mode: " ++ text)

/-! ### Limits -/

/-- The limits as they are shown. -/
def limits : List (String × String) := [
  ("time(seconds)        ", "unlimited"), ("file(blocks)         ", "unlimited"),
  ("data(kbytes)         ", "unlimited"), ("stack(kbytes)        ", "8192"),
  ("coredump(blocks)     ", "0"), ("memory(kbytes)       ", "unlimited"),
  ("locked memory(kbytes) ", "8192"), ("process              ", "unlimited"),
  ("nofiles              ", "1024"), ("vmemory(kbytes)      ", "unlimited"),
  ("locks                ", "unlimited"), ("rtprio               ", "0")]

/-- The letters of the limits, in their order. -/
def limitLetters : List Char := "tfdscmlpnvwr".toList

/-- Shows a limit; setting one has no consequence. -/
def limit (args : List Bytes) : Sh Nat := do
  let (given, operands) ← Sh.options "HSatfdscmlpnvwr" args
  if given.any (·.1 == 'a') then
    for (front, value) in limits do Sh.printLine (Utf8.encode (front ++ value))
  else if operands = [] then
    let letter := ((given.map Prod.fst).filter limitLetters.contains).getLast?.getD 'f'
    Sh.printLine (Utf8.encode (((limits.map Prod.snd)[limitLetters.idxOf letter]?).getD "unlimited"))
  pure 0

/-- Shows how much time the shell and its children have used: none that could be seen. -/
def times : Sh Nat := do
  Sh.printLine (Utf8.encode "0m0.000000s 0m0.000000s")
  Sh.printLine (Utf8.encode "0m0.000000s 0m0.000000s")
  pure 0

end Place
end LineShell.Machine.Script
