import LineShell.Text.Utf8

/-!
File names in messages and lists. In messages a name that a command line would not take as it is stands between
quotes, and the bytes in it that cannot be shown are written as octal numbers, outside them. Lists may quote
names in other ways too.
-/

namespace LineShell.Machine.Quoting

/-- The quote that most names stand between. -/
def quote : UInt8 := 0x27

/-- A byte that can be shown. -/
def isPrintable (b : UInt8) : Bool := 0x20 ≤ b && b < 0x7F

/-- The bytes that have a meaning on a command line wherever they stand. -/
def special : Bytes := Utf8.encode " !\"$&()*:;<=>?[\\^`|'"

/-- The bytes that have a meaning at the start of a word. -/
def specialAtStart : Bytes := Utf8.encode "#~"

/-- The name must be quoted. -/
def isNeeded (name : Bytes) : Bool :=
  name.isEmpty || name.any (fun b => special.contains b || !isPrintable b) ||
    name.head?.any specialAtStart.contains || name == [0x7B] || name == [0x7D]

/-- The byte means the same between double quotes as between single ones. -/
def isPlain (b : UInt8) : Bool :=
  (0x30 ≤ b && b ≤ 0x3A) || (0x41 ≤ b && b ≤ 0x5A) || (0x61 ≤ b && b ≤ 0x7A) ||
    (Utf8.encode " %+,-./]_'").contains b

/-- The letter of a byte that has one as an escape. -/
def letter? (b : UInt8) : Option UInt8 :=
  [(7, 0x61), (8, 0x62), (9, 0x74), (10, 0x6E), (11, 0x76), (12, 0x66), (13, 0x72)].lookup b

/-- A byte that cannot be shown, after a backslash. -/
def escape (b : UInt8) : Bytes :=
  match letter? b with
  | some l => [0x5C, l]
  | none => [0x5C, 0x30 + b / 64, 0x30 + b / 8 % 8, 0x30 + b % 8]

/-- The bytes of a name between quotes; `escaping` says that the last one was an escape. -/
def body (escaping : Bool) : Bytes → Bytes
  | [] => []
  | b :: bs =>
    if !isPrintable b then
      (if escaping then [] else [quote, 0x24, quote]) ++ escape b ++ body true bs
    else if b = quote then
      (if escaping then [quote, quote] else []) ++ [quote, 0x5C, quote, quote] ++ body false bs
    else (if escaping then [quote, quote] else []) ++ b :: body false bs

/-- A name between quotes. -/
def always (name : Bytes) : Bytes :=
  if name.contains quote && name.all isPlain then 0x22 :: name ++ [0x22]
  else quote :: body false name ++ [quote]

/-- A name, between quotes if it must be. -/
def ifNeeded (name : Bytes) : Bytes := if isNeeded name then always name else name

/-- A text between quotes, as most complaints show it. -/
def plain (text : Bytes) : Bytes :=
  let one (b : UInt8) : Bytes :=
    if b = quote ∨ b = 0x5C then [0x5C, b] else if isPrintable b then [b] else escape b
  quote :: text.flatMap one ++ [quote]

/-- A byte as it stands between quotes of some kind, where a backslash takes its meaning away. -/
def escaped (mark : Option UInt8) (b : UInt8) : Bytes :=
  if b = 0x5C ∨ some b = mark then [0x5C, b] else if isPrintable b then [b] else escape b

/-- A way to show names. -/
inductive Manner where
  | literal
  | shell
  | shellAlways
  | shellEscape
  | shellEscapeAlways
  | double
  | doubleIfNeeded
  | escapes
  | single
  deriving DecidableEq, Repr

/-- The words for ways to show names. -/
def manners : List (String × Manner) :=
  [("literal", .literal), ("shell", .shell), ("shell-always", .shellAlways), ("shell-escape", .shellEscape),
    ("shell-escape-always", .shellEscapeAlways), ("c", .double), ("c-maybe", .doubleIfNeeded), ("escape", .escapes),
    ("locale", .single), ("clocale", .double)]

/-- A name between single quotes, all bytes but those as they are. -/
def inSingle (name : Bytes) : Bytes :=
  if name.contains quote && name.all isPlain then 0x22 :: name ++ [0x22]
  else quote :: (name.flatMap fun b => if b = quote then [quote, 0x5C, quote, quote] else [b]) ++ [quote]

/-- A name between double quotes. -/
def inDouble (name : Bytes) : Bytes := 0x22 :: name.flatMap (escaped (some 0x22)) ++ [0x22]

/-- A name as it is shown. -/
def Manner.apply (m : Manner) (name : Bytes) : Bytes :=
  match m with
  | .literal => name
  | .shell =>
    let breaks (b : UInt8) : Bool := special.contains b || (0x09 ≤ b && b ≤ 0x0D)
    if name.isEmpty || name.any breaks || name.head?.any specialAtStart.contains then inSingle name else name
  | .shellAlways => inSingle name
  | .shellEscape => ifNeeded name
  | .shellEscapeAlways => always name
  | .double => inDouble name
  | .doubleIfNeeded => if name.all fun b => escaped (some 0x22) b == [b] then name else inDouble name
  | .escapes => name.flatMap fun b => if b = 0x20 then [0x5C, b] else escaped none b
  | .single => plain name

/-- The quotes are left out where they are not needed. -/
def Manner.isSparing (m : Manner) : Bool := m == .shell || m == .shellEscape || m == .doubleIfNeeded

end LineShell.Machine.Quoting
