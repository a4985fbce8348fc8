import LineShell.Machine.Tools.Options
import LineShell.Machine.Tools.Quoting
import LineShell.Machine.Tools.RegexReader

/-!
Printing the parts of files in reverse order. A part ends with a separator, or begins with one.
-/

namespace LineShell.Machine.Reversing

/-- How files are divided. -/
structure Style where
  separator : Bytes
  pattern : Option Regex := none
  isInFront : Bool := false

/-- The length of the separator that stands at the start of the bytes. -/
def Style.separatorAt (s : Style) (bs : Bytes) : Option Nat :=
  match s.pattern with
  | none => if s.separator.isPrefixOf bs then some s.separator.length else none
  | some r => ((r.ends ⟨bs.toArray, false⟩ [{ place := 0 }]).map Regex.Spot.place).max?.filter (0 < ·)

/-- Lines in reverse order; the present one is given backwards. -/
def reversedLines (separator : UInt8) (isInFront : Bool) (bs : Bytes) : List Bytes :=
  let (done, current) := bs.foldl (fun ((done, current) : List Bytes × Bytes) b =>
    if b = separator then
      if isInFront then (current.reverse :: done, [b]) else ((b :: current).reverse :: done, [])
    else (done, b :: current)) ([], [])
  current.reverse :: done

/-- The parts of bytes in reverse order. Every step uses up at least one byte. -/
def Style.reversedParts (s : Style) : Nat → List Bytes → Bytes → Bytes → List Bytes
  | 0, done, current, _ => current.reverse :: done
  | _, done, current, [] => current.reverse :: done
  | n + 1, done, current, b :: bs =>
    match s.separatorAt (b :: bs) with
    | none => s.reversedParts n done (b :: current) bs
    | some length =>
      let separator := (b :: bs).take length
      let rest := (b :: bs).drop length
      if s.isInFront then s.reversedParts n (current.reverse :: done) separator.reverse rest
      else s.reversedParts n ((current.reverse ++ separator) :: done) [] rest

/-- Bytes with their parts in reverse order. -/
def Style.reverse (s : Style) (bs : Bytes) : Bytes :=
  match s.pattern, s.separator with
  | none, [b] => (reversedLines b s.isInFront bs).flatten
  | _, _ => (s.reversedParts bs.length [] [] bs).flatten

/-- The style that the options ask for. -/
def styleBy (o : Options) : Job Style := do
  let text := (o.value? "separator").getD [Lines.newline]
  let isInFront := o.has "before"
  if o.has "regex" then
    if text = [] then Job.failText "separator cannot be empty"
    else
      match Regex.read false text with
      | .ok (r, _) => pure { separator := text, pattern := some r.prepared, isInFront }
      | .error e => Job.failText e.message
  else pure { separator := if text = [] then [0] else text, isInFront }

/-- Prints files with their parts in reverse order. -/
def run : Job Nat := do
  let o ← Job.options "b|before r|regex s|separator="
  let style ← styleBy o
  let operands := if o.operands = [] then [Job.dash] else o.operands
  let code ← Job.forEach operands fun name => do
    let shown := if name = Job.dash then Utf8.encode "standard input" else name
    let complain (what : Bytes) (e : Errno) : Job Nat := do
      Job.complainOf what e
      pure 1
    Job.withOperand name
      (complain (Utf8.encode "failed to open " ++ Quoting.always name ++ Utf8.encode " for reading"))
      fun stream => do
        match ← Job.readAll stream with
        | .ok bytes =>
          Job.printStrictly (style.reverse bytes)
          pure 0
        | .error e =>
          complain (Quoting.ifNeeded shown ++ Utf8.encode ": read error") (if e = .eisdir then .einval else e)
  if operands.contains Job.dash then
    match ← Job.call (.close Job.input) with
    | .ok () => pure code
    | .error e =>
      Job.complainOf Job.dash e
      pure 1
  else pure code

end LineShell.Machine.Reversing
