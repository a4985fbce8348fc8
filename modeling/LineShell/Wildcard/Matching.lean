import LineShell.Wildcard.Pattern

/-!
Whether a name matches a pattern. The matcher tries the shortest run first and backtracks. A third
answer beside yes and no cuts the search short: when the name ends before the pattern does, no longer
run can help, and every choice made so far is given up at once.

A slash is matched only by a slash or by `**`, and a dot at the start of a component only by a dot.
-/

namespace LineShell

/-- What an attempt says: a match, no match with the choices made so far, or no match whatever runs
are chosen. -/
inductive Verdict where
  | matched
  | mismatch
  | exhausted
  deriving DecidableEq, Repr

namespace Pattern

/-- The character that separates components. -/
def isSlash (c : Char) : Bool := c == '/'

/-- A character that only itself matches here: a slash, or a dot where a component starts. -/
def isReserved (atStart : Bool) (c : Char) : Bool := isSlash c || (atStart && c == '.')

/-- The item stands for the one character `c`, read at the start of a component or inside it. -/
def PatternItem.accepts (atStart : Bool) (c : Char) : PatternItem → Bool
  | .char d => c == d
  | .anyChar => !isReserved atStart c
  | .oneOf entries => !isReserved atStart c && entries.any (·.lists c)
  | .noneOf entries => !isReserved atStart c && !entries.any (·.lists c)
  | .anyRun | .anyComponents => false

/-- What is left of a pattern, as a test of a name from some place on. -/
abbrev Continuation := Bool → List Char → Verdict

/-- A run of any characters inside a component, the shortest first, and then `next`. -/
def afterRun (next : Continuation) : Continuation
  | atStart, [] => next atStart []
  | atStart, c :: cs =>
    match next atStart (c :: cs) with
    | .mismatch => if isReserved atStart c then .mismatch else afterRun next false cs
    | verdict => verdict

/-- Any number of whole components, the fewest first, and then `next`; at the end of the name what was
passed over need not be a whole component. -/
def afterComponents (next : Continuation) : Continuation
  | atStart, [] => next atStart []
  | atStart, c :: cs =>
    match if atStart then next atStart (c :: cs) else .mismatch with
    | .mismatch =>
      if atStart && c == '.' then .mismatch else afterComponents next (isSlash c) cs
    | verdict => verdict

/-- Reads a name, from the start of a component or from inside it, against a pattern. -/
def verdict : List PatternItem → Continuation
  | [], _, [] => .matched
  | [], _, _ :: _ => .mismatch
  | .anyRun :: items, atStart, cs => afterRun (verdict items) atStart cs
  | .anyComponents :: items, atStart, cs => afterComponents (verdict items) atStart cs
  | _ :: _, _, [] => .exhausted
  | item :: items, atStart, c :: cs =>
    if PatternItem.accepts atStart c item then verdict items (isSlash c) cs else .mismatch

/-- The name matches the pattern. -/
def accepts (items : List PatternItem) (name : String) : Bool :=
  verdict items true name.toList == .matched

end Pattern
end LineShell
