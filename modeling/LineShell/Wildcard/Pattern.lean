/-!
Wildcard patterns. `*` stands for any run of characters, `?` for one character, `[...]` for one
character of a class and `[!...]` for one outside it; `**` stands for any number of whole path
components and must be one itself. Everything else stands for itself. A class that is not closed and
a misplaced run of stars are refused, with the position of the offence in characters.
-/

namespace LineShell

/-- What a class lists: a character, or all characters of a range, both ends included. -/
inductive ClassEntry where
  | char (c : Char)
  | range (first last : Char)
  deriving DecidableEq, Repr

/-- The entry lists the character. -/
def ClassEntry.lists : ClassEntry → Char → Bool
  | .char d, c => c == d
  | .range first last, c => first ≤ c && c ≤ last

/-- What stands at one place of a pattern. -/
inductive PatternItem where
  | char (c : Char)
  | anyChar
  | oneOf (entries : List ClassEntry)
  | noneOf (entries : List ClassEntry)
  | anyRun
  | anyComponents
  deriving DecidableEq, Repr

/-- Why a text is no pattern. -/
inductive PatternFault where
  | starRun
  | componentStars
  | openClass
  deriving DecidableEq, Repr

/-- The text of a fault. -/
def PatternFault.message : PatternFault → String
  | .starRun => "wildcards are either regular `*` or recursive `**`"
  | .componentStars => "recursive wildcards must form a single path component"
  | .openClass => "invalid range pattern"

/-- A fault and the position, in characters from the start, at which it is reported. -/
structure PatternError where
  position : Nat
  fault : PatternFault
  deriving DecidableEq, Repr

/-- The text of a refusal. -/
def PatternError.message (e : PatternError) : String :=
  s!"Pattern syntax error near position {e.position}: {e.fault.message}"

namespace Pattern

/-- Reads the inside of a class: `x-y` is a range wherever three characters are left for it. -/
def classEntries : List Char → List ClassEntry
  | first :: '-' :: last :: cs => .range first last :: classEntries cs
  | c :: cs => .char c :: classEntries cs
  | [] => []

/-- Cuts at the first `]`: what comes before it and what comes after it. -/
def closeClass : List Char → Option (List Char × List Char)
  | [] => none
  | ']' :: cs => some ([], cs)
  | c :: cs => (closeClass cs).map fun (inside, rest) => (c :: inside, rest)

theorem length_of_closeClass {cs inside rest : List Char} (h : closeClass cs = some (inside, rest)) :
    inside.length + 1 + rest.length = cs.length := by
  fun_induction closeClass cs generalizing inside rest with
  | case1 => simp at h
  | case2 cs => simp_all; omega
  | case3 c cs _ ih =>
    simp only [Option.map_eq_some_iff, Prod.mk.injEq, Prod.exists] at h
    obtain ⟨i, r, hi, rfl, rfl⟩ := h
    have := ih hi
    simp only [List.length_cons]
    omega

/-- A second `**` directly after a first one adds nothing. -/
def consComponents : List PatternItem → List PatternItem
  | .anyComponents :: items => .anyComponents :: items
  | items => .anyComponents :: items

/-- Compiles what is left of a pattern, from a position and the character before it. -/
def compileFrom (position : Nat) (previous : Option Char) :
    List Char → Except PatternError (List PatternItem)
  | [] => .ok []
  | '?' :: cs => (.anyChar :: ·) <$> compileFrom (position + 1) (some '?') cs
  | '*' :: '*' :: '*' :: _ => .error ⟨position + 2, .starRun⟩
  | '*' :: '*' :: cs =>
    if previous = none ∨ previous = some '/' then
      match cs with
      | [] => .ok [.anyComponents]
      | '/' :: rest => consComponents <$> compileFrom (position + 3) (some '/') rest
      | _ => .error ⟨position + 2, .componentStars⟩
    else .error ⟨position - 1, .componentStars⟩
  | '*' :: cs => (.anyRun :: ·) <$> compileFrom (position + 1) (some '*') cs
  | '[' :: '!' :: c :: cs =>
    match _h : closeClass cs with
    | none => .error ⟨position, .openClass⟩
    | some (inside, rest) =>
      (.noneOf (classEntries (c :: inside)) :: ·) <$>
        compileFrom (position + inside.length + 4) (some ']') rest
  | '[' :: '!' :: [] => .error ⟨position, .openClass⟩
  | '[' :: c :: cs =>
    match _h : closeClass cs with
    | none => .error ⟨position, .openClass⟩
    | some (inside, rest) =>
      (.oneOf (classEntries (c :: inside)) :: ·) <$>
        compileFrom (position + inside.length + 3) (some ']') rest
  | '[' :: [] => .error ⟨position, .openClass⟩
  | c :: cs => (.char c :: ·) <$> compileFrom (position + 1) (some c) cs
termination_by cs => cs.length
decreasing_by
  all_goals try simp only [List.length_cons]
  all_goals try have hlength := length_of_closeClass _h
  all_goals omega

/-- Compiles a pattern. -/
def compile (pattern : String) : Except PatternError (List PatternItem) :=
  compileFrom 0 none pattern.toList

end Pattern
end LineShell
