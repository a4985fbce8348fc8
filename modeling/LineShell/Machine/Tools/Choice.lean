import LineShell.Machine.Tools.Options
import LineShell.Machine.Tools.Quoting

/-!
Options whose value is one of some words, which may be cut short as long as it is clear which one is meant.
-/

namespace LineShell.Machine

/-- Why a word is none of those that there are. -/
inductive ChoiceFault where
  | unknown
  | ambiguous
  deriving DecidableEq, Repr

/-- The choice that a word means. Words that mean the same do not stand in each other's way. -/
def choose {α : Type} [DecidableEq α] (choices : List (String × α)) (word : Bytes) : Except ChoiceFault α :=
  match choices.find? fun c => Utf8.encode c.1 = word with
  | some c => .ok c.2
  | none =>
    match choices.filter fun c => word.isPrefixOf (Utf8.encode c.1) with
    | [] => .error .unknown
    | first :: more => if more.all fun c => c.2 = first.2 then .ok first.2 else .error .ambiguous

/-- The words that there are, those that mean the same on one line. -/
def listChoices {α : Type} [DecidableEq α] : List (String × α) → Option α → String
  | [], _ => "\n"
  | (word, value) :: more, before =>
    (if before = some value then s!", '{word}'" else s!"\n  - '{word}'") ++ listChoices more (some value)

namespace Job

/-- A word as one of some choices; the program ends if it is none. -/
def choice {α : Type} [DecidableEq α] (option : String) (choices : List (String × α)) (word : Bytes) : Job α := do
  match choose choices word with
  | .ok value => pure value
  | .error fault =>
    let kind := if fault = .unknown then "invalid" else "ambiguous"
    complain (Utf8.encode (kind ++ " argument ") ++ Quoting.plain word ++ Utf8.encode " for " ++
      Quoting.plain (Utf8.encode option))
    writeError (Utf8.encode ("Valid arguments are:" ++ listChoices choices none))
    hint
    exit (← read).failureCode

/-- The choice that the value of an option means. -/
def choiceOf {α : Type} [DecidableEq α] (o : Options) (key : String) (choices : List (String × α)) (standard : α) :
    Job α :=
  match o.value? key with
  | none => pure standard
  | some word => choice ("--" ++ key) choices word

end Job
end LineShell.Machine
