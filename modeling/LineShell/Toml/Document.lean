import LineShell.Toml.Reader

/-!
From statements to the table that they describe. A table is opened by a header, or comes about because a
header or a dotted key leads through it; what may still be added to it depends on which of these it was.
Nothing is said twice: a key that is there already, a second header for a table, and a path that leads
through a value are all refused.
-/

namespace LineShell.Toml

/-- How a table came about: by a header of its own, or because a header or a dotted key leads through
it. -/
inductive Origin where
  | header
  | passed
  | dotted
  deriving DecidableEq, Repr

/-- What a key stands for: a value, a table, or an array of tables. A table without a header of its own
stands nowhere. -/
inductive Item where
  | value (value : Value) (span : Span)
  | table (origin : Origin) (entries : List (String × Item)) (span : Option Span)
  | tables (elements : List (List (String × Item) × Option Span))
  deriving Repr

/-- The entries of a table, in the order in which their keys first appear. -/
abbrev Entries := List (String × Item)

/-- A table as far as it is known, and where it stands. -/
abbrev Table := Entries × Option Span

/-- The table that a text describes, and where it stands: from the start of the text to the end of the
last value that belongs to no other table. -/
structure Document where
  entries : Entries
  span : Span
  deriving Repr

namespace Entries

/-- Puts another item in the place of one that is there. -/
def replace (es : Entries) (key : String) (item : Item) : Entries :=
  es.map fun e => if e.1 = key then (key, item) else e

/-- Changes the table at the end of a path by `f`, which is told how that table came about. Tables that
are missing on the way are made; a dotted key cannot lead through a table that has a header. -/
def changeAt (isDotted : Bool) (f : Origin → Table → Option Table) :
    List String → Origin → Table → Option Table
  | [], origin, t => f origin t
  | key :: keys, _, (es, span) =>
    match es.lookup key with
    | none => do
      let origin := if isDotted then Origin.dotted else .passed
      let (sub, s) ← changeAt isDotted f keys origin ([], none)
      pure (es ++ [(key, .table origin sub s)], span)
    | some (.value _ _) => none
    | some (.table origin sub s) =>
      if isDotted ∧ origin = .header then none
      else do
        let (sub, s) ← changeAt isDotted f keys origin (sub, s)
        pure (es.replace key (.table origin sub s), span)
    | some (.tables elements) =>
      match elements.getLast? with
      | none => none
      | some last => do
        let last ← changeAt isDotted f keys .header last
        pure (es.replace key (.tables (elements.dropLast ++ [last])), span)

/-- Opens the table that a header names in the table above it. A table that was only passed so far comes
last among the entries from then on. -/
def openTable (key : String) (place : Span) (_ : Origin) : Table → Option Table
  | (es, span) =>
    match es.lookup key with
    | none => some (es ++ [(key, .table .header [] (some place))], span)
    | some (.table .passed sub _) =>
      some (es.filter (·.1 ≠ key) ++ [(key, .table .header sub (some place))], span)
    | _ => none

/-- Adds an element to the array of tables that a header names in the table above it. -/
def addElement (key : String) (place : Span) (_ : Origin) : Table → Option Table
  | (es, span) =>
    match es.lookup key with
    | none => some (es ++ [(key, .tables [([], some place)])], span)
    | some (.tables elements) =>
      some (es.replace key (.tables (elements ++ [([], some place)])), span)
    | _ => none

/-- Adds a value under the last part of its key. The table that takes it must have come about by dotted
keys exactly if the key has other parts. -/
def addValue (isNested : Bool) (key : String) (value : Value) (place : Span) (origin : Origin) :
    Table → Option Table
  | (es, span) =>
    if (origin == .dotted) != isNested then none
    else if (es.lookup key).isSome then none
    else some (es ++ [(key, .value value place)], span)

/-- Adds a value to the table that a header has opened; the table stands up to there then. -/
def addEntry (path : List String) (key : String) (value : Value) (place : Span) (_ : Origin)
    (t : Table) : Option Table := do
  let (es, span) ← changeAt true (addValue (1 < path.length) key value place) path.dropLast .header t
  pure (es, span.map fun s => ⟨s.start, place.stop⟩)

/-- Carries out one statement; `current` is the path of the last header. -/
def step (current : List String) (t : Table) : Statement → Option (List String × Table)
  | .header isElement path place => do
    let key ← path.getLast?
    let f := if isElement then addElement key place else openTable key place
    pure (path, ← changeAt false f path.dropLast .header t)
  | .entry path value place => do
    let key ← path.getLast?
    pure (current, ← changeAt false (addEntry path key value place) current .header t)

/-- Carries out statements, one after the other. -/
def ofStatements : List String → Table → List Statement → Option Table
  | _, t, [] => some t
  | current, t, s :: ss => do
    let (current, t) ← step current t s
    ofStatements current t ss

end Entries

/-- The document that a text is, if it is one. -/
def read (text : String) : Option Document := do
  let (entries, span) ← Entries.ofStatements [] ([], some ⟨0, 0⟩) (← statementsOf text)
  pure ⟨entries, span.getD ⟨0, 0⟩⟩

end LineShell.Toml
