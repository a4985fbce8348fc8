import LineShell.Machine.Script.Words

/-!
Reading the commands of a script, one line at a time. A word is a keyword only where a command may start, and
what is wrong is told by the piece that cannot stand where it does.
-/

namespace LineShell.Machine.Script

/-- What is looked out for when the next token is read. -/
structure Watch where
  newlines : Bool := false
  keywords : Bool := false
  aliases : Bool := false
  mark : Bool := false

namespace Token

/-- The keywords. -/
def keywords : List String :=
  ["!", "case", "do", "done", "elif", "else", "esac", "fi", "for", "if", "in", "then", "until", "while",
    "\x7b", "\x7d"]

/-- The name of a token in a complaint. -/
def name : Token → String
  | .ending => "end of file"
  | .newline => "newline"
  | .operator text => "\"" ++ text ++ "\""
  | .redirect _ | .announce _ _ => "redirection"
  | .keyword text => "\"" ++ text ++ "\""
  | .word _ => "word"

/-- The token is a given operator. -/
def isOperator (t : Token) (text : String) : Bool :=
  match t with
  | .operator o => o == text
  | _ => false

/-- The token is a given keyword. -/
def isKeyword (t : Token) (text : String) : Bool :=
  match t with
  | .keyword k => k == text
  | _ => false

/-- The token ends a list of commands. -/
def closes : Token → Bool
  | .ending => true
  | .operator o => [")", ";;"].contains o
  | .keyword k => ["do", "done", "elif", "else", "esac", "fi", "then", "\x7d"].contains k
  | _ => false

end Token

/-- What kind of list of commands is read: one that must have a command, the commands of a line, or one that
may be empty. -/
inductive ListKind where
  | filled
  | line
  | open
  deriving DecidableEq, Repr

/-- How lists of commands inside of others are read. -/
abbrev Lists := ListKind → Parse Command

namespace Reader

/-! ### Documents -/

/-- Takes a line with its newline. -/
def takeLine : Nat → Bytes → Parse Bytes
  | 0, line => pure line.reverse
  | n + 1, line => do
    match ← Parse.take with
    | none => pure line.reverse
    | some 0x0A => pure (0x0A :: line).reverse
    | some b => takeLine n (b :: line)

/-- The line goes on behind its newline. -/
def isContinued (line : Bytes) : Bool :=
  (line.reverse.drop 1).takeWhile (· == 0x5C) |>.length |> (· % 2 == 1)

/-- Takes the text of a document. -/
def takeDocument (a : Announced) : Nat → Bool → List Bytes → Parse Bytes
  | 0, _, lines => pure lines.reverse.flatten
  | n + 1, isInside, lines => do
    let line ← takeLine (Nat.pow 2 62) []
    let line := if a.stripsTabs ∧ !isInside then line.dropWhile (· == 0x09) else line
    let isMark := !isInside && (line == a.mark || line == a.mark ++ [Lines.newline])
    if line = [] ∨ isMark then pure lines.reverse.flatten
    else takeDocument a n (!a.isFixed && isContinued line) (line :: lines)

/-- Reads the documents that have been announced. -/
def documents (inner : Words.Inner) : Parse Unit := do
  let announced := (← get).announced.reverse
  modify fun s => { s with announced := [] }
  for a in announced do
    let line := (← get).line
    let text ← takeDocument a (Nat.pow 2 62) false []
    let document ← if a.isFixed then pure (Document.fixed text)
      else do pure (Document.word (← Parse.within text line (Words.read inner .document)))
    modify fun s => { s with documents := (a.number, document) :: s.documents }

/-! ### Tokens -/

/-- Takes the rest of a redirection behind its first byte. -/
def redirection (stream : Option Nat) (isInput : Bool) : Parse Token := do
  if isInput then
    let stream := stream.getD 0
    if ← Parse.accepts 0x3C then
      pure (.announce stream (← Parse.accepts 0x2D))
    else if ← Parse.accepts 0x26 then pure (.redirect (.streamOf stream []))
    else if ← Parse.accepts 0x3E then pure (.redirect (.file stream .readWrite []))
    else pure (.redirect (.file stream .read []))
  else
    let stream := stream.getD 1
    if ← Parse.accepts 0x3E then pure (.redirect (.file stream .append []))
    else if ← Parse.accepts 0x7C then pure (.redirect (.file stream .overwrite []))
    else if ← Parse.accepts 0x26 then pure (.redirect (.streamOf stream []))
    else pure (.redirect (.file stream .write []))

/-- Takes the rest of a line. -/
def skipComment : Nat → Parse Unit
  | 0 => pure ()
  | n + 1 => do
    match ← Parse.peek with
    | none | some 0x0A => pure ()
    | some _ =>
      Parse.skip
      skipComment n

/-- Takes the next token from the text. -/
def freshToken (inner : Words.Inner) (mark : Bool) : Nat → Parse Token
  | 0 => pure .ending
  | n + 1 => do
    let operator (text : String) : Parse Token := do
      Parse.skip
      pure (.operator text)
    let either (next : UInt8) (long short : String) : Parse Token := do
      Parse.skip
      if ← Parse.accepts next then pure (.operator long) else pure (.operator short)
    match ← Parse.peekJoined with
    | none => pure .ending
    | some b =>
      if b = 0x20 ∨ b = 0x09 then
        Parse.skip
        freshToken inner mark n
      else if b = 0x23 then
        skipComment (Nat.pow 2 62)
        freshToken inner mark n
      else if b = 0x0A then
        Parse.skip
        pure .newline
      else if b = 0x26 then either 0x26 "&&" "&"
      else if b = 0x7C then either 0x7C "||" "|"
      else if b = 0x3B then either 0x3B ";;" ";"
      else if b = 0x28 then operator "("
      else if b = 0x29 then operator ")"
      else
        let word ← if mark then Words.read (fun _ => Parse.refuseText "unexpected") .bare
          else Words.read inner .bare
        match word, ← Parse.peek with
        | [], some 0x3C =>
          Parse.skip
          redirection none true
        | [], some 0x3E =>
          Parse.skip
          redirection none false
        | [.text false [d]], some 0x3C =>
          if isDigit d then
            Parse.skip
            redirection (some (d.toNat - 0x30)) true
          else pure (.word word)
        | [.text false [d]], some 0x3E =>
          if isDigit d then
            Parse.skip
            redirection (some (d.toNat - 0x30)) false
          else pure (.word word)
        | _, _ => pure (.word word)

/-- The token that was put back, or else the next one. -/
def anyToken (inner : Words.Inner) (mark : Bool) : Parse Token := do
  match (← get).pushed with
  | some t =>
    modify fun s => { s with pushed := none }
    pure t
  | none => freshToken inner mark (Nat.pow 2 62)

/-- Behind a text that ends in a blank the next word may be an alias too. -/
def endsInBlank (bs : Bytes) : Bool := bs.getLast? == some 0x20 || bs.getLast? == some 0x09

/-- Takes the next token, and what stands for it if it is an alias. -/
def token (inner : Words.Inner) (watch : Watch) : Parse Token := go (Nat.pow 2 62)
where
  go : Nat → Parse Token
    | 0 => pure .ending
    | n + 1 => do
      let before := (← get).unread.length
      match ← anyToken inner watch.mark with
      | .newline =>
        if watch.newlines then
          documents inner
          go n
        else pure .newline
      | .word w =>
        match w with
        | [.text false bytes] =>
          match (if watch.keywords then Token.keywords.find? fun k => Utf8.encode k == bytes else none) with
          | some k => pure (.keyword k)
          | none =>
            let s ← get
            let left := s.unread.length
            let isOpen := s.openAliases.any fun a => a.1 == bytes && a.2 ≤ left
            let isBehind := s.blankAliases.any fun p => left < p && p ≤ before
            match (if (watch.aliases ∨ isBehind) ∧ !isOpen then s.aliases.lookup bytes else none) with
            | some value =>
              set { s with
                unread := value ++ s.unread
                openAliases := (bytes, left + 1) :: s.openAliases.filter (·.2 ≤ left)
                blankAliases := if endsInBlank value then (left + 1) :: s.blankAliases else s.blankAliases }
              go n
            | none => pure (.word w)
        | _ => pure (.word w)
      | t => pure t

/-- Refuses a token where it stands. -/
def unexpected {α : Type} (t : Token) : Parse α := Parse.refuseText (t.name ++ " unexpected")

/-- Refuses a token where another one is wanted. -/
def unexpectedFor {α : Type} (t : Token) (wanted : String) : Parse α :=
  Parse.refuseText (t.name ++ " unexpected (expecting \"" ++ wanted ++ "\")")

/-- Only keywords and aliases are looked out for. -/
def commandWatch : Watch := { keywords := true, aliases := true }

/-- A command may start, here or on a later line. -/
def laterWatch : Watch := { newlines := true, keywords := true, aliases := true }

/-- The commands inside of a word, and the parenthesis behind them if there has to be one. -/
def innerOf (lists : Lists) : Words.Inner := fun isClosed => do
  let body ← lists .open
  if isClosed then
    match ← token (fun _ => pure .nothing) {} with
    | .operator ")" => pure body
    | t => unexpectedFor t ")"
  else pure body

/-- Takes a keyword. -/
def expect (lists : Lists) (watch : Watch) (keyword : String) : Parse Unit := do
  let t ← token (innerOf lists) watch
  if t.isKeyword keyword then pure () else unexpectedFor t keyword

/-! ### Commands -/

/-- Takes the word that a redirection needs. -/
def target (lists : Lists) (t : Token) : Parse Redirection := do
  match t with
  | .announce stream stripsTabs =>
    match ← token (innerOf lists) { mark := true } with
    | .word w =>
      let s ← get
      let number := s.nextDocument
      let a : Announced := { number, mark := w.literal, isFixed := w.isQuoted, stripsTabs }
      set { s with announced := a :: s.announced, nextDocument := number + 1 }
      pure (.document stream number)
    | t => unexpected t
  | .redirect r =>
    match ← token (innerOf lists) {} with
    | .word w =>
      match r with
      | .streamOf stream _ =>
        match w.plain? with
        | some [d] =>
          if isDigit d then pure (.stream stream (some (d.toNat - 0x30)))
          else if d = 0x2D then pure (.stream stream none)
          else pure (.streamOf stream w)
        | _ => pure (.streamOf stream w)
      | .file stream use _ => pure (.file stream use w)
      | r => pure r
    | t => unexpected t
  | t => unexpected t

/-- The token starts a redirection. -/
def startsRedirection : Token → Bool
  | .redirect _ | .announce _ _ => true
  | _ => false

/-- Takes redirections as long as there are some. -/
def redirections (lists : Lists) : Nat → List Redirection → Parse (List Redirection)
  | 0, rs => pure rs.reverse
  | n + 1, rs => do
    let t ← token (innerOf lists) commandWatch
    if startsRedirection t then redirections lists n ((← target lists t) :: rs)
    else
      Parse.push t
      pure rs.reverse

/-- Commands of the shell whose names no function may have. -/
def specialBuiltins : List String :=
  [".", ":", "break", "continue", "eval", "exec", "exit", "export", "local", "readonly", "return", "set",
    "shift", "times", "trap", "unset"]

/-- A simple command as far as it is read, each part from the end. -/
structure SimpleDraft where
  assignments : List Word := []
  words : List Word := []
  redirections : List Redirection := []

/-- Takes a simple command, or a function. -/
def simple (lists : Lists) (command : Watch → Parse Command) (line : Nat) : Nat → SimpleDraft → Parse Command
  | 0, _ => pure .nothing
  | n + 1, d => do
    let t ← token (innerOf lists) { aliases := d.words.isEmpty }
    let stop : Parse Command := do
      Parse.push t
      pure (.simple line d.assignments.reverse d.words.reverse d.redirections.reverse)
    match t with
    | .word w =>
      if d.words.isEmpty ∧ w.assignment?.isSome then
        simple lists command line n { d with assignments := w :: d.assignments }
      else simple lists command line n { d with words := w :: d.words }
    | .redirect _ | .announce _ _ =>
      let r ← target lists t
      simple lists command line n { d with redirections := r :: d.redirections }
    | .operator "(" =>
      match d with
      | ⟨[], [w], []⟩ =>
        let t ← token (innerOf lists) {}
        if !t.isOperator ")" then unexpectedFor t ")"
        else
          let name := w.plain?.getD []
          if !isName name || specialBuiltins.any fun b => Utf8.encode b == name then
            Parse.refuseText "Bad function name"
          else
            let line := (← get).line
            pure (.define line name (← command laterWatch))
      | _ => stop
    | _ => stop

/-- Takes words as long as there are some; the token behind them is given back. -/
def words (lists : Lists) : Nat → List Word → Parse (List Word × Token)
  | 0, ws => pure (ws.reverse, .ending)
  | n + 1, ws => do
    match ← token (innerOf lists) {} with
    | .word w => words lists n (w :: ws)
    | t => pure (ws.reverse, t)

/-- Takes what a condition decides, behind its keyword. -/
def branch (lists : Lists) : Nat → Parse Command
  | 0 => pure .nothing
  | n + 1 => do
    let condition ← lists .filled
    expect lists {} "then"
    let yes ← lists .filled
    let t ← token (innerOf lists) {}
    if t.isKeyword "elif" then pure (.branch condition yes (← branch lists n))
    else if t.isKeyword "else" then pure (.branch condition yes (← lists .filled))
    else
      Parse.push t
      pure (.branch condition yes .nothing)

/-- Takes the patterns of a case; the token behind them is given back. -/
def patterns (lists : Lists) : Nat → Token → List Word → Parse (List Word × Token)
  | 0, t, ws => pure (ws.reverse, t)
  | n + 1, t, ws => do
    let w : Word := match t with
      | .word w => w
      | .keyword k => [.text false (Utf8.encode k)]
      | _ => []
    let next ← token (innerOf lists) {}
    if next.isOperator "|" then patterns lists n (← token (innerOf lists) {}) (w :: ws)
    else pure ((w :: ws).reverse, next)

/-- Takes cases up to the keyword that ends them. -/
def cases (lists : Lists) : Nat → List (List Word × Command) → Parse (List (List Word × Command))
  | 0, cs => pure cs.reverse
  | n + 1, cs => do
    let watch : Watch := { newlines := true, keywords := true }
    let t ← token (innerOf lists) watch
    if t.isKeyword "esac" then pure cs.reverse
    else
      let t ← if t.isOperator "(" then token (innerOf lists) {} else pure t
      let (ws, next) ← patterns lists (Nat.pow 2 62) t []
      if !next.isOperator ")" then unexpectedFor next ")"
      else
        let body ← lists .open
        let t ← token (innerOf lists) watch
        if t.isKeyword "esac" then pure ((ws, body) :: cs).reverse
        else if t.isOperator ";;" then cases lists n ((ws, body) :: cs)
        else unexpectedFor t ";;"

/-- The word that stands for all arguments. -/
def allArguments : Word := [.parameter true [0x40] .value]

/-- Takes a loop over words, behind its keyword. -/
def each (lists : Lists) (line : Nat) : Parse Command := do
  match ← token (innerOf lists) {} with
  | .word w =>
    match w with
    | [.text false name] =>
      if !isName name then Parse.refuseText "Bad for loop variable"
      else
        let t ← token (innerOf lists) laterWatch
        let ws ← if t.isKeyword "in" then do
            let (ws, t) ← words lists (Nat.pow 2 62) []
            match t with
            | .newline | .operator ";" => pure ws
            | t => unexpected t
          else do
            if !t.isOperator ";" then Parse.push t
            pure [allArguments]
        expect lists laterWatch "do"
        pure (.each line name ws (← lists .filled))
    | _ => Parse.refuseText "Bad for loop variable"
  | _ => Parse.refuseText "Bad for loop variable"

/-- Puts redirections behind a command. -/
def redirected (line : Nat) (c : Command) : List Redirection → Command
  | [] => c
  | rs =>
    match c with
    | .subshell line body _ => .subshell line body rs
    | c => .redirected line c rs

/-- Takes a command that is made of others, or a simple one. Functions may be nested, to some depth. -/
def command (lists : Lists) : Nat → Watch → Parse Command
  | 0, _ => pure .nothing
  | n + 1, watch => do
    let line := (← get).line
    let finish (c : Command) : Parse Command := do
      pure (redirected line c (← redirections lists (Nat.pow 2 62) []))
    let closed (c : Command) (keyword : String) : Parse Command := do
      expect lists {} keyword
      finish c
    let loop (isUntil : Bool) : Parse Command := do
      let condition ← lists .filled
      expect lists {} "do"
      closed (.loop isUntil condition (← lists .filled)) "done"
    match ← token (innerOf lists) watch with
    | .keyword "if" => closed (← branch lists (Nat.pow 2 62)) "fi"
    | .keyword "while" => loop false
    | .keyword "until" => loop true
    | .keyword "for" => closed (← each lists line) "done"
    | .keyword "\x7b" => closed (← lists .filled) "\x7d"
    | .operator "(" =>
      let body ← lists .filled
      let t ← token (innerOf lists) {}
      if t.isOperator ")" then finish (.subshell line body []) else unexpectedFor t ")"
    | .keyword "case" =>
      match ← token (innerOf lists) {} with
      | .word w =>
        let t ← token (innerOf lists) laterWatch
        if !t.isKeyword "in" then unexpectedFor t "in"
        else finish (.select line w (← cases lists (Nat.pow 2 62) []))
      | t => Parse.refuseText (t.name ++ " unexpected (expecting word)")
    | .word w =>
      Parse.push (.word w)
      simple lists (command lists n) line (Nat.pow 2 62) {}
    | t =>
      if startsRedirection t then
        Parse.push t
        simple lists (command lists n) line (Nat.pow 2 62) {}
      else unexpected t

/-- How deep functions may be nested in each other. -/
def maxNesting : Nat := 1000

/-- Takes commands with pipes between them, behind the first. -/
def pipeRest (lists : Lists) : Nat → List Command → Parse Command
  | 0, _ => pure .nothing
  | n + 1, cs => do
    let t ← token (innerOf lists) {}
    if t.isOperator "|" then pipeRest lists n ((← command lists maxNesting laterWatch) :: cs)
    else
      Parse.push t
      match cs with
      | [c] => pure c
      | cs => pure (.pipe cs.reverse false)

/-- Takes commands with pipes between them. -/
def pipeline (lists : Lists) (watch : Watch) : Parse Command := do
  let t ← token (innerOf lists) watch
  if t.isKeyword "!" then
    let c ← command lists maxNesting commandWatch
    pure (.negation (← pipeRest lists (Nat.pow 2 62) [c]))
  else
    Parse.push t
    let c ← command lists maxNesting {}
    pipeRest lists (Nat.pow 2 62) [c]

/-- Takes what is joined to a command. -/
def joinedTo (lists : Lists) : Nat → Command → Parse Command
  | 0, c => pure c
  | n + 1, c => do
    let t ← token (innerOf lists) {}
    if t.isOperator "&&" then joinedTo lists n (.both c (← pipeline lists laterWatch))
    else if t.isOperator "||" then joinedTo lists n (.either c (← pipeline lists laterWatch))
    else
      Parse.push t
      pure c

/-- A command that is not waited for. -/
def inBackground (c : Command) : Command :=
  match c with
  | .pipe cs _ => .pipe cs true
  | .redirected line body rs => .background line body rs
  | c => .background 0 c []

/-- Puts a command behind others. -/
def after : Option Command → Command → Command
  | none, c => c
  | some before, c => .sequence before c

/-- Takes a list of commands. A complete line without any command is an empty list, and the end of the
script is none. -/
def list (lists : Lists) (kind : ListKind) : Nat → Option Command → Parse (Option Command)
  | 0, _ => pure none
  | n + 1, before => do
    let t ← token (innerOf lists)
      { newlines := kind != .line, keywords := true, aliases := true }
    let stop : Parse (Option Command) := do
      documents (innerOf lists)
      Parse.push .ending
      if before.isNone ∧ kind = .line then pure none else pure (some (before.getD .nothing))
    match t with
    | .newline =>
      documents (innerOf lists)
      pure (some (before.getD .nothing))
    | .ending => stop
    | t =>
      Parse.push t
      if kind ≠ .line ∧ (kind = .open ∨ before.isSome) ∧ t.closes then pure (some (before.getD .nothing))
      else
        let c ← joinedTo lists (Nat.pow 2 62) (← pipeline lists {})
        let t ← token (innerOf lists) {}
        let c := after before (if t.isOperator "&" then inBackground c else c)
        match t with
        | .ending => do
          documents (innerOf lists)
          Parse.push .ending
          pure (some c)
        | .newline =>
          Parse.push t
          list lists kind n (some c)
        | t =>
          if t.isOperator "&" || t.isOperator ";" then list lists kind n (some c)
          else if kind = .line then unexpected t
          else
            Parse.push t
            pure (some c)

/-- How lists of commands are read that stand in others, to some depth. -/
def nested : Nat → Lists
  | 0, _ => Parse.refuseText "too deep"
  | n + 1, kind => do pure ((← list (nested n) kind (Nat.pow 2 62) none).getD .nothing)

/-- Reads the commands of the next line, which may go on over more lines; there are none at the end. -/
def nextLine : Parse (Option Command) := do
  modify fun s => { s with pushed := none, announced := [], seen := [] }
  list (nested maxNesting) .line (Nat.pow 2 62) none

end Reader
end LineShell.Machine.Script
