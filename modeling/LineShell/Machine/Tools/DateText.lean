import LineShell.Machine.Tools.Moment

/-!
Dates as people write them: days and times of day, and words that count from the present moment.
-/

namespace LineShell.Machine.DateText

/-- A moment that is being put together from words: the day, the time of day in seconds, and what is added. -/
structure Draft where
  day : Option (Int × Nat × Nat) := none
  time : Option Nat := none
  zone : Int := 0
  months : Int := 0
  seconds : Int := 0
  exact : Option Int := none

/-- A number of digits of which there are so many. -/
def number? (least most : Nat) (cs : List Char) : Option Nat :=
  if cs.length < least ∨ most < cs.length ∨ !cs.all Char.isDigit then none
  else some (cs.foldl (fun n c => n * 10 + (c.toNat - 48)) 0)

/-- The pieces of a text between marks. -/
def pieces (mark : Char) (cs : List Char) : List (List Char) := cs.splitOn mark

/-- A day that there is. -/
def validDay (year : Int) (month day : Nat) : Option (Int × Nat × Nat) :=
  if ({ year, month, day : Date } : Date).isValid then some (year, month, day) else none

/-- The year that one with two digits stands for. -/
def fullYear (digits n : Nat) : Int := if digits = 2 then (if n < 69 then 2000 + n else 1900 + n) else n

/-- A day in digits. -/
def day? (cs : List Char) : Option (Int × Nat × Nat) :=
  match pieces '-' cs with
  | [y, m, d] => do validDay (fullYear y.length (← number? 1 6 y)) (← number? 1 2 m) (← number? 1 2 d)
  | _ =>
    match pieces '/' cs with
    | [m, d, y] =>
      if 3 ≤ m.length then do validDay (← number? 1 6 m) (← number? 1 2 d) (← number? 1 2 y)
      else do validDay (fullYear y.length (← number? 1 6 y)) (← number? 1 2 m) (← number? 1 2 d)
    | _ =>
      if cs.length = 8 then do
        validDay (← number? 4 4 (cs.take 4)) (← number? 2 2 ((cs.drop 4).take 2)) (← number? 2 2 (cs.drop 6))
      else none

/-- A time of day in digits, in seconds. -/
def clock? (cs : List Char) : Option Nat :=
  let whole := cs.takeWhile fun c => c ≠ '.' ∧ c ≠ ','
  let time (h m s : Nat) : Option Nat := if h < 24 ∧ m < 60 ∧ s ≤ 60 then some (h * 3600 + m * 60 + s) else none
  match pieces ':' whole with
  | [h, m] => do time (← number? 1 2 h) (← number? 2 2 m) 0
  | [h, m, s] => do time (← number? 1 2 h) (← number? 2 2 m) (← number? 2 2 s)
  | _ => none

/-- A zone as seconds to the east. -/
def zone? (cs : List Char) : Option Int :=
  let offset (sign : Int) (ds : List Char) : Option Int :=
    match pieces ':' ds with
    | [h, m] => do pure (sign * ((← number? 1 2 h) * 3600 + (← number? 2 2 m) * 60 : Nat))
    | [hm] =>
      if hm.length ≤ 2 then do pure (sign * ((← number? 1 2 hm) * 3600 : Nat))
      else do pure (sign * ((← number? 2 2 (hm.take 2)) * 3600 + (← number? 2 2 (hm.drop 2)) * 60 : Nat))
    | _ => none
  match cs with
  | ['z'] | ['u', 't', 'c'] | ['g', 'm', 't'] | ['u', 't'] => some 0
  | '+' :: ds => offset 1 ds
  | '-' :: ds => offset (-1) ds
  | _ => none

/-- A time of day with a zone behind it. -/
def clockWithZone? (cs : List Char) : Option (Nat × Int) :=
  let front := cs.takeWhile fun c => c.isDigit ∨ c = ':' ∨ c = '.' ∨ c = ','
  match clock? front, cs.drop front.length with
  | some t, [] => some (t, 0)
  | some t, rest => (zone? rest).map fun z => (t, z)
  | none, _ => none

/-- The units that words name, in months or seconds. -/
def units : List (String × Int × Int) :=
  [("year", 12, 0), ("month", 1, 0), ("fortnight", 0, 1209600), ("week", 0, 604800), ("day", 0, 86400),
    ("hour", 0, 3600), ("minute", 0, 60), ("min", 0, 60), ("second", 0, 1), ("sec", 0, 1)]

/-- The unit that a word names, also for several. -/
def unit? (word : String) : Option (Int × Int) :=
  (units.find? fun u => u.1 = word ∨ u.1 ++ "s" = word).map Prod.snd

/-- The number of a month by its name or the start of that. -/
def month? (cs : List Char) : Option Nat :=
  if cs.length < 3 then none
  else
    let names := ["january", "february", "march", "april", "may", "june", "july", "august", "september", "october",
      "november", "december"]
    (names.findIdx? fun n => if cs.length = 3 then n.toList.take 3 = cs else n.toList = cs).map (· + 1)

/-- A number with a sign. -/
def signed? : List Char → Option Int
  | '+' :: cs => (number? 1 18 cs).map Int.ofNat
  | '-' :: cs => (number? 1 18 cs).map fun n => -Int.ofNat n
  | cs => (number? 1 18 cs).map Int.ofNat

/-- Adds a span to a draft. -/
def Draft.later (d : Draft) (n : Int) (span : Int × Int) : Draft :=
  { d with months := d.months + n * span.1, seconds := d.seconds + n * span.2 }

/-- Reads words. Every step uses up at least one of them. -/
def read (now : Date) : Nat → Draft → List String → Option Draft
  | 0, _, _ => none
  | _, d, [] => some d
  | n + 1, d, word :: more =>
    let cs := word.toList
    let count (k : Int) (more : List String) : Option Draft :=
      match more with
      | name :: rest =>
        match unit? name, rest with
        | some span, "ago" :: rest => read now n (d.later (-k) span) rest
        | some span, rest => read now n (d.later k span) rest
        | none, _ => none
      | [] => none
    match word with
    | "now" | "today" => read now n d more
    | "yesterday" => read now n (d.later (-1) (0, 86400)) more
    | "tomorrow" => read now n (d.later 1 (0, 86400)) more
    | "midnight" => read now n { d with time := some 0 } more
    | "noon" => read now n { d with time := some 43200 } more
    | "next" => count 1 more
    | "last" => count (-1) more
    | _ =>
      match day? cs, clockWithZone? cs, zone? cs, month? cs, signed? cs with
      | some day, _, _, _, _ => if d.day.isSome then none else read now n { d with day } more
      | none, some (time, zone), _, _, _ =>
        if d.time.isSome then none
        else
          match more with
          | "am" :: more => read now n { d with time := some (time % 43200) } more
          | "pm" :: more => read now n { d with time := some (time % 43200 + 43200) } more
          | more => read now n { d with time, zone } more
      | none, none, some zone, _, k =>
        match more, k with
        | name :: _, some k =>
          if (unit? name).isSome then count k more else read now n { d with zone } more
        | _, _ => read now n { d with zone } more
      | none, none, none, some month, _ =>
        match more with
        | day :: year :: rest =>
          let digits := (day.toList.filter (· ≠ ','))
          match number? 1 2 digits, number? 4 4 year.toList with
          | some k, some y => (validDay y month k).bind fun day => read now n { d with day := some day } rest
          | some k, none =>
            (validDay now.year month k).bind fun day => read now n { d with day := some day } (year :: rest)
          | none, _ => none
        | [day] => do
          let day ← validDay now.year month (← number? 1 2 day.toList)
          pure { d with day := some day }
        | [] => none
      | none, none, none, none, some k =>
        match more with
        | name :: rest =>
          match month? name.toList, rest with
          | some month, year :: rest' =>
            match number? 4 4 year.toList with
            | some y => (validDay y month k.toNat).bind fun day => read now n { d with day := some day } rest'
            | none => (validDay now.year month k.toNat).bind fun day => read now n { d with day := some day } rest
          | some month, [] => (validDay now.year month k.toNat).map fun day => { d with day := some day }
          | none, _ => count k more
        | [] => none
      | none, none, none, none, none =>
        match cs with
        | '@' :: ds => (signed? (ds.takeWhile (· ≠ '.'))).bind fun s => read now n { d with exact := some s } more
        | _ =>
          match pieces 't' cs with
          | [a, b] => do
            let day ← day? a
            let (time, zone) ← clockWithZone? b
            read now n { d with day := some day, time := some time, zone } more
          | _ => none

/-- The seconds of a draft since the beginning of 1970. -/
def Draft.value (d : Draft) (now : Date) : Int :=
  match d.exact with
  | some s => s + d.seconds
  | none =>
    let (year, month, day) := d.day.getD (now.year, now.month, now.day)
    let months := year * 12 + (month - 1 : Nat) + d.months
    let present := now.hour * 3600 + now.minute * 60 + now.second
    let time := d.time.getD (if d.day.isSome then 0 else present)
    Date.days (months.fdiv 12) ((months.fmod 12).toNat + 1) day * Date.daySeconds + time - d.zone + d.seconds

/-- The seconds since the beginning of 1970 that a text means. -/
def seconds? (now : Date) (text : Bytes) : Option Int :=
  if text.all (· < 0x80) then
    let cs := text.map fun b => (Char.ofNat b.toNat).toLower
    let words := (cs.splitBy fun a b => a ≠ ' ' ∧ b ≠ ' ').filter fun w => !w.contains ' '
    let words := words.map String.ofList
    if words = [] then some (Draft.value { time := some 0 } now)
    else (read now (words.length + 1) {} words).map fun d => d.value now
  else none

/-- The seconds that a stamp of digits means: month, day, hour and minute, with a year in front and seconds
behind a dot if there are any. -/
def stamp? (now : Date) (text : Bytes) : Option Int := do
  let cs := text.map fun b => Char.ofNat b.toNat
  let main := cs.takeWhile (· ≠ '.')
  let second ← match cs.drop main.length with
    | [] => some 0
    | _ :: ds => number? 2 2 ds
  if main.length % 2 ≠ 0 ∨ main.length < 8 ∨ 12 < main.length then none
  else
    let front := main.take (main.length - 8)
    let rest := main.drop (main.length - 8)
    let year ← if front = [] then some now.year else do
      let n ← number? 2 4 front
      pure (fullYear front.length n)
    let date : Date := {
      year, month := ← number? 2 2 (rest.take 2), day := ← number? 2 2 ((rest.drop 2).take 2)
      hour := ← number? 2 2 ((rest.drop 4).take 2), minute := ← number? 2 2 (rest.drop 6), second }
    if date.isValid then some date.seconds else none

end LineShell.Machine.DateText
