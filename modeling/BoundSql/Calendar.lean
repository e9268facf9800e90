import BoundSql.Number.Scientific
/-!
Dates, times of day and moments, in ISO notation. A time may say how far its clock is from universal
time; one that does cannot be compared with one that does not.
-/

namespace BoundSql

structure Date where
  year : Nat
  month : Nat
  day : Nat
  deriving DecidableEq, Repr

/-- The offset of the clock from universal time is in microseconds. -/
structure TimeOfDay where
  hour : Nat
  minute : Nat
  second : Nat
  microsecond : Nat
  offset : Option Int
  deriving DecidableEq, Repr

def readFixed? (width : Nat) (t : Text) : Option Nat :=
  if t.length = width && t.all Char.isDigit then some (digitsValue t) else none

namespace Date

/-- The number of the day, counted from the first of March of the year zero. -/
def dayNumber (d : Date) : Int :=
  let y : Int := if d.month ≤ 2 then (d.year : Int) - 1 else d.year
  let m : Int := if d.month ≤ 2 then (d.month : Int) + 9 else (d.month : Int) - 3
  365 * y + Int.fdiv y 4 - Int.fdiv y 100 + Int.fdiv y 400 + (153 * m + 2) / 5 + d.day

/-- The date of a positive day number. Four hundred years have 146097 days; within them a year begins
in March, so that the day that only some years have is its last one. -/
def ofDayNumber (n : Nat) : Date :=
  let day := (n - 1) % 146097
  let year := (day - day / 1460 + day / 36524 - day / 146096) / 365
  let dayOfYear := day - (365 * year + year / 4 - year / 100)
  let month := (5 * dayOfYear + 2) / 153
  { year := (n - 1) / 146097 * 400 + year + (if month < 10 then 0 else 1)
    month := if month < 10 then month + 3 else month - 9
    day := dayOfYear - (153 * month + 2) / 5 + 1 }

/-- The day of the week, counted from Monday as zero. -/
def weekday (d : Date) : Int :=
  (d.dayNumber + 1) % 7

/-- The date of a day in a week of a year, all counted from one. A week belongs to the year that its
Thursday is in, so the fourth of January is always in the first one. -/
def ofWeek? (year week day : Nat) : Option Date :=
  let fourth : Date := ⟨year, 1, 4⟩
  let monday := fourth.dayNumber - fourth.weekday + 7 * ((week : Int) - 1)
  if (ofDayNumber (monday + 3).toNat).year = year && 1 ≤ day && day ≤ 7 then
    some (ofDayNumber (monday + day - 1).toNat)
  else none

def readWeek? (year week day : Text) : Option Date := do
  let day := if day.isEmpty then ['1'] else day
  ofWeek? (← readFixed? 4 year) (← readFixed? 2 week) (← readFixed? 1 day)

def readCalendar? (year month day : Text) : Option Date := do
  return { year := ← readFixed? 4 year, month := ← readFixed? 2 month, day := ← readFixed? 2 day }

def readCompact? (t : Text) : Option Date :=
  match t.drop 4 with
  | 'W' :: rest => readWeek? (t.take 4) (rest.take 2) (rest.drop 2)
  | rest => readCalendar? (t.take 4) (rest.take 2) (rest.drop 2)

/-- Reads a calendar date or a week date, with or without hyphens. Ten characters without a hyphen
after the year are eight of a date and two that do not count. -/
def ofText? (t : Text) : Option Date :=
  if t[4]? = some '-' then
    match cutAt '-' t with
    | [y, 'W' :: w] => readWeek? y w []
    | [y, 'W' :: w, d] => if d.isEmpty then none else readWeek? y w d
    | [y, m, d] => readCalendar? y m d
    | _ => none
  else readCompact? (if t.length = 10 then t.take 8 else t)

def text (d : Date) : Text :=
  joinWith ['-'] [paddedText 4 d.year, paddedText 2 d.month, paddedText 2 d.day]

end Date

/-- A fraction of a second in microseconds, and what is left of the text. Digits after the sixth do
not count. -/
def readFraction? (t : Text) : Option (Nat × Text) :=
  let digits := t.take 6
  if digits.isEmpty || !digits.all Char.isDigit then none
  else some (digitsValue ((digits ++ List.replicate 6 '0').take 6),
    (t.drop 6).dropWhile Char.isDigit)

/-- Reads groups of two digits, at most as many as said, then a fraction and what is left. A colon
stands after each group but the last one, or after none. The fraction follows a point or a comma, or
the groups if there are as many as said. A single character after a group is left. -/
def readGroups? (colons : Bool) : Nat → Text → Option (List Nat × Nat × Text)
  | 0, t => (readFraction? t).map fun (fraction, left) => ([], fraction, left)
  | n + 1, t => do
    let group ← readFixed? 2 (t.take 2)
    let (groups, fraction, left) ←
      match t.drop 2 with
      | [] => some ([], 0, [])
      | [c] => if c.val < 0x80 then some ([], 0, [c]) else none
      | c :: rest =>
        if c = '.' || c = ',' then (readFraction? rest).map fun (f, left) => ([], f, left)
        else if !colons then readGroups? colons n (c :: rest)
        else if c = ':' then readGroups? colons n rest
        else none
    some (group :: groups, fraction, left)

def readClock? (t : Text) : Option ((Nat × Nat × Nat × Nat) × Text) := do
  let (groups, fraction, left) ← readGroups? (t[2]? = some ':') 3 t
  some ((groups[0]?.getD 0, groups[1]?.getD 0, groups[2]?.getD 0, fraction), left)

def clockMicroseconds (h m s f : Nat) : Nat :=
  ((h * 60 + m) * 60 + s) * 1000000 + f

def offsetText (offset : Int) : Text :=
  let n := offset.natAbs
  let s := n / 1000000
  (if offset < 0 then '-' else '+') :: paddedText 2 (s / 3600) ++
    ':' :: paddedText 2 (s / 60 % 60) ++
    (if n % 60000000 = 0 then [] else ':' :: paddedText 2 (s % 60)) ++
    (if n % 1000000 = 0 then [] else '.' :: paddedText 6 (n % 1000000))

namespace TimeOfDay

/-- Reads a time of day and its offset, if any. An offset of less than a second is zero. What a clock
leaves of its text does not count if an offset follows. -/
def ofText? (t : Text) : Option TimeOfDay := do
  let isMark (c : Char) : Bool := c = '+' || c = '-' || c = 'Z'
  let t := if t.head? = some 'T' then t.drop 1 else t
  let ((h, m, s, f), left) ← readClock? (t.takeWhile fun c => !isMark c)
  let offset ←
    match t.dropWhile fun c => !isMark c with
    | [] => if left.isEmpty then some none else none
    | ['Z'] => some (some 0)
    | sign :: rest => do
      let ((oh, om, os, of), more) ← readClock? rest
      let n := clockMicroseconds oh om os of
      if more.isEmpty then some (some (if n < 1000000 then 0 else withSign (sign = '-') n)) else none
  return { hour := h, minute := m, second := s, microsecond := f, offset }

def text (t : TimeOfDay) : Text :=
  joinWith [':'] [paddedText 2 t.hour, paddedText 2 t.minute, paddedText 2 t.second] ++
    (if t.microsecond = 0 then [] else '.' :: paddedText 6 t.microsecond) ++
    (t.offset.map offsetText).getD []

def instant (t : TimeOfDay) : Int :=
  (clockMicroseconds t.hour t.minute t.second t.microsecond : Int) - t.offset.getD 0

/-- The place of a time in the order of times: by whole seconds in universal time, for which an
offset is rounded down to seconds, and then by the fraction of the clock's own second. -/
def rank (t : TimeOfDay) : Int :=
  (clockMicroseconds t.hour t.minute t.second t.microsecond : Int) -
    Int.fdiv (t.offset.getD 0) 1000000 * 1000000

def same (s t : TimeOfDay) : Bool :=
  s.instant == t.instant && s.microsecond == t.microsecond

end TimeOfDay

structure Moment where
  date : Date
  time : TimeOfDay
  deriving DecidableEq, Repr

namespace Moment

/-- How many characters at the front of a moment are its date. A hyphen after a week may come before
its day or, when two digits follow, before the time. Without hyphens, an even number of digits after
a week are its day, a separator and a time in groups of two; an odd number lack the day. -/
def dateLength (t : Text) : Nat :=
  if t[4]? = some '-' then
    if t[5]? = some 'W' then
      if t[8]? = some '-' && !t[10]?.any Char.isDigit then 10 else 8
    else 10
  else if t[4]? = some 'W' then
    let digits := ((t.drop 7).takeWhile Char.isDigit).length
    if digits < 2 then 7 + digits else if digits % 2 = 0 then 8 else 7
  else 8

def ofText? (t : Text) : Option Moment := do
  let date ← Date.ofText? (t.take (dateLength t))
  match t.drop (dateLength t) with
  | [] => return { date, time := ⟨0, 0, 0, 0, none⟩ }
  | _ :: rest => return { date, time := ← TimeOfDay.ofText? rest }

def text (m : Moment) : Text :=
  m.date.text ++ 'T' :: m.time.text

/-- Microseconds on one time line for all moments with an offset, and one for all without. -/
def instant (m : Moment) : Int :=
  m.date.dayNumber * 86400000000 + m.time.instant

end Moment

end BoundSql
