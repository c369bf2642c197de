/-
This file reads timestamps and says which of them the calendar and the clock do not have.
-/

import Outline.Text.Quoted

namespace Outline.Yaml

/-- A time of day, with its distance from universal time in seconds if that is given by numbers. -/
structure Clock where
  hour : Nat
  minute : Nat
  second : Nat
  offset : Option Int := none
  deriving Repr, DecidableEq

/-- A timestamp is padded if its month and its day have two digits each. -/
structure Timestamp where
  year : Nat
  month : Nat
  day : Nat
  padded : Bool
  clock : Option Clock := none
  deriving Repr, DecidableEq

namespace Timestamp

def number (digits : Text) : Nat :=
  digits.foldl (fun value digit => 10 * value + (digit.toNat - '0'.toNat)) 0

/-- The digits in front, as many as there are up to a bound. -/
def digits? (least most : Nat) (text : Text) : Option (Text × Text) :=
  let found := (text.take most).takeWhile Char.isDigit
  if found.length < least then none else some (found, text.drop found.length)

/-- The minutes of an offset may be left out. -/
def offset? (text : Text) : Option Nat := do
  let (hours, rest) ← digits? 1 2 text
  match rest with
  | [] => some (3600 * number hours)
  | ':' :: rest =>
      let (minutes, rest) ← digits? 2 2 rest
      if rest.isEmpty then some (3600 * number hours + 60 * number minutes) else none
  | _ => none

/-- What may follow the seconds: nothing, or a zone after blanks. -/
def zone? (text : Text) : Option (Option Int) :=
  if text.isEmpty then some none
  else match text.dropWhile Text.isBlank with
    | ['Z'] => some none
    | '+' :: rest => (offset? rest).map fun seconds => some (Int.ofNat seconds)
    | '-' :: rest => (offset? rest).map fun seconds => some (-Int.ofNat seconds)
    | _ => none

def clock? (text : Text) : Option Clock := do
  let (hour, rest) ← digits? 1 2 text
  let (minute, rest) ← digits? 2 2 (← Text.after? [':'] rest)
  let (second, rest) ← digits? 2 2 (← Text.after? [':'] rest)
  let rest := match rest with
    | '.' :: fraction => fraction.dropWhile Char.isDigit
    | _ => rest
  let offset ← zone? rest
  return ⟨number hour, number minute, number second, offset⟩

def ofText? (text : Text) : Option Timestamp := do
  let (year, rest) ← digits? 4 4 text
  let (month, rest) ← digits? 1 2 (← Text.after? ['-'] rest)
  let (day, rest) ← digits? 1 2 (← Text.after? ['-'] rest)
  let date : Timestamp :=
    ⟨number year, number month, number day, month.length == 2 && day.length == 2, none⟩
  match rest with
  | [] => some date
  | character :: later =>
      if character = 'T' || character = 't' then
        (clock? later).map fun clock => { date with clock := some clock }
      else if Text.isBlank character then
        (clock? (later.dropWhile Text.isBlank)).map fun clock => { date with clock := some clock }
      else none

/-- An unquoted text is a timestamp if it has a clock, or a date that is padded. -/
def isPlain (text : Text) : Bool :=
  (ofText? text).any fun timestamp => timestamp.padded || timestamp.clock.isSome

def isLeap (year : Nat) : Bool := year % 4 == 0 && (year % 100 != 0 || year % 400 == 0)

def daysIn (year month : Nat) : Nat :=
  if month = 2 then (if isLeap year then 29 else 28)
  else if [4, 6, 9, 11].contains month then 30
  else 31

def secondsInDay : Int := 86400

/-- A span of time is written in days and the seconds that are left of a day. -/
def span (seconds : Int) : Text :=
  let days := seconds.fdiv secondsInDay
  let left := seconds.fmod secondsInDay
  "datetime.timedelta(days=".toList ++ (toString days).toList
    ++ (if left = 0 then [] else ", seconds=".toList ++ (toString left).toList) ++ [')']

/-- An offset has to be less than a day. -/
def offsetFault? (clock : Clock) : Option Text := do
  let seconds ← clock.offset
  if -secondsInDay < seconds && seconds < secondsInDay then none
  else some ("offset must be a timedelta strictly between -timedelta(hours=24) and ".toList
    ++ "timedelta(hours=24), not ".toList ++ span seconds ++ ['.'])

def dateFault? (timestamp : Timestamp) : Option Text :=
  if timestamp.year = 0 then some "year 0 is out of range".toList
  else if timestamp.month = 0 || 12 < timestamp.month then some "month must be in 1..12".toList
  else if timestamp.day = 0 || daysIn timestamp.year timestamp.month < timestamp.day then
    some "day is out of range for month".toList
  else none

def clockFault? (clock : Clock) : Option Text :=
  if 23 < clock.hour then some "hour must be in 0..23".toList
  else if 59 < clock.minute then some "minute must be in 0..59".toList
  else if 59 < clock.second then some "second must be in 0..59".toList
  else none

/-- Why there is no such time. The offset is looked at first, then the date, then the clock. -/
def fault? (timestamp : Timestamp) : Option Text :=
  (timestamp.clock.bind offsetFault?).or
    ((dateFault? timestamp).or (timestamp.clock.bind clockFault?))

/-- Why a text is no timestamp, or one that does not exist. -/
def failure? (text : Text) : Option Text :=
  match ofText? text with
  | some timestamp => timestamp.fault?
  | none => some "\x27NoneType\x27 object has no attribute \x27groupdict\x27".toList

end Timestamp

end Outline.Yaml
