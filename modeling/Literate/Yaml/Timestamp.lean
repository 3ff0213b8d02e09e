import Literate.Text.Numeral
import Literate.Yaml.Token

/-!
# Points in time

A YAML text may hold days and points in time.  A day is written by year, month
and day; a time of day may follow, with a fraction of a second and a zone.

**Existence.**  A point in time that is written correctly need not exist: its
day has to be in the calendar, and its zone is less than a day away from
universal time.
-/

namespace Literate
namespace Yaml

/-- A day and, when there is one, a time of day with its zone. -/
structure Timestamp where
  year : Nat
  month : Nat
  day : Nat
  /-- Hour, minute, second and microsecond. -/
  clock : Option (Nat × Nat × Nat × Nat) := none
  /-- The seconds by which local time is ahead of universal time. -/
  zone : Option Int := none
deriving DecidableEq

section Reading

/-- The parts of a point in time as they are written. -/
structure TimestampText where
  year : Text
  month : Text
  day : Text
  /-- Hour, minute, second and fraction, when there is a time of day. -/
  clock : Option (Text × Text × Text × Text) := none
  /-- The sign, the hours and the minutes of the zone; the sign is missing for universal time. -/
  zone : Option (Option Char × Text × Text) := none

/-- Between one and two digits at the beginning of a text. -/
def oneOrTwoDigits (t : Text) : Option (Text × Text) :=
  match t with
  | a :: b :: rest =>
      if a.isDigit then (if b.isDigit then some ([a, b], rest) else some ([a], b :: rest)) else none
  | [a] => if a.isDigit then some ([a], []) else none
  | [] => none

/-- A character that must come next. -/
def expectChar (c : Char) : Text → Option Text
  | d :: rest => if d = c then some rest else none
  | [] => none

/-- Exactly two digits at the beginning of a text. -/
def twoDigits : Text → Option (Text × Text)
  | a :: b :: rest => if a.isDigit ∧ b.isDigit then some ([a, b], rest) else none
  | _ => none

/-- The zone at the end of a point in time. -/
def zoneText? (t : Text) : Option (Option (Option Char × Text × Text)) :=
  match t.dropWhile (fun c => c == ' ' || c == '\t') with
  | [] => if t.isEmpty then some none else none
  | ['Z'] => some (some (none, [], []))
  | sign :: rest =>
      if sign = '+' ∨ sign = '-' then do
        let (hours, after) ← oneOrTwoDigits rest
        match after with
        | [] => some (some (some sign, hours, []))
        | _ => do
            let (minutes, last) ← twoDigits (← expectChar ':' after)
            if last.isEmpty then some (some (some sign, hours, minutes)) else none
      else none

/-- The parts of a point in time. -/
def timestampText? (t : Text) : Option TimestampText := do
  let year := t.take 4
  if year.length < 4 ∨ !year.all Char.isDigit then none
  else do
    let (month, t) ← oneOrTwoDigits (← expectChar '-' (t.drop 4))
    let (day, t) ← oneOrTwoDigits (← expectChar '-' t)
    match t with
    | [] => some { year := year, month := month, day := day }
    | c :: rest =>
        let clockText ←
          if c = 'T' ∨ c = 't' then some rest
          else if c = ' ' ∨ c = '\t' then some (rest.dropWhile fun c => c == ' ' || c == '\t')
          else none
        let (hour, t) ← oneOrTwoDigits clockText
        let (minute, t) ← twoDigits (← expectChar ':' t)
        let (second, t) ← twoDigits (← expectChar ':' t)
        let (fraction, t) := match t with
          | '.' :: more => (more.takeWhile Char.isDigit, more.dropWhile Char.isDigit)
          | _ => ([], t)
        let zone ← zoneText? t
        some
          { year := year, month := month, day := day
            clock := some (hour, minute, second, fraction), zone := zone }

/-- The number that plain decimal digits write. -/
def number (digits : Text) : Nat :=
  (Text.numberIn? 10 digits).getD 0

/-- Whether a year has a leap day. -/
def isLeapYear (year : Nat) : Bool :=
  year % 4 == 0 && (year % 100 != 0 || year % 400 == 0)

/-- The number of days in a month. -/
def daysInMonth (year month : Nat) : Nat :=
  if month = 2 then (if isLeapYear year then 29 else 28)
  else if month = 4 ∨ month = 6 ∨ month = 9 ∨ month = 11 then 30
  else 31

/-- The microseconds that the digits of a fraction of a second write. -/
def microseconds (t : Text) : Nat :=
  let digits := t.take 6
  number (digits ++ List.replicate (6 - digits.length) '0')

/-- The seconds of a zone, which is less than a day away from universal time. -/
def zoneSeconds? : Option Char × Text × Text → Option Int
  | (none, _, _) => some 0
  | (some sign, hours, minutes) =>
      let seconds := Int.ofNat (number hours * 3600 + number minutes * 60)
      if seconds < 86400 then some (if sign = '-' then -seconds else seconds) else none

/-- The day or the point in time that a text writes, which must exist; a line end at its end does not count. -/
def Timestamp.ofText (t : Text) : Except Error Timestamp :=
  match timestampText? (if t.getLast? = some '\n' then t.dropLast else t) with
  | none => .error (.scalar .notTimestamp)
  | some parts =>
      let year := number parts.year
      let month := number parts.month
      let day := number parts.day
      let dayExists := 1 ≤ year ∧ 1 ≤ month ∧ month ≤ 12 ∧ 1 ≤ day ∧ day ≤ daysInMonth year month
      match parts.clock with
      | none =>
          if dayExists then .ok { year := year, month := month, day := day }
          else .error (.scalar .badValue)
      | some (h, mi, s, f) =>
          let hour := number h
          let minute := number mi
          let second := number s
          let zone : Option (Option Int) := match parts.zone with
            | none => some none
            | some z => (zoneSeconds? z).map some
          match zone with
          | none => .error (.scalar .badValue)
          | some zone =>
              if dayExists ∧ hour < 24 ∧ minute < 60 ∧ second < 60 then
                .ok
                  { year := year, month := month, day := day
                    clock := some (hour, minute, second, microseconds f), zone := zone }
              else .error (.scalar .badValue)

end Reading

section Comparison

/-- The days from the first day of the first year to a day. -/
def dayNumber (year month day : Nat) : Int :=
  let y := year - 1
  let before := (List.range (month - 1)).foldl (fun acc m => acc + daysInMonth year (m + 1)) 0
  Int.ofNat (y * 365 + y / 4 - y / 100 + y / 400 + before + day)

/-- A point in time with a zone as seconds of universal time and microseconds. -/
def Timestamp.instant? (t : Timestamp) : Option (Int × Nat) :=
  match t.clock, t.zone with
  | some (h, mi, s, f), some zone =>
      some (dayNumber t.year t.month t.day * 86400 + Int.ofNat (h * 3600 + mi * 60 + s) - zone, f)
  | _, _ => none

/-- Whether two times are equal: as instants when both have a zone. -/
def Timestamp.same (a b : Timestamp) : Bool :=
  match a.instant?, b.instant? with
  | some x, some y => x == y
  | none, none => a == b
  | _, _ => false

end Comparison

section Display

/-- Hours and minutes, and seconds when there are any, of a zone with its sign. -/
def zoneText (seconds : Int) : Text :=
  let sign : Text := if seconds < 0 then "-" else "+"
  let n := seconds.natAbs
  sign ++ Text.ofNatPadded 2 (n / 3600) ++ ":" ++ Text.ofNatPadded 2 (n / 60 % 60)

/-- A day or a point in time on its own. -/
def Timestamp.toText (t : Timestamp) : Text :=
  let day := Text.ofNatPadded 4 t.year ++ "-" ++ Text.ofNatPadded 2 t.month ++ "-" ++
    Text.ofNatPadded 2 t.day
  match t.clock with
  | none => day
  | some (h, mi, s, f) =>
      let micro : Text := if f = 0 then [] else "." ++ Text.ofNatPadded 6 f
      let zone : Text := match t.zone with
        | none => []
        | some seconds => zoneText seconds
      day ++ " " ++ Text.ofNatPadded 2 h ++ ":" ++ Text.ofNatPadded 2 mi ++ ":" ++
        Text.ofNatPadded 2 s ++ micro ++ zone

/-- A zone inside a collection. -/
def zoneDisplay (seconds : Int) : Text :=
  if seconds = 0 then "datetime.timezone.utc"
  else if seconds < 0 then
    "datetime.timezone(datetime.timedelta(days=-1, seconds=" ++ Text.ofInt (seconds + 86400) ++ "))"
  else "datetime.timezone(datetime.timedelta(seconds=" ++ Text.ofInt seconds ++ "))"

/-- A day or a point in time inside a collection. -/
def Timestamp.display (t : Timestamp) : Text :=
  let day := [t.year, t.month, t.day]
  match t.clock with
  | none => "datetime.date(" ++ Text.join ", " (day.map Text.ofNat) ++ ")"
  | some (h, mi, s, f) =>
      let clock := if f ≠ 0 then [h, mi, s, f] else if s ≠ 0 then [h, mi, s] else [h, mi]
      let zone : List Text := match t.zone with
        | none => []
        | some seconds => ["tzinfo=" ++ zoneDisplay seconds]
      "datetime.datetime(" ++ Text.join ", " ((day ++ clock).map Text.ofNat ++ zone) ++ ")"

end Display

end Yaml
end Literate
