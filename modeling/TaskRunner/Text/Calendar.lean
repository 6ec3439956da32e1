import TaskRunner.Text.CharClass
import TaskRunner.Text.Layout

/-! The calendar: what date and time of day an instant has, counted in millionths of a second from
the beginning of the year 1970, and how dates are written. -/

namespace TaskRunner

/-- A date and a time of day.  Days of the week are counted from Sunday, days of the year from zero.
-/
structure Moment where
  year : Int
  month : Nat
  day : Nat
  hour : Nat
  minute : Nat
  second : Nat
  fraction : Nat
  weekday : Nat
  yearday : Nat
deriving DecidableEq, Repr

namespace Moment

/-- The days from the beginning of the year 1970 to a date. -/
def daysTo (year : Int) (month day : Nat) : Int :=
  let y := if month ≤ 2 then year - 1 else year
  let era := y.fdiv 400
  let yearOfEra := y - era * 400
  let shifted : Int := if 2 < month then month - 3 else month + 9
  let dayOfYear := (153 * shifted + 2) / 5 + day - 1
  let dayOfEra := yearOfEra * 365 + yearOfEra / 4 - yearOfEra / 100 + dayOfYear
  era * 146097 + dayOfEra - 719468

/-- The date some days from the beginning of the year 1970. -/
def dateOf (days : Int) : Int × Nat × Nat :=
  let z := days + 719468
  let era := z.fdiv 146097
  let dayOfEra := z - era * 146097
  let yearOfEra := (dayOfEra - dayOfEra / 1460 + dayOfEra / 36524 - dayOfEra / 146096) / 365
  let dayOfYear := dayOfEra - (365 * yearOfEra + yearOfEra / 4 - yearOfEra / 100)
  let shifted := (5 * dayOfYear + 2) / 153
  let day := dayOfYear - (153 * shifted + 2) / 5 + 1
  let month := if shifted < 10 then shifted + 3 else shifted - 9
  (yearOfEra + era * 400 + (if month ≤ 2 then 1 else 0), month.toNat, day.toNat)

/-- The moment of an instant. -/
def ofInstant (instant : Int) : Moment :=
  let seconds := instant.fdiv 1000000
  let days := seconds.fdiv 86400
  let ofDay := (seconds - days * 86400).toNat
  let (year, month, day) := dateOf days
  { year, month, day
    hour := ofDay / 3600
    minute := ofDay / 60 % 60
    second := ofDay % 60
    fraction := (instant - seconds * 1000000).toNat
    weekday := ((days + 4).fmod 7).toNat
    yearday := (days - daysTo year 1 1).toNat }

/-- The seconds from the beginning of the year 1970 to a moment. -/
def seconds (moment : Moment) : Int :=
  daysTo moment.year moment.month moment.day * 86400 + moment.hour * 3600 + moment.minute * 60 +
    moment.second

/-- The names of the days of the week. -/
def dayNames : List String :=
  ["Sunday", "Monday", "Tuesday", "Wednesday", "Thursday", "Friday", "Saturday"]

/-- The names of the months. -/
def monthNames : List String :=
  ["January", "February", "March", "April", "May", "June", "July", "August", "September",
    "October", "November", "December"]

/-- The first letters of a name. -/
def shortName (name : String) : Text :=
  name.toList.take 3

/-- A number with zeros before it, up to a width. -/
def zeroed (width : Nat) (n : Int) : Text :=
  (Layout.mk ['0'] width none).signed n

/-- The week of the year that a moment lies in if weeks begin on a day. -/
def week (moment : Moment) (first : Nat) : Nat :=
  (moment.yearday + 7 - (moment.weekday + 7 - first) % 7) / 7

/-- The year and the week that a moment lies in if the first week is the one with the first
Thursday. -/
def yearAndWeek (moment : Moment) : Int × Nat :=
  let days := daysTo moment.year moment.month moment.day
  let thursday := days - ((moment.weekday + 6) % 7 : Nat) + 3
  let (year, _, _) := dateOf thursday
  (year, ((thursday - daysTo year 1 1) / 7).toNat + 1)

/-- What a letter after a percent sign stands for, with the way that numbers are filled up. -/
def part? (moment : Moment) (letter : Char) : Option (Char × Nat × Int) :=
  let hour := if moment.hour % 12 = 0 then 12 else moment.hour % 12
  match letter with
  | 'Y' => some ('-', 1, moment.year)
  | 'C' => some ('0', 2, moment.year.fdiv 100)
  | 'y' => some ('0', 2, moment.year.fmod 100)
  | 'm' => some ('0', 2, moment.month)
  | 'd' => some ('0', 2, moment.day)
  | 'e' => some ('_', 2, moment.day)
  | 'H' => some ('0', 2, moment.hour)
  | 'I' => some ('0', 2, hour)
  | 'k' => some ('_', 2, moment.hour)
  | 'l' => some ('_', 2, hour)
  | 'M' => some ('0', 2, moment.minute)
  | 'S' => some ('0', 2, moment.second)
  | 'j' => some ('0', 3, moment.yearday + 1)
  | 'q' => some ('-', 1, (moment.month + 2) / 3)
  | 's' => some ('-', 1, moment.seconds)
  | 'u' => some ('-', 1, if moment.weekday = 0 then 7 else moment.weekday)
  | 'w' => some ('-', 1, moment.weekday)
  | 'U' => some ('0', 2, moment.week 0)
  | 'W' => some ('0', 2, moment.week 1)
  | 'V' => some ('0', 2, moment.yearAndWeek.2)
  | 'G' => some ('-', 1, moment.yearAndWeek.1)
  | 'g' => some ('0', 2, moment.yearAndWeek.1.fmod 100)
  | _ => none

/-- The words that a letter after a percent sign stands for. -/
def words? (moment : Moment) (letter : Char) : Option Text :=
  let day := dayNames.getD moment.weekday ""
  let month := monthNames.getD (moment.month - 1) ""
  match letter with
  | 'a' => some (shortName day)
  | 'A' => some day.toList
  | 'b' => some (shortName month)
  | 'h' => some (shortName month)
  | 'B' => some month.toList
  | 'p' => some (if moment.hour < 12 then ['A', 'M'] else ['P', 'M'])
  | 'P' => some (if moment.hour < 12 then ['a', 'm'] else ['p', 'm'])
  | 'Z' => some "UTC".toList
  | 'z' => some "+0000".toList
  | 'n' => some ['\n']
  | 't' => some ['\t']
  | '%' => some ['%']
  | 'N' => some (zeroed 9 (moment.fraction * 1000))
  | _ => none

/-- The longer format that a letter after a percent sign stands for. -/
def longer? (letter : Char) : Option String :=
  match letter with
  | 'F' => some "%Y-%m-%d"
  | 'T' => some "%H:%M:%S"
  | 'X' => some "%H:%M:%S"
  | 'D' => some "%m/%d/%y"
  | 'x' => some "%m/%d/%y"
  | 'R' => some "%H:%M"
  | 'r' => some "%I:%M:%S %p"
  | 'c' => some "%a %b %e %H:%M:%S %Y"
  | _ => none

/-- A moment written by a format, with a bound on its length. -/
def format (moment : Moment) : Nat → Text → Text
  | 0, text => text
  | _ + 1, [] => []
  | fuel + 1, '%' :: cs =>
    let flags := cs.takeWhile fun c => "-_0^#+".toList.contains c
    let rest := cs.drop flags.length
    let digits := rest.takeWhile Char.isDigit
    let width := digitsValue digits
    match rest.drop digits.length with
    | [] => '%' :: cs
    | ':' :: 'z' :: rest => "+00:00".toList ++ format moment fuel rest
    | letter :: rest =>
      let raise (text : Text) : Text := if flags.contains '^' then text.map Char.toUpper else text
      match moment.part? letter, moment.words? letter, longer? letter with
      | some (fill, natural, n), _, _ =>
        let fill := ((flags.filter fun c => "-_0".toList.contains c).getLast?).getD fill
        let width := if digits.isEmpty then natural else width
        let shown := match fill with
          | '0' => zeroed width n
          | '_' => padLeft width (toString n).toList
          | _ => if digits.isEmpty then (toString n).toList else zeroed width n
        shown ++ format moment fuel rest
      | none, some words, _ =>
        let words := if letter = 'N' ∧ ¬ digits.isEmpty then words.take width
          else padLeft width (raise words)
        words ++ format moment fuel rest
      | none, none, some longer =>
        padLeft width (raise (format moment fuel longer.toList)) ++ format moment fuel rest
      | none, none, none => '%' :: cs.take (cs.length - rest.length) ++ format moment fuel rest
  | fuel + 1, c :: cs => c :: format moment fuel cs

/-- A moment written by a format. -/
def write (moment : Moment) (format : Text) : Text :=
  moment.format (format.length + 32) format

end Moment

end TaskRunner
