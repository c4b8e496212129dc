/-
Instants of time, counted from the start of 1970 in universal time, and their text in the proleptic Gregorian calendar.
-/
import Pagewright.Json.Writer
import Pagewright.Number.Binary64
import Pagewright.Number.Word

namespace Pagewright

/-- an instant: seconds since the start of 1970, and microseconds -/
structure Instant where
  seconds : Int
  micros : Nat
  deriving DecidableEq, Repr

structure Day where
  year : Int
  month : Int
  day : Int
  deriving DecidableEq, Repr

/-- the day that is some days after 1 January 1970. Years are counted from March, so that the day a leap year adds is
the last of its year; a cycle of 400 years has 146097 days. -/
def Day.ofDays (days : Int) : Day :=
  let z := days + 719468
  let era := z / 146097
  let ofEra := z % 146097
  let yearOfEra := (ofEra - ofEra / 1460 + ofEra / 36524 - ofEra / 146096) / 365
  let ofYear := ofEra - (365 * yearOfEra + yearOfEra / 4 - yearOfEra / 100)
  let shifted := (5 * ofYear + 2) / 153
  let day := ofYear - (153 * shifted + 2) / 5 + 1
  let month := if shifted < 10 then shifted + 3 else shifted - 9
  ⟨yearOfEra + era * 400 + (if month ≤ 2 then 1 else 0), month, day⟩

/-- a number with zeros in front, up to a width -/
def zeroPadded (width : Nat) (n : Int) : String :=
  let s := Json.intText n
  Text.repeated '0' (width - s.length) ++ s

namespace Instant

def dayText (t : Instant) : String :=
  let d := Day.ofDays (t.seconds / 86400)
  zeroPadded 4 d.year ++ "-" ++ zeroPadded 2 d.month ++ "-" ++ zeroPadded 2 d.day

/-- the time of day to the second -/
def clockText (t : Instant) : String :=
  let s := t.seconds % 86400
  zeroPadded 2 (s / 3600) ++ ":" ++ zeroPadded 2 (s / 60 % 60) ++ ":" ++ zeroPadded 2 (s % 60)

/-- day and time; microseconds are shown only when there are any -/
def text (t : Instant) : String :=
  t.dayText ++ "T" ++ t.clockText ++ (if t.micros = 0 then "" else "." ++ zeroPadded 6 t.micros) ++ "Z"

/-- an instant from seconds as a number: what is beyond whole seconds is taken in microseconds, to the nearest, of two
equally near to the even one -/
def ofFinite (negative : Bool) (mantissa : Nat) (exponent : Int) : Instant :=
  let (n, d) := Number.Binary64.ratio mantissa exponent
  let micros := match Number.Binary64.ofRatio false (n % d * 1000000) d with
    | .finite _ m e => let (p, q) := Number.Binary64.ratio m e; Number.roundHalfEven p q
    | _ => 0
  let total : Int := (n / d * 1000000 + micros : Nat)
  let total := if negative then -total else total
  ⟨total / 1000000, (total % 1000000).toNat⟩

/-- why a number of seconds is no instant that a record can have -/
inductive Fault where
  | notANumber
  | beyondClock
  | beyondCount
  | beyondCalendar
  deriving DecidableEq, Repr

def Fault.message : Fault → String
  | .notANumber => "Invalid value NaN (not a number)"
  | .beyondClock => "timestamp out of range for platform time_t"
  | .beyondCount => "[Errno 75] Value too large for defined data type"
  | .beyondCalendar => "year is out of range"

/-- a clock counts seconds in 64 bits with a sign -/
def isOnClock (t : Instant) : Bool := Number.fitsWord t.seconds

/-- years are counted from 1900 in 32 bits with a sign -/
def isCounted (t : Instant) : Bool := -67768040609740800 ≤ t.seconds && t.seconds < 67768036191676800

/-- the calendar has years from 1 to 9999 -/
def hasYear (t : Instant) : Bool :=
  let y := (Day.ofDays (t.seconds / 86400)).year
  1 ≤ y && y ≤ 9999

/-- an instant that a record can have: a day before it there must be a day too -/
def checked (t : Instant) : Except Fault Instant :=
  if !t.isOnClock then .error .beyondClock
  else if !t.isCounted then .error .beyondCount
  else if t.hasYear && hasYear { t with seconds := t.seconds - 86400 } then .ok t
  else .error .beyondCalendar

/-- the instant at a number of seconds -/
def ofSeconds : Number.Binary64 → Except Fault Instant
  | .nan => .error .notANumber
  | .infinite _ => .error .beyondClock
  | .finite negative mantissa exponent => (ofFinite negative mantissa exponent).checked

end Instant

/-- 2024 is a leap year -/
example : (Instant.mk 1709164800 0).text.toList = "2024-02-29T00:00:00Z".toList := by decide +kernel

end Pagewright
