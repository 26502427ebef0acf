import Docket.Calendar.Date
/-!
Instants of universal time: whole seconds since 1970 and nanoseconds. A thousand million
nanoseconds or more mark a leap second, which is shown as second 60 of its minute.
-/

namespace Docket.Calendar

structure Instant where
  seconds : Int
  nanos : Nat
  deriving DecidableEq

structure Clock where
  date : Date
  hour : Nat
  minute : Nat
  second : Nat
  deriving DecidableEq

def secondsPerDay : Int := 86400

def lastSecond : Int := 8210266876799

namespace Instant

def isLeapSecond (t : Instant) : Bool := 1000000000 ≤ t.nanos

def clock (t : Instant) : Clock :=
  let day := t.seconds / secondsPerDay
  let rest := (t.seconds % secondsPerDay).toNat
  { date := Date.ofDayNumber day
    hour := rest / 3600
    minute := rest / 60 % 60
    second := rest % 60 + (if t.isLeapSecond then 1 else 0) }

def write (t : Instant) : String :=
  let c := t.clock
  String.ofList (c.date.writeChars ++ ',' :: ' ' :: padded 2 c.hour ++ ':' :: padded 2 c.minute ++
    ':' :: padded 2 c.second)

end Instant

end Docket.Calendar
