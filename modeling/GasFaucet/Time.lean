/-!
# Times

Times are natural numbers of milliseconds.  Here they are written as seconds and as dates.
-/

namespace GasFaucet.Time

def seconds (ms : Nat) : Float :=
  Float.ofNat ms / 1000

def padded (width n : Nat) : String :=
  let digits := Nat.toDigits 10 n
  String.ofList (List.replicate (width - digits.length) '0' ++ digits)

/--
Year, month and day of a number of days since 1 March of the year 0, counting years from March so
that a leap day is the last day of its year.
-/
def civil (days : Nat) : Nat × Nat × Nat :=
  let era := days / 146097
  let dayOfEra := days % 146097
  let yearOfEra := (dayOfEra - dayOfEra / 1460 + dayOfEra / 36524 - dayOfEra / 146096) / 365
  let dayOfYear := dayOfEra - (365 * yearOfEra + yearOfEra / 4 - yearOfEra / 100)
  let fromMarch := (5 * dayOfYear + 2) / 153
  let day := dayOfYear - (153 * fromMarch + 2) / 5 + 1
  let month := if fromMarch < 10 then fromMarch + 3 else fromMarch - 9
  let year := 400 * era + yearOfEra + (if month ≤ 2 then 1 else 0)
  (year, month, day)

/--
The date and time of a number of milliseconds since the start of 1970, in UTC.  Milliseconds are
written only where they are not zero, and a plus sign where the year has more than four digits.
-/
def timestamp (ms : Nat) : String :=
  let secs := ms / 1000
  let (year, month, day) := civil (secs / 86400 + 719468)
  let fraction := if ms % 1000 = 0 then "" else "." ++ padded 3 (ms % 1000)
  (if 9999 < year then "+" else "") ++ padded 4 year ++ "-" ++ padded 2 month ++ "-" ++ padded 2 day ++ "T" ++
    padded 2 (secs / 3600 % 24) ++ ":" ++ padded 2 (secs / 60 % 60) ++ ":" ++ padded 2 (secs % 60) ++
    fraction ++ "Z"

end GasFaucet.Time
