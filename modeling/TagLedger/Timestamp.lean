/-!
# Timestamps

A time is told in milliseconds since the beginning of 1970 and written as date and time of day in
universal time, to the millisecond.
-/

namespace TagLedger

structure Date where
  year : Nat
  month : Nat
  day : Nat
  deriving DecidableEq, Repr

/-- The date that lies `days` after the first day of 1970.  Years are counted from March, so that a
leap day ends its year. -/
def Date.ofDays (days : Nat) : Date :=
  let days := days + 719468
  let era := days / 146097
  let dayOfEra := days % 146097
  let yearOfEra := (dayOfEra - dayOfEra / 1460 + dayOfEra / 36524 - dayOfEra / 146096) / 365
  let dayOfYear := dayOfEra - (365 * yearOfEra + yearOfEra / 4 - yearOfEra / 100)
  let month := (5 * dayOfYear + 2) / 153
  let year := yearOfEra + era * 400
  { year := if month < 10 then year else year + 1
    month := if month < 10 then month + 3 else month - 9
    day := dayOfYear - (153 * month + 2) / 5 + 1 }

def paddedNumber (width value : Nat) : String :=
  let digits := Nat.toDigits 10 value
  String.ofList (List.replicate (width - digits.length) '0' ++ digits)

def Date.text (date : Date) : String :=
  paddedNumber 4 date.year ++ "-" ++ paddedNumber 2 date.month ++ "-" ++ paddedNumber 2 date.day

def timestamp (milliseconds : Nat) : String :=
  let seconds := milliseconds / 1000
  (Date.ofDays (seconds / 86400)).text ++ "T" ++
    paddedNumber 2 (seconds / 3600 % 24) ++ ":" ++
    paddedNumber 2 (seconds / 60 % 60) ++ ":" ++
    paddedNumber 2 (seconds % 60) ++ "." ++
    paddedNumber 3 (milliseconds % 1000) ++ "Z"

end TagLedger
