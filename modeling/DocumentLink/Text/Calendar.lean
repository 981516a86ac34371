/-! Instants as dates and times of day in the Gregorian calendar, at the zero meridian. -/

namespace DocumentLink.Text

structure Date where
  year : Int
  month : Nat
  day : Nat

/-- The date `days` days after 1 January 1970.  Years are counted from March, so that a leap day
ends its year, in spans of 400 years, which all have the same length. -/
def Date.ofDays (days : Int) : Date :=
  let days := days + 719468
  let span := Int.fdiv days 146097
  let inSpan := (Int.fmod days 146097).toNat
  let year := (inSpan - inSpan / 1460 + inSpan / 36524 - inSpan / 146096) / 365
  let inYear := inSpan - (365 * year + year / 4 - year / 100)
  let marchMonth := (5 * inYear + 2) / 153
  let day := inYear - (153 * marchMonth + 2) / 5 + 1
  let month := if marchMonth < 10 then marchMonth + 3 else marchMonth - 9
  { year := 400 * span + year + (if month ≤ 2 then 1 else 0), month, day }

/-- A number with zeros in front up to `width` digits. -/
def padded (width n : Nat) : String :=
  let digits := toString n
  String.ofList (List.replicate (width - digits.length) '0') ++ digits

/-- Years have four digits at least, and a sign outside of 0 to 9999. -/
def Date.text (d : Date) : String :=
  let sign := if d.year < 0 then "-" else if d.year < 10000 then "" else "+"
  sign ++ padded 4 d.year.natAbs ++ "-" ++ padded 2 d.month ++ "-" ++ padded 2 d.day

/-- Digits after a point, without zeros at the end but with one digit at least. -/
def fraction (digits : String) : String :=
  let kept := (digits.toList.reverse.dropWhile (· == '0')).reverse
  if kept.isEmpty then "0" else String.ofList kept

/-- The instant `milliseconds` after the start of 1970. -/
def instant (milliseconds : Int) : String :=
  let day := Int.fdiv milliseconds 86400000
  let time := (Int.fmod milliseconds 86400000).toNat
  (Date.ofDays day).text ++ " " ++ toString (time / 3600000) ++ ":" ++
    padded 2 (time / 60000 % 60) ++ ":" ++ padded 2 (time / 1000 % 60) ++ "." ++
    fraction (padded 3 (time % 1000)) ++ " +00:00:00"

end DocumentLink.Text
