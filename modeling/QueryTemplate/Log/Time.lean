import QueryTemplate.Number.Places

/-! The time of log records as text. -/
namespace QueryTemplate

structure Date where
  year : Nat
  month : Nat
  day : Nat
deriving DecidableEq, Repr

/-- The date so many days after the first of January 1970. Years are counted from the first of
March, so that a leap day is the last of its year, in periods of four hundred years. -/
def Date.ofDays (days : Nat) : Date :=
  let fromMarch := days + 719468
  let inPeriod := fromMarch % 146097
  let yearOfPeriod := (inPeriod - inPeriod / 1460 + inPeriod / 36524 - inPeriod / 146096) / 365
  let dayOfYear := inPeriod - (365 * yearOfPeriod + yearOfPeriod / 4 - yearOfPeriod / 100)
  let m := (5 * dayOfYear + 2) / 153
  let month := if m < 10 then m + 3 else m - 9
  let year := yearOfPeriod + fromMarch / 146097 * 400
  ⟨if month ≤ 2 then year + 1 else year, month, dayOfYear - (153 * m + 2) / 5 + 1⟩

/-- Date and time of day at Greenwich, so many seconds and millionths after the first of January
1970. Millionths are left out where there are none. -/
def timeText (seconds millionths : Nat) : Text :=
  let date := Date.ofDays (seconds / 86400)
  let inDay := seconds % 86400
  let two := FloatForm.digitText 2
  FloatForm.digitText 4 date.year ++ '-' :: two date.month ++ '-' :: two date.day ++
    'T' :: two (inDay / 3600) ++ ':' :: two (inDay / 60 % 60) ++ ':' :: two (inDay % 60) ++
    (if millionths = 0 then [] else '.' :: FloatForm.digitText 6 millionths) ++
    "+00:00".toList

end QueryTemplate
