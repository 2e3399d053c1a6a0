namespace Checklist.Log

/-- A number with zeros before it up to a width. -/
def padded (width n : Nat) : String :=
  let digits := Nat.toDigits 10 n
  String.ofList (List.replicate (width - digits.length) '0' ++ digits)

/-- The year, month and day that are a count of days after the first of January 1970. Years are
    counted from March here, so that a leap day is the last day of its year, and a cycle of the
    calendar has 146097 days. -/
def civilDate (days : Nat) : Nat × Nat × Nat :=
  let shifted := days + 719468
  let dayOfCycle := shifted % 146097
  let yearOfCycle :=
    (dayOfCycle - dayOfCycle / 1460 + dayOfCycle / 36524 - dayOfCycle / 146096) / 365
  let dayOfYear := dayOfCycle - (365 * yearOfCycle + yearOfCycle / 4 - yearOfCycle / 100)
  let monthFromMarch := (5 * dayOfYear + 2) / 153
  let day := dayOfYear - (153 * monthFromMarch + 2) / 5 + 1
  let month := if monthFromMarch < 10 then monthFromMarch + 3 else monthFromMarch - 9
  let year := yearOfCycle + shifted / 146097 * 400
  (if month ≤ 2 then year + 1 else year, month, day)

/-- The time as log lines show it, in milliseconds after the start of 1970. -/
def stamp (milliseconds : Nat) : String :=
  let seconds := milliseconds / 1000
  let (year, month, day) := civilDate (seconds / 86400)
  s!"{padded 4 year}-{padded 2 month}-{padded 2 day} " ++
    s!"{padded 2 (seconds / 3600 % 24)}:{padded 2 (seconds / 60 % 60)}:{padded 2 (seconds % 60)}." ++
    padded 3 (milliseconds % 1000)

example : stamp 0 = "1970-01-01 00:00:00.000" := by rfl

example : civilDate 11016 = (2000, 2, 29) ∧ civilDate 20453 = (2025, 12, 31) := by decide

end Checklist.Log
