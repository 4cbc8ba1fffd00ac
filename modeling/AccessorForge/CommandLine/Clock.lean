/-! The time of day and the date of a moment, given in seconds since the beginning of 1970. -/
namespace AccessorForge.CommandLine

def twoDigits (n : Nat) : String := (if n < 10 then "0" else "") ++ toString n

def timeOfDay (seconds : Nat) : String :=
  let rest := seconds % 86400
  ":".intercalate [twoDigits (rest / 3600), twoDigits (rest / 60 % 60), twoDigits (rest % 60)]

/-- The date of a day, counted in periods of 400 years that begin in March. -/
def dateOfDay (day : Nat) : String :=
  let shifted := day + 719468
  let period := shifted / 146097
  let inPeriod := shifted % 146097
  let year := (inPeriod - inPeriod / 1460 + inPeriod / 36524 - inPeriod / 146096) / 365
  let inYear := inPeriod - (365 * year + year / 4 - year / 100)
  let month := (5 * inYear + 2) / 153
  let dayOfMonth := inYear - (153 * month + 2) / 5 + 1
  let year := year + 400 * period + (if month < 10 then 0 else 1)
  let month := if month < 10 then month + 3 else month - 9
  "-".intercalate [toString year, twoDigits month, twoDigits dayOfMonth]

def dateAndTime (seconds : Nat) : String := dateOfDay (seconds / 86400) ++ " " ++ timeOfDay seconds

end AccessorForge.CommandLine
