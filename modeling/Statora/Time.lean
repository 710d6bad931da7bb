import Statora.Domain

/-!
# Instants in text

`time.Parse` with the layouts `time.RFC3339` and `2006-01-02`. The first also takes
hours of one digit, a fraction after a comma, and zone offsets of 24 hours or 60
minutes.
-/

namespace Statora

def decimalDigit (c : Char) : Option ℕ :=
  if '0' ≤ c && c ≤ '9' then some (c.toNat - '0'.toNat) else none

def getnum (fixed : Bool) : List Char → Option (ℕ × List Char)
  | c₁ :: c₂ :: cs =>
    match decimalDigit c₁, decimalDigit c₂ with
    | some digit₁, some digit₂ => some (10 * digit₁ + digit₂, cs)
    | some digit₁, none => if fixed then none else some (digit₁, c₂ :: cs)
    | none, _ => none
  | [c] => if fixed then none else (decimalDigit c).map (·, [])
  | [] => none

def skip (literal : Char) : List Char → Option (List Char)
  | [] => none
  | c :: cs => if c = literal then some cs else none

def parseLongYear (cs : List Char) : Option (ℕ × List Char) :=
  if (cs.take 4).length < 4 then none
  else ((cs.take 4).mapM decimalDigit).map fun digits =>
    (digits.foldl (fun value digit => 10 * value + digit) 0, cs.drop 4)

/-- A fraction of a second in nanoseconds; the digits after the ninth are dropped. -/
def parseFraction : List Char → ℕ × List Char
  | [] => (0, [])
  | point :: cs =>
    let digits := (cs.takeWhile fun c => (decimalDigit c).isSome).filterMap decimalDigit
    if (point = '.' || point = ',') && digits ≠ [] then
      let kept := digits.take 9
      (kept.foldl (fun value digit => 10 * value + digit) 0 * 10 ^ (9 - kept.length),
        cs.drop digits.length)
    else (0, point :: cs)

def parseZone : List Char → Option (ℤ × List Char)
  | 'Z' :: cs => some (0, cs)
  | sign :: h₁ :: h₂ :: ':' :: m₁ :: m₂ :: cs => do
    let (hours, _) ← getnum true [h₁, h₂]
    let (minutes, _) ← getnum true [m₁, m₂]
    if hours > 24 || minutes > 60 then none
    else
      let offset : ℤ := (hours * 60 + minutes) * 60
      if sign = '+' then some (offset, cs)
      else if sign = '-' then some (-offset, cs)
      else none
  | _ => none

def isLeap (year : ℤ) : Bool := year % 4 = 0 && (year % 100 ≠ 0 || year % 400 = 0)

def daysIn (month : ℕ) (year : ℤ) : ℕ :=
  if month = 2 then if isLeap year then 29 else 28
  else if month ∈ [4, 6, 9, 11] then 30 else 31

/-- The number of a day in the Gregorian calendar; the epoch is day 719162 of year 1. -/
def daysSinceEpoch (year : ℤ) (month day : ℕ) : ℤ :=
  let years := year - 1
  let before := ((List.range (month - 1)).map fun k => daysIn (k + 1) year).sum
  365 * years + years / 4 - years / 100 + years / 400 + before + (day - 1) - 719162

def parseRFC3339 (value : String) : Option ℤ := do
  let (year, cs) ← parseLongYear value.toList
  let (month, cs) ← getnum true (← skip '-' cs)
  let (dayOfMonth, cs) ← getnum true (← skip '-' cs)
  let (hours, cs) ← getnum false (← skip 'T' cs)
  let (minutes, cs) ← getnum true (← skip ':' cs)
  let (seconds, cs) ← getnum true (← skip ':' cs)
  let (nanoseconds, cs) := parseFraction cs
  let (offset, cs) ← parseZone cs
  if month = 0 || month > 12 || dayOfMonth = 0 || dayOfMonth > daysIn month year ||
      hours > 23 || minutes > 59 || seconds > 59 || cs ≠ [] then none
  else
    some (daysSinceEpoch year month dayOfMonth * day + hours * hour + minutes * minute +
      (seconds - offset) * second + nanoseconds)

def parseDateOnly (value : String) : Option ℤ := do
  let (year, cs) ← parseLongYear value.toList
  let (month, cs) ← getnum true (← skip '-' cs)
  let (dayOfMonth, cs) ← getnum true (← skip '-' cs)
  if month = 0 || month > 12 || dayOfMonth = 0 || dayOfMonth > daysIn month year || cs ≠ [] then
    none
  else some (daysSinceEpoch year month dayOfMonth * day)

example : parseRFC3339 "2024-02-29T23:30:15.25-01:30" = some (1709254815250 * 1000000) := by
  decide +kernel

example : parseRFC3339 "2023-02-29T00:00:00Z" = none := by decide +kernel

end Statora
