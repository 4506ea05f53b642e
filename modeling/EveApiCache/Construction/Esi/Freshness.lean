import EveApiCache.Construction.Esi.Breaker

/-!
This file models `_parse_max_age` and `_parse_expires` in `app/esi_client.py`.
-/

namespace EveApiCache

namespace Datetime

/-- These are the functions of the `datetime` module on the proleptic calendar. -/
def isLeap (year : Nat) : Bool := year % 4 = 0 && (year % 100 ≠ 0 || year % 400 = 0)

def daysBeforeYear (year : Nat) : Nat :=
  let before := year - 1
  before * 365 + before / 4 - before / 100 + before / 400

/-- These are the days of the earlier months of a year without a leap day. -/
def daysBeforeMonth (year month : Nat) : Nat :=
  ([0, 0, 31, 59, 90, 120, 151, 181, 212, 243, 273, 304, 334].getD month 0) +
    if 2 < month && isLeap year then 1 else 0

/-- This is `toordinal()`. -/
def toOrdinal (time : Datetime) : Nat :=
  daysBeforeYear time.year.val + daysBeforeMonth time.year.val time.month.val + time.day.val

/-- This is `_ord2ymd`. -/
def ofOrdinal (day : Nat) : Nat × Nat × Nat :=
  let rest := day - 1
  let centuries := rest / 146097
  let rest := rest % 146097
  let century := rest / 36524
  let rest := rest % 36524
  let fours := rest / 1461
  let rest := rest % 1461
  let single := rest / 365
  let rest := rest % 365
  let year := centuries * 400 + 1 + century * 100 + fours * 4 + single
  if single = 4 ∨ century = 4 then (year - 1, 12, 31)
  else
    let month := (rest + 50) / 32
    let month := if rest < daysBeforeMonth year month then month - 1 else month
    (year, month, rest - daysBeforeMonth year month + 1)

/-- This number counts the seconds of the calendar up to a time. -/
def seconds (time : Datetime) : Nat :=
  ((time.toOrdinal * 24 + time.hour.val) * 60 + time.minute.val) * 60 + time.second.val

def microseconds (time : Datetime) : Int := time.seconds * 1000000 + time.microsecond.val

/-- The calendar ends with the day 3652059, which is the last one of the year 9999. -/
def endSeconds : Nat := 3652060 * 86400

def ofSeconds (seconds : Nat) (microsecond : Fin 1000000) : Datetime :=
  let (year, month, day) := ofOrdinal (seconds / 86400)
  let rest := seconds % 86400
  { year := Fin.ofNat 10000 year
    month := Fin.ofNat 13 month
    day := Fin.ofNat 32 day
    hour := Fin.ofNat 24 (rest / 3600)
    minute := Fin.ofNat 60 (rest / 60 % 60)
    second := Fin.ofNat 60 (rest % 60)
    microsecond := microsecond }

/-- The sum with `timedelta(seconds=...)` raises `OverflowError` after the last day. -/
def addSeconds (time : Datetime) (seconds : Nat) : Option Datetime :=
  if time.seconds + seconds < endSeconds then
    some (ofSeconds (time.seconds + seconds) time.microsecond)
  else none

example : addSeconds ⟨2023, 12, 31, 23, 59, 59, 5⟩ (86400 * 60) =
    some ⟨2024, 2, 29, 23, 59, 59, 5⟩ := by decide +kernel

end Datetime

/-- A date header names a time in UTC and says whether it has a zone. -/
structure HttpDate where
  time : Datetime
  aware : Bool

/-- This is the group of the first match of `_MAX_AGE_RE`. -/
def searchMaxAge : PyStr → Option PyStr
  | [] => none
  | symbol :: rest =>
      let digits := ((symbol :: rest).drop 8).takeWhile isDecimal
      if ((symbol :: rest).take 8).map lowerAscii = text "max-age=" ∧ digits ≠ [] then some digits
      else searchMaxAge rest

section Dates
variable (parsedate : PyStr → Option HttpDate)

/-- An empty header is skipped, and the exceptions of `parsedate_to_datetime` are caught. -/
def expiresDate (headers : PyStr → Option PyStr) : Option HttpDate :=
  match headers (text "expires") with
  | some value => if value = [] then none else parsedate value
  | none => none

/-- The difference of two times with a zone is cut to whole seconds and is not negative. -/
def secondsUntil (now : Datetime) (date : HttpDate) : Option Nat :=
  if date.aware then
    some (((date.time.microseconds - now.microseconds).tdiv 1000000).toNat)
  else none

/-- This is `_parse_max_age`, and an exception gives nothing. -/
def parseMaxAge (now : Datetime) (headers : PyStr → Option PyStr) : Option (Option Nat) :=
  match searchMaxAge ((headers (text "cache-control")).getD []) with
  | some digits => (intOfText digits).map fun seconds => some seconds.toNat
  | none => some ((expiresDate parsedate headers).bind (secondsUntil now))

/-- This is `_parse_expires`, and an exception gives nothing. -/
def parseExpires (now : Datetime) (headers : PyStr → Option PyStr) : Option (Option Datetime) :=
  match expiresDate parsedate headers with
  | some date => some (some date.time)
  | none =>
      match parseMaxAge parsedate now headers with
      | none => none
      | some none => some none
      | some (some seconds) => (now.addSeconds seconds).map some

/-- The freshness of a response is read when it arrives. -/
def RawResponse.received (now : Datetime) (response : RawResponse) : Option HttpResponse :=
  match parseMaxAge parsedate now response.headers, parseExpires parsedate now response.headers with
  | some maxAge, some expiresAt =>
      some ⟨response.status, response.content, response.headers, maxAge, expiresAt⟩
  | _, _ => none

end Dates

/-- The freshness of a further page is not read. -/
def RawResponse.page (response : RawResponse) : HttpResponse :=
  ⟨response.status, response.content, response.headers, none, none⟩

end EveApiCache
