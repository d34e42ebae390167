-- Instants as the calendar and the clock of universal time show them. Fields are kept within their
-- bounds by the types, so whatever is written can be read back.
namespace Chronomata

def isLeapYear (year : Int) : Bool := year % 4 = 0 && (year % 100 ≠ 0 || year % 400 = 0)

def daysInMonth (year : Int) (month : Nat) : Nat :=
  if month = 2 then (if isLeapYear year then 29 else 28)
  else if month = 4 ∨ month = 6 ∨ month = 9 ∨ month = 11 then 30
  else 31

def earliestYear : Int := -262143
def latestYear : Int := 262142

structure Date where
  year : Int
  month : Nat
  day : Nat
  year_bounded : earliestYear ≤ year ∧ year ≤ latestYear
  month_bounded : 1 ≤ month ∧ month ≤ 12
  day_bounded : 1 ≤ day ∧ day ≤ daysInMonth year month
  deriving DecidableEq, Repr

namespace Date

def of? (year : Int) (month day : Nat) : Option Date :=
  if h : (earliestYear ≤ year ∧ year ≤ latestYear) ∧ (1 ≤ month ∧ month ≤ 12)
      ∧ 1 ≤ day ∧ day ≤ daysInMonth year month then
    some ⟨year, month, day, h.1, h.2.1, h.2.2⟩
  else none

def previous? (d : Date) : Option Date :=
  if 1 < d.day then of? d.year d.month (d.day - 1)
  else if 1 < d.month then of? d.year (d.month - 1) (daysInMonth d.year (d.month - 1))
  else of? (d.year - 1) 12 31

def next? (d : Date) : Option Date :=
  if d.day < daysInMonth d.year d.month then of? d.year d.month (d.day + 1)
  else if d.month < 12 then of? d.year (d.month + 1) 1
  else of? (d.year + 1) 1 1

-- The day that is a number of days after the first of January 1970. Years are counted from March
-- on, in cycles of four hundred, so that leap days come last.
def ofDays? (days : Int) : Option Date :=
  let days := days + 719468
  let cycle := days / 146097
  let day := days % 146097
  let year := (day - day / 1460 + day / 36524 - day / 146096) / 365
  let ofYear := day - (365 * year + year / 4 - year / 100)
  let month := (5 * ofYear + 2) / 153
  of? (year + 400 * cycle + (if month < 10 then 0 else 1))
    (if month < 10 then month + 3 else month - 9).toNat
    (ofYear - (153 * month + 2) / 5 + 1).toNat

theorem of?_self (d : Date) : of? d.year d.month d.day = some d := by
  unfold of?
  rw [dif_pos ⟨d.year_bounded, d.month_bounded, d.day_bounded⟩]

end Date

structure Instant where
  date : Date
  hour : Nat
  minute : Nat
  second : Nat
  nanosecond : Nat
  hour_bounded : hour < 24
  minute_bounded : minute < 60
  second_bounded : second ≤ 60
  nanosecond_bounded : nanosecond < 1000000000
  deriving DecidableEq, Repr

namespace Instant

def epoch : Instant where
  date := ⟨1970, 1, 1, by decide, by decide, by decide⟩
  hour := 0
  minute := 0
  second := 0
  nanosecond := 0
  hour_bounded := by decide
  minute_bounded := by decide
  second_bounded := by decide
  nanosecond_bounded := by decide

instance : Inhabited Instant := ⟨epoch⟩

-- The instant at which a clock that runs `offset` minutes ahead of universal time shows a local
-- time. Offsets are shorter than a day, so at most one day is crossed.
def ofLocal? (date : Date) (hour minute second nanosecond : Nat) (offset : Int) :
    Option Instant := do
  let minutes : Int := 60 * hour + minute - offset
  let date ←
    if minutes < 0 then date.previous? else if 1440 ≤ minutes then date.next? else some date
  let ofDay := minutes % 1440
  if h : second ≤ 60 ∧ nanosecond < 1000000000 then
    some {
      date
      hour := (ofDay / 60).toNat
      minute := (ofDay % 60).toNat
      second, nanosecond
      hour_bounded := by omega
      minute_bounded := by omega
      second_bounded := h.1
      nanosecond_bounded := h.2 }
  else none

def ofNanoseconds? (count : Int) : Option Instant := do
  let seconds := count / 1000000000
  let date ← Date.ofDays? (seconds / 86400)
  let ofDay := seconds % 86400
  some {
    date
    hour := (ofDay / 3600).toNat
    minute := (ofDay / 60 % 60).toNat
    second := (ofDay % 60).toNat
    nanosecond := (count % 1000000000).toNat
    hour_bounded := by omega
    minute_bounded := by omega
    second_bounded := by omega
    nanosecond_bounded := by omega }

end Instant

end Chronomata
