import Stencil.Calendar
import Stencil.Number.Decimal
import Stencil.TimeZone.Names

/-! Time zones: what a clock shows at a moment of universal time. -/
namespace Stencil

/-- A time that clocks keep: its short name and the seconds by which it is ahead of universal
time. -/
structure Clock where
  name : String
  ahead : Int
  deriving DecidableEq, Repr

/-- A day of every year, the `week`th given weekday of a month, and seconds since its midnight. In
the fifth week it is the last such day. -/
structure YearlyMoment where
  month : Nat
  week : Nat
  weekday : Nat
  second : Int
  deriving DecidableEq, Repr

/-- A summer time with its start and its end. -/
structure Summer where
  clock : Clock
  start : YearlyMoment
  stop : YearlyMoment
  deriving DecidableEq, Repr

structure TimeZone where
  standard : Clock
  summer : Option Summer := none
  deriving DecidableEq, Repr

namespace YearlyMoment

open Calendar

/-- Seconds since the start of 1970, by the clock of the place. -/
def inYear (m : YearlyMoment) (year : Int) : Int :=
  let first := dayOf year m.month 1
  let offset := (m.weekday + 7 - Calendar.weekday first) % 7
  let day := offset + 7 * (m.week - 1)
  let day := if day < monthLength year m.month then day else day - 7
  (first + day) * 86400 + m.second

end YearlyMoment

namespace TimeZone

open Text

/-! ## Reading a rule -/

/-- A short name: letters, or anything between angle brackets. -/
def name? : List Char → Option (String × List Char)
  | '<' :: cs => (cutAt '>' cs).map fun (name, rest) => (String.ofList name, rest)
  | cs =>
    match cs.takeWhile Char.isAlpha with
    | [] => none
    | name => some (String.ofList name, cs.dropWhile Char.isAlpha)

/-- Hours with a sign, and minutes after a colon, in seconds. -/
def seconds? (cs : List Char) : Option (Int × List Char) :=
  let (negative, cs) := Decimal.takeSign cs
  match Decimal.spanDigits cs with
  | ([], _) => none
  | (hours, rest) =>
    let (minutes, rest) := match rest with
      | ':' :: rest => Decimal.spanDigits rest
      | rest => ([], rest)
    let n : Int := Decimal.natOf hours * 3600 + Decimal.natOf minutes * 60
    some (if negative then -n else n, rest)

def number? (mark : Char) : List Char → Option (Nat × List Char)
  | c :: cs => if c = mark then let (ds, rest) := Decimal.spanDigits cs; some (Decimal.natOf ds, rest)
    else none
  | [] => none

/-- A yearly moment after a comma; clocks change at two unless it says otherwise. -/
def moment? (cs : List Char) : Option (YearlyMoment × List Char) := do
  let (month, cs) ← number? 'M' (← dropLead? [','] cs)
  let (week, cs) ← number? '.' cs
  let (weekday, cs) ← number? '.' cs
  let (second, cs) := match cs with
    | '/' :: cs => (seconds? cs).getD (7200, cs)
    | cs => (7200, cs)
  return (⟨month, week, weekday, second⟩, cs)

/-- Offsets are written as what is added to a clock to get universal time. Summer time is ahead by
one more hour unless it says otherwise. -/
def ofRule? (cs : List Char) : Option TimeZone := do
  let (name, cs) ← name? cs
  let (behind, cs) ← seconds? cs
  let standard : Clock := ⟨name, -behind⟩
  if cs.isEmpty then return { standard }
  else
    let (name, cs) ← name? cs
    let (behind, cs) := (seconds? cs).getD (behind - 3600, cs)
    let (start, cs) ← moment? cs
    let (stop, _) ← moment? cs
    return { standard, summer := some ⟨⟨name, -behind⟩, start, stop⟩ }

/-- The zone of a name. -/
def find? (name : String) : Option TimeZone :=
  (names.find? fun (_, zones) => (splitOnChar ' ' [] zones.toList).contains name.toList).bind
    fun (rule, _) => ofRule? rule.toList

/-! ## Clocks -/

/-- When summer time started and ended in a year: the rules of North America and of Europe have
changed. -/
def Summer.inYear (s : Summer) (year : Int) : YearlyMoment × YearlyMoment :=
  if s.start = ⟨3, 2, 0, 7200⟩ ∧ year < 2007 then
    ({ s.start with month := 4, week := if year < 1987 then 5 else 1 },
      { s.stop with month := 10, week := 5 })
  else if s.start.month = 3 ∧ s.start.week = 5 ∧ s.stop.month = 10 ∧ s.stop.week = 5 ∧ year < 1996 then
    (s.start, { s.stop with month := 9 })
  else (s.start, s.stop)

/-- The clock that a zone follows at a moment of universal time. -/
def clockAt (z : TimeZone) (seconds : Int) : Clock :=
  match z.summer with
  | none => z.standard
  | some s =>
    let year := (Calendar.dateOf ((seconds + z.standard.ahead) / 86400)).1
    let (first, last) := Summer.inYear s year
    let start := first.inYear year - z.standard.ahead
    let stop := last.inYear year - s.clock.ahead
    let isSummer : Bool :=
      if start < stop then start ≤ seconds && seconds < stop
      else !(stop ≤ seconds && seconds < start)
    if isSummer then s.clock else z.standard

end TimeZone
end Stencil
