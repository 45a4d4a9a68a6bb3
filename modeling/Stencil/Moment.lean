import Stencil.TimeZone

/-! Moments of time, read and shown. -/
namespace Stencil

/-- How a clock stands to universal time. -/
inductive Offset where
  | universal
  /-- Seconds by which the clock is ahead -/
  | fixed (ahead : Int)
  | zone (clock : Clock)
  deriving DecidableEq, Repr

/-- A moment as a clock shows it. -/
structure Moment where
  /-- Days since the first of January 1970 -/
  day : Int
  /-- Seconds since midnight -/
  second : Nat
  /-- Parts of the second; a leap second is one of more than a thousand million -/
  nano : Nat := 0
  offset : Offset := .universal
  deriving Repr

namespace Offset

def ahead : Offset → Int
  | universal => 0
  | fixed n => n
  | zone clock => clock.ahead

end Offset

namespace Moment

open Calendar

def ofTimestamp (seconds : Int) : Moment :=
  { day := seconds / 86400, second := (seconds % 86400).toNat }

def timestamp (m : Moment) : Int := m.day * 86400 + m.second - m.offset.ahead

/-- The same moment on the clocks of a zone. -/
def inZone (m : Moment) (zone : Option TimeZone) : Moment :=
  match zone with
  | none => m
  | some z =>
    let clock := z.clockAt m.timestamp
    { ofTimestamp (m.timestamp + clock.ahead) with nano := m.nano, offset := .zone clock }

/-! ## Reading

Numbers may have fewer digits than is usual and blanks before them. -/

def digits? (width : Nat) (cs : List Char) : Option (Nat × List Char) :=
  let cs := Text.dropBlank cs
  let ds := (cs.take width).takeWhile Text.asciiDigit
  if ds.isEmpty then none else some (Decimal.natOf ds, cs.drop ds.length)

/-- A year has four digits unless it has a sign. -/
def year? (cs : List Char) : Option (Int × List Char) :=
  match Text.dropBlank cs with
  | '+' :: cs => (signed? cs).map fun (n, rest) => ((n : Int), rest)
  | '-' :: cs => (signed? cs).map fun (n, rest) => (-(n : Int), rest)
  | cs => (digits? 4 cs).map fun (n, rest) => ((n : Int), rest)
where
  signed? (cs : List Char) : Option (Nat × List Char) :=
    let (ds, rest) := Decimal.spanDigits cs
    if ds.isEmpty ∨ 262143 < Decimal.natOf ds then none else some (Decimal.natOf ds, rest)

def skip? (c : Char) (cs : List Char) : Option (List Char) := Text.dropLead? [c] cs

/-- Year, month and day with dashes between them; `loose` if blanks may stand before the dashes. -/
def date? (loose : Bool) (cs : List Char) : Option (Int × List Char) := do
  let blank := fun cs => if loose then Text.dropBlank cs else cs
  let (year, cs) ← year? cs
  let (month, cs) ← digits? 2 (← skip? '-' (blank cs))
  let (day, cs) ← digits? 2 (← skip? '-' (blank cs))
  let found ← day? year month day
  if -262143 ≤ year ∧ year ≤ 262142 then return (found, cs) else none

/-- The parts of a second after a point; digits after the ninth count for nothing. -/
def fraction? (cs : List Char) : Option (Nat × List Char) :=
  match cs with
  | '.' :: cs =>
    let (ds, rest) := Decimal.spanDigits cs
    if ds.isEmpty then none
    else some (Decimal.natOf (ds.take 9 ++ List.replicate (9 - ds.length) '0'), rest)
  | cs => some (0, cs)

/-- Seconds since midnight and parts of a second. -/
def time? (cs : List Char) : Option ((Nat × Nat) × List Char) := do
  let (hour, cs) ← digits? 2 cs
  let (minute, cs) ← digits? 2 (← skip? ':' (Text.dropBlank cs))
  let (second, cs) ← digits? 2 (← skip? ':' (Text.dropBlank cs))
  let (nano, cs) ← fraction? cs
  if 24 ≤ hour ∨ 60 ≤ minute ∨ 60 < second then none
  else if second = 60 then
    return ((hour * 3600 + minute * 60 + 59, 1000000000 + nano), Text.dropBlank cs)
  else return ((hour * 3600 + minute * 60 + second, nano), Text.dropBlank cs)

/-- What a clock is ahead of universal time. -/
def offset? (cs : List Char) : Option (Int × List Char) := do
  if (cs.take 3).map Decimal.lower = ['u', 't', 'c'] then return (0, cs.drop 3)
  match cs with
  | [] => none
  | sign :: cs =>
    if sign = 'Z' ∨ sign = 'z' then return (0, cs)
    else
      let negative ← if sign = '+' then some false
        else if sign = '-' ∨ sign = Char.ofNat 0x2212 then some true
        else none
      let (hour, cs) ← twoDigits? cs
      let (minute, cs) ← twoDigits? (cs.dropWhile fun c => c = ':' || Text.isBlank c)
      if 24 ≤ hour ∨ 60 ≤ minute then none
      else
        let n : Int := hour * 3600 + minute * 60
        return (if negative then -n else n, cs)
where
  twoDigits? (cs : List Char) : Option (Nat × List Char) :=
    let ds := cs.take 2
    if ds.length = 2 ∧ ds.all Text.asciiDigit then some (Decimal.natOf ds, cs.drop 2) else none

/-- A day and a time with what its clock is ahead. -/
def withOffset? (cs : List Char) : Option Moment := do
  let (day, cs) ← date? true cs
  match cs with
  | [] => none
  | c :: cs =>
    if c ≠ 'T' ∧ c ≠ 't' ∧ c ≠ ' ' then none
    else
      let ((second, nano), cs) ← time? cs
      let (ahead, cs) ← offset? cs
      if (Text.dropBlank cs).isEmpty then return ⟨day, second, nano, .fixed ahead⟩ else none

/-- A day and a time of universal time. -/
def universal? (cs : List Char) : Option Moment := do
  let (day, cs) ← date? true cs
  let ((second, nano), cs) ← time? (← skip? 'T' (Text.dropBlank cs))
  if cs.isEmpty then return { day, second, nano } else none

/-- A day, or a day and a time, for which a `T` is needed somewhere. Only a time that says what its
clock is ahead is moved into a zone. -/
def read? (zone : Option TimeZone) (cs : List Char) : Option Moment :=
  if cs.contains 'T' then
    ((withOffset? cs).map (·.inZone zone)).or (universal? cs)
  else
    match date? false cs with
    | some (day, []) => some { day, second := 0 }
    | _ => none

/-! ## Showing -/

/-- What fills a number up to its width. -/
inductive Fill where
  | none
  | zero
  | space
  deriving DecidableEq, Repr

/-- A number with a sign if it is negative or `always`; zeros stand after the sign. -/
def padded (fill : Fill) (width : Nat) (always : Bool) (n : Int) : String :=
  let sign := if n < 0 then "-" else if always then "+" else ""
  let ds := toString n.natAbs
  let missing := width - (sign.length + ds.length)
  match fill with
  | .none => sign ++ ds
  | .zero => sign ++ String.ofList (List.replicate missing '0') ++ ds
  | .space => String.ofList (List.replicate missing ' ') ++ sign ++ ds

/-- Years of other than four digits have a sign. -/
def yearText (fill : Fill) (year : Int) : String :=
  if 0 ≤ year ∧ year ≤ 9999 then padded fill 4 false year else padded fill 5 true year

/-- Two digits of a number below 100; a larger one of eight bits has more than ten tens. -/
def twoDigits (fill : Fill) (n : Int) : String :=
  let n := (n % 256).toNat
  let tens := match fill, n / 10 with
    | .none, 0 => ""
    | .space, 0 => " "
    | _, tens => String.singleton (Char.ofNat (48 + tens))
  tens ++ toString (n % 10)

def two (n : Nat) : String := twoDigits .zero n

/-- How far a text for an offset goes. -/
inductive Detail where
  | hours
  | minutes
  | seconds
  deriving DecidableEq

def offsetText (detail : Detail) (colon : Bool) (ahead : Int) : String :=
  let sign := if ahead < 0 then "-" else "+"
  let n := ahead.natAbs
  let colon := if colon then ":" else ""
  match detail with
  | .hours => sign ++ two (n / 3600)
  | .minutes => let m := (n + 30) / 60; sign ++ two (m / 60) ++ colon ++ two (m % 60)
  | .seconds => sign ++ two (n / 3600) ++ colon ++ two (n / 60 % 60) ++ colon ++ two (n % 60)

/-- The name of a clock, or how far it is ahead. -/
def offsetName : Offset → String
  | .universal => "UTC"
  | .fixed ahead => offsetText (if ahead % 60 = 0 then .minutes else .seconds) true ahead
  | .zone clock => clock.name

def hour (m : Moment) : Nat := m.second / 3600

def minute (m : Moment) : Nat := m.second / 60 % 60

/-- The second within the minute, 60 for a leap second. -/
def secondOfMinute (m : Moment) : Nat := m.second % 60 + m.nano / 1000000000

def halfDayHour (m : Moment) : Nat := if m.hour % 12 = 0 then 12 else m.hour % 12

/-- The parts of a second, as far as there are any in thousands. -/
def fractionText (m : Moment) : String :=
  let n := m.nano % 1000000000
  if n = 0 then ""
  else if n % 1000000 = 0 then "." ++ padded .zero 3 false (n / 1000000)
  else if n % 1000 = 0 then "." ++ padded .zero 6 false (n / 1000)
  else "." ++ padded .zero 9 false n

/-- The number that a letter stands for; `fill` is what the pattern asks for in place of the
letter's own. -/
def numeric? (m : Moment) (fill : Option Fill) (letter : Char) : Option String :=
  let (year, month, day) := dateOf m.day
  let week := weekday m.day
  let zero := fill.getD .zero
  let space := fill.getD .space
  match letter with
  | 'Y' => some (yearText zero year)
  | 'G' => some (yearText zero (isoWeek m.day).1)
  | 'C' => some (twoDigits zero (year / 100))
  | 'y' => some (twoDigits zero (year % 100))
  | 'g' => some (twoDigits zero ((isoWeek m.day).1 % 100))
  | 'q' => some (toString ((month + 2) / 3))
  | 'm' => some (twoDigits zero month)
  | 'd' => some (twoDigits zero day)
  | 'e' => some (twoDigits space day)
  | 'w' => some (toString week)
  | 'u' => some (toString ((week + 6) % 7 + 1))
  | 'U' => some (twoDigits zero ((yearDay m.day + 7 - week) / 7 : Nat))
  | 'W' => some (twoDigits zero ((yearDay m.day + 7 - (week + 6) % 7) / 7 : Nat))
  | 'V' => some (twoDigits zero (isoWeek m.day).2)
  | 'j' => some (padded zero 3 false (yearDay m.day + 1))
  | 'H' => some (twoDigits zero m.hour)
  | 'k' => some (twoDigits space m.hour)
  | 'I' => some (twoDigits zero m.halfDayHour)
  | 'l' => some (twoDigits space m.halfDayHour)
  | 'M' => some (twoDigits zero m.minute)
  | 'S' => some (twoDigits zero m.secondOfMinute)
  | 'f' => some (padded zero 9 false (m.nano % 1000000000 : Nat))
  | 's' => some (padded (fill.getD .none) 9 false m.timestamp)
  | _ => none

/-- The name or sign that a letter stands for. -/
def word? (m : Moment) (letter : Char) : Option String :=
  let month := months[(dateOf m.day).2.1 - 1]?.getD ""
  let name := weekdays[weekday m.day]?.getD ""
  match letter with
  | 'B' => some month
  | 'b' | 'h' => some (String.ofList (month.toList.take 3))
  | 'A' => some name
  | 'a' => some (String.ofList (name.toList.take 3))
  | 'p' => some (if m.hour < 12 then "AM" else "PM")
  | 'P' => some (if m.hour < 12 then "am" else "pm")
  | 'z' => some (offsetText .minutes false m.offset.ahead)
  | 'Z' => some (offsetName m.offset)
  | 'n' => some "\n"
  | 't' => some "\t"
  | '%' => some "%"
  | _ => none

/-- The longer pattern that a letter is short for. -/
def pattern? (letter : Char) : Option String :=
  match letter with
  | 'D' | 'x' => some "%m/%d/%y"
  | 'F' => some "%Y-%m-%d"
  | 'v' => some "%e-%b-%Y"
  | 'R' => some "%H:%M"
  | 'T' | 'X' => some "%H:%M:%S"
  | 'r' => some "%I:%M:%S %p"
  | 'c' => some "%a %b %e %H:%M:%S %Y"
  | '+' => some "%Y-%m-%dT%H:%M:%S%.f%:z"
  | _ => none

/-- The pattern with longer ones in place of the letters that are short for them. -/
def expand : List Char → List Char
  | [] => []
  | '%' :: letter :: cs =>
    match pattern? letter with
    | some p => p.toList ++ expand cs
    | none => '%' :: letter :: expand cs
  | c :: cs => c :: expand cs

def offsetForms : List (String × Detail × Bool) :=
  [(":::z", .hours, false), ("::z", .seconds, true), (":z", .minutes, true)]

/-- Signs after a percent sign that are no single letter: offsets and parts of a second. -/
def special? (m : Moment) (cs : List Char) : Option (String × List Char) :=
  match offsetForms.findSome? fun (form, shape) =>
      (Text.dropLead? form.toList cs).map fun rest => (shape, rest) with
  | some ((detail, colon), rest) => some (offsetText detail colon m.offset.ahead, rest)
  | none =>
    match cs with
    | '.' :: 'f' :: rest => some (m.fractionText, rest)
    | '.' :: c :: 'f' :: rest => (places? c).map fun n => ("." ++ firstPlaces m n, rest)
    | c :: 'f' :: rest => (places? c).map fun n => (firstPlaces m n, rest)
    | _ => none
where
  places? (c : Char) : Option Nat :=
    if c = '3' then some 3 else if c = '6' then some 6 else if c = '9' then some 9 else none
  firstPlaces (m : Moment) (places : Nat) : String :=
    String.ofList ((padded .zero 9 false (m.nano % 1000000000 : Nat)).toList.take places)

def fillOf? (c : Char) : Option Fill :=
  if c = '-' then some .none else if c = '_' then some .space else if c = '0' then some .zero
  else none

/-- A pattern without longer patterns in it. -/
def plain? (m : Moment) : Nat → List Char → Option String
  | 0, _ => none
  | _ + 1, [] => some ""
  | fuel + 1, '%' :: letter :: cs =>
    match special? m (letter :: cs), fillOf? letter, cs with
    | some (text, rest), _, _ => (plain? m fuel rest).map (text ++ ·)
    | none, some fill, letter :: rest => do
      return (← m.numeric? (some fill) letter) ++ (← plain? m fuel rest)
    | none, some _, [] => none
    | none, none, rest => do
      return (← (m.numeric? none letter).or (m.word? letter)) ++ (← plain? m fuel rest)
  | fuel + 1, c :: cs =>
    if c = '%' then none else (plain? m fuel cs).map (String.singleton c ++ ·)

/-- The moment by a pattern; `none` if the pattern has a letter that stands for nothing. -/
def show? (m : Moment) (pattern : List Char) : Option String :=
  let pattern := expand pattern
  m.plain? (pattern.length + 1) pattern

end Moment
end Stencil
