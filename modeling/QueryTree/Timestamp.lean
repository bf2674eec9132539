import QueryTree.Unicode.Blank

/-!
# Points in time

A timestamp is a day, a second of that day and a part of the second in nanoseconds, in universal
time. A leap second is the last second of a day that goes on for another thousand million
nanoseconds. Timestamps are written by the profile of ISO 8601 in RFC 3339, with the fewest of
0, 3, 6 or 9 places that lose nothing. Where they are read, blanks may stand before each number and
around the separators, numbers may have fewer digits than they are written with, and a space may
separate date and time.
-/
namespace QueryTree

structure Date where
  year : Int
  month : Nat
  day : Nat
  deriving DecidableEq

namespace Date

def isLeapYear (year : Int) : Bool := year % 4 == 0 && (year % 100 != 0 || year % 400 == 0)

def monthLength (year : Int) (month : Nat) : Nat :=
  if month = 2 then (if isLeapYear year then 29 else 28)
  else if month = 4 ∨ month = 6 ∨ month = 9 ∨ month = 11 then 30
  else 31

def isValid (d : Date) : Bool :=
  -262143 ≤ d.year && d.year ≤ 262142 && 1 ≤ d.month && d.month ≤ 12 && 1 ≤ d.day &&
    d.day ≤ monthLength d.year d.month

/-- The number of days from 1 March of the year 0. Years are counted from March, so that the leap
day is the last day of a year. -/
def toDays (d : Date) : Int :=
  let year := if d.month ≤ 2 then d.year - 1 else d.year
  let month : Nat := (d.month + 9) % 12
  365 * year + year / 4 - year / 100 + year / 400 + ((153 * month + 2) / 5 : Nat) + d.day - 1

/-- The day that lies a number of days after 1 March of the year 0. -/
def ofDays (n : Int) : Date :=
  let era := n / 146097
  let dayOfEra := (n % 146097).toNat
  let yearOfEra := (dayOfEra - dayOfEra / 1460 + dayOfEra / 36524 - dayOfEra / 146096) / 365
  let dayOfYear := dayOfEra - (365 * yearOfEra + yearOfEra / 4 - yearOfEra / 100)
  let month := (5 * dayOfYear + 2) / 153
  let day := dayOfYear - (153 * month + 2) / 5 + 1
  let civilMonth := if month < 10 then month + 3 else month - 9
  ⟨yearOfEra + era * 400 + (if civilMonth ≤ 2 then 1 else 0), civilMonth, day⟩

end Date

structure Timestamp where
  /-- Days from 1 March of the year 0. -/
  days : Int
  second : Fin 86400
  nanosecond : Fin 2000000000
  deriving DecidableEq

namespace Timestamp

/-- A number with zeros in front up to a width. -/
def padded (width n : Nat) : List Char :=
  let ds := Nat.toDigits 10 n
  List.replicate (width - ds.length) '0' ++ ds

/-- Four digits; a year with more, or before the year 0, has a sign. -/
def yearText (year : Int) : List Char :=
  if 0 ≤ year ∧ year ≤ 9999 then padded 4 year.natAbs
  else (if year < 0 then '-' else '+') :: padded (if year < 0 then 4 else 5) year.natAbs

def fractionText (nanosecond : Nat) : List Char :=
  if nanosecond = 0 then []
  else if nanosecond % 1000000 = 0 then '.' :: padded 3 (nanosecond / 1000000)
  else if nanosecond % 1000 = 0 then '.' :: padded 6 (nanosecond / 1000)
  else '.' :: padded 9 nanosecond

/-- The text with a given mark for the offset from universal time. -/
def textWith (mark : String) (t : Timestamp) : String :=
  let date := Date.ofDays t.days
  let leap := t.nanosecond.val / 1000000000
  String.ofList (yearText date.year ++ '-' :: padded 2 date.month ++ '-' :: padded 2 date.day ++
    'T' :: padded 2 (t.second.val / 3600) ++ ':' :: padded 2 (t.second.val / 60 % 60) ++
    ':' :: padded 2 (t.second.val % 60 + leap) ++
    fractionText (t.nanosecond.val % 1000000000) ++ mark.toList)

def skipBlanks (cs : List Char) : List Char := cs.dropWhile Unicode.isBlank

/-- A number of at least one digit and at most `width`. -/
def digits? (width : Nat) (cs : List Char) : Option (Nat × List Char) :=
  match (cs.take width).takeWhile Char.isDigit with
  | [] => none
  | ds => some (ds.foldl (fun n c => n * 10 + (c.toNat - '0'.toNat)) 0, cs.drop ds.length)

def number? (width : Nat) (cs : List Char) : Option (Nat × List Char) :=
  digits? width (skipBlanks cs)

/-- A year: up to four digits, or any number of digits after a sign. -/
def year? (cs : List Char) : Option (Int × List Char) :=
  match skipBlanks cs with
  | '-' :: rest => (digits? rest.length rest).map fun (n, rest) => (-(n : Int), rest)
  | '+' :: rest => (digits? rest.length rest).map fun (n, rest) => ((n : Int), rest)
  | cs => (digits? 4 cs).map fun (n, rest) => ((n : Int), rest)

def literal? (c : Char) (cs : List Char) : Option (List Char) :=
  match skipBlanks cs with
  | c' :: rest => if c' = c then some rest else none
  | [] => none

/-- The fraction of a second in nanoseconds; digits after the ninth are dropped. -/
def fraction? (cs : List Char) : Option (Nat × List Char) :=
  match cs with
  | '.' :: rest =>
    (digits? 9 rest).map fun (n, rest') =>
      (n * Nat.pow 10 (9 - (rest.length - rest'.length)), rest'.dropWhile Char.isDigit)
  | _ => some (0, cs)

def separator? (cs : List Char) : Option (List Char) :=
  match cs with
  | c :: rest => if c = 'T' ∨ c = 't' ∨ c = ' ' then some rest else none
  | [] => none

def offset? (cs : List Char) : Option (Int × List Char) :=
  let signed (sign : Int) (rest : List Char) : Option (Int × List Char) :=
    match rest with
    | h :: h' :: rest =>
      if h.isDigit && h'.isDigit then
        match rest.dropWhile fun c => c == ':' || Unicode.isBlank c with
        | m :: m' :: rest =>
          if m.isDigit && m'.isDigit && m ≤ '5' then
            let value (c : Char) : Int := c.toNat - '0'.toNat
            some (sign * ((value h * 10 + value h') * 3600 + (value m * 10 + value m') * 60), rest)
          else none
        | _ => none
      else none
    | _ => none
  match cs with
  | 'Z' :: rest => some (0, rest)
  | 'z' :: rest => some (0, rest)
  | u :: t :: c :: rest =>
    if u.toUpper = 'U' ∧ t.toUpper = 'T' ∧ c.toUpper = 'C' then some (0, rest)
    else if u = '+' then signed 1 (t :: c :: rest)
    else if u = '-' ∨ u = '−' then signed (-1) (t :: c :: rest)
    else none
  | _ => none

/-- The timestamp of a local date and time; a sixtieth second is a leap second. -/
def ofLocal? (date : Date) (hour minute second nanosecond : Nat) (offset : Int) :
    Option Timestamp := do
  let leap := if second = 60 then 1 else 0
  let total : Int := (hour * 3600 + minute * 60 + (second - leap) : Nat) - offset
  let days := date.toDays + total / 86400
  let secondOfDay := (total % 86400).toNat
  let nanoseconds := nanosecond + leap * 1000000000
  if h : secondOfDay < 86400 ∧ nanoseconds < 2000000000 then
    if date.isValid && hour < 24 && minute < 60 && second ≤ 60 && offset.natAbs < 86400 &&
        (Date.ofDays days).isValid then
      some ⟨days, ⟨secondOfDay, h.1⟩, ⟨nanoseconds, h.2⟩⟩
    else none
  else none

def read? (s : String) : Option Timestamp := do
  let (year, cs) ← year? s.toList
  let cs ← literal? '-' cs
  let (month, cs) ← number? 2 cs
  let cs ← literal? '-' cs
  let (day, cs) ← number? 2 cs
  let cs ← separator? cs
  let (hour, cs) ← number? 2 cs
  let cs ← literal? ':' cs
  let (minute, cs) ← number? 2 cs
  let cs ← literal? ':' cs
  let (second, cs) ← number? 2 cs
  let (nanosecond, cs) ← fraction? cs
  let (offset, cs) ← offset? (skipBlanks cs)
  if (skipBlanks cs).isEmpty then ofLocal? ⟨year, month, day⟩ hour minute second nanosecond offset
  else none

end Timestamp

end QueryTree
