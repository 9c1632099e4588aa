import Syllabary.Toml.Lexical

/-!
# Dates and times

A date, a time of day, or both, then perhaps with an offset from universal time. The written form is
unique: a capital T between date and time, no trailing zeros in a fraction, Z or a signed offset.
-/

namespace Syllabary.Toml

open Syllabary.Toml.Parser

/-- A day of the calendar. -/
structure Date where
  year : Nat
  month : Nat
  day : Nat
deriving DecidableEq

/-- A time of day. -/
structure Time where
  hour : Nat
  minute : Nat
  second : Nat
  nanosecond : Nat
deriving DecidableEq

/-- The distance from universal time. -/
inductive Offset where
  /-- Universal time itself. -/
  | zulu
  /-- So many minutes before it. -/
  | minutes (n : Int)
deriving DecidableEq

/-- A date, a time of day or both. -/
inductive DateTime where
  | date (date : Date)
  | time (time : Time)
  | both (date : Date) (time : Time) (offset? : Option Offset)
deriving DecidableEq

/-- Whether February has 29 days. -/
def isLeapYear (year : Nat) : Bool := year % 4 = 0 && (year % 100 != 0 || year % 400 = 0)

/-- The number of days of a month. -/
def daysIn (year month : Nat) : Nat :=
  match month with
  | 2 => if isLeapYear year then 29 else 28
  | 4 | 6 | 9 | 11 => 30
  | _ => 31

/-- A number of exactly `count` digits between two bounds. -/
def boundedDigits (count low high : Nat) : Parser Nat := do
  let n ← fixedDigits 10 count
  guard (low ≤ n ∧ n ≤ high)
  return n

/-- A date. -/
def date : Parser Date := do
  let year ← fixedDigits 10 4
  char '-'
  let month ← boundedDigits 2 1 12
  char '-'
  let day ← boundedDigits 2 1 (daysIn year month)
  return ⟨year, month, day⟩

/-- The part of a second, of which nine digits count. -/
def secondFraction : Parser Nat := do
  char '.'
  let ds ← takeWhile1 Char.isDigit
  let counted := ds.take 9
  let n := counted.foldl (fun n c => n * 10 + (digitValue? c).getD 0) 0
  return n * Nat.pow 10 (9 - counted.length)

/-- A time of day. A minute may have a leap second. -/
def time : Parser Time := do
  let hour ← boundedDigits 2 0 23
  char ':'
  let minute ← boundedDigits 2 0 59
  char ':'
  let second ← boundedDigits 2 0 60
  let nanosecond ← secondFraction <|> pure 0
  return ⟨hour, minute, second, nanosecond⟩

/-- An offset from universal time. -/
def offset : Parser Offset :=
  ((char 'Z' <|> char 'z') *> pure .zulu) <|> do
    let negative ← (char '-' *> pure true) <|> (char '+' *> pure false)
    let hours ← boundedDigits 2 0 23
    char ':'
    let minutes ← boundedDigits 2 0 59
    let total : Int := hours * 60 + minutes
    return .minutes (if negative then -total else total)

/-- What follows a date: a letter T or a space, a time and perhaps an offset. -/
def timeOfDate : Parser (Time × Option Offset) := do
  char 'T' <|> char 't' <|> char ' '
  let ofDay ← time
  return (ofDay, ← optional offset)

/-- A date, a time of day or both. -/
def dateTime : Parser DateTime :=
  (do
    let day ← date
    match ← optional timeOfDate with
    | none => return .date day
    | some (ofDay, offset?) => return .both day ofDay offset?) <|>
  .time <$> time

/-- The decimal digits of a number, filled up with zeros to a width. -/
def padded (width n : Nat) : Text :=
  let ds := Nat.toDigits 10 n
  List.replicate (width - ds.length) '0' ++ ds

/-- The text without the zeros at its end. -/
def trimZeros (t : Text) : Text := (t.reverse.dropWhile (· == '0')).reverse

/-- The written form of a date. -/
def Date.render (d : Date) : Text :=
  padded 4 d.year ++ ['-'] ++ padded 2 d.month ++ ['-'] ++ padded 2 d.day

/-- The written form of a time of day. -/
def Time.render (t : Time) : Text :=
  padded 2 t.hour ++ [':'] ++ padded 2 t.minute ++ [':'] ++ padded 2 t.second ++
    if t.nanosecond = 0 then [] else '.' :: trimZeros (padded 9 t.nanosecond)

/-- The written form of an offset. -/
def Offset.render : Offset → Text
  | .zulu => ['Z']
  | .minutes n =>
    (if n < 0 then '-' else '+') :: padded 2 (n.natAbs / 60) ++ [':'] ++ padded 2 (n.natAbs % 60)

/-- The written form of a date, a time or both. -/
def DateTime.render : DateTime → Text
  | .date d => d.render
  | .time t => t.render
  | .both d t offset? => d.render ++ ['T'] ++ t.render ++ (offset?.map Offset.render).getD []

end Syllabary.Toml
