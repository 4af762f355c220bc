/-
Dates and times of day.

A moment is a date, a time of day, or both, and with both it may say how far
its clock is from universal time. Its text has the date first, then a `T`, the
time with as many digits of a second as it needs, and the zone.
-/
import LeveredBasket.Decimal

set_option autoImplicit false

namespace LeveredBasket.Toml

/-- A day of the calendar. -/
structure Date where
  year : Nat
  month : Nat
  day : Nat
deriving DecidableEq

/-- A time of day. A minute may have a sixty-first second. -/
structure Clock where
  hour : Nat
  minute : Nat
  second : Nat
  nanosecond : Nat
deriving DecidableEq

/-- How far a clock is from universal time. -/
inductive Zone where
  | universal
  | ahead (minutes : Int)
deriving DecidableEq

/-- **A date, a time of day, or both.** -/
inductive Moment where
  | date (date : Date)
  | clock (clock : Clock)
  | both (date : Date) (clock : Clock) (zone : Option Zone)
deriving DecidableEq

/-! ## Text -/

/-- The digits of a number, with zeros in front up to `width`. -/
def padded (width n : Nat) : String := String.ofList (paddedDigits 10 width n)

def Date.text (d : Date) : String :=
  padded 4 d.year ++ "-" ++ padded 2 d.month ++ "-" ++ padded 2 d.day

/-- The part of a second that a clock shows, without zeros at the end. -/
def Clock.fractionText (c : Clock) : String :=
  let kept := ((paddedDigits 10 9 c.nanosecond).reverse.dropWhile (· = '0')).reverse
  if kept = [] then "" else String.ofList ('.' :: kept)

def Clock.text (c : Clock) : String :=
  padded 2 c.hour ++ ":" ++ padded 2 c.minute ++ ":" ++ padded 2 c.second ++ c.fractionText

def Zone.text : Zone → String
  | universal => "Z"
  | ahead minutes =>
    (if minutes < 0 then "-" else "+") ++ padded 2 (minutes.natAbs / 60) ++ ":" ++
      padded 2 (minutes.natAbs % 60)

def Moment.text : Moment → String
  | date d => d.text
  | clock c => c.text
  | both d c zone => d.text ++ "T" ++ c.text ++ (zone.map Zone.text).getD ""

/-! ## Reading -/

/-- How many days a month has. -/
def daysIn (year month : Nat) : Nat :=
  if month = 2 then
    if year % 4 = 0 ∧ (year % 100 ≠ 0 ∨ year % 400 = 0) then 29 else 28
  else if month = 4 ∨ month = 6 ∨ month = 9 ∨ month = 11 then 30
  else 31

/-- A number of exactly `width` digits between two bounds, and the rest. -/
def bounded? (width lowest highest : Nat) (text : List Char) : Option (Nat × List Char) :=
  let digits := text.take width
  let n := Nat.ofDigitChars 10 digits 0
  if digits.length = width ∧ digits.all Char.isDigit ∧ lowest ≤ n ∧ n ≤ highest then
    some (n, text.drop width)
  else none

/-- What follows the given character. -/
def after? (mark : Char) : List Char → Option (List Char)
  | c :: rest => if c = mark then some rest else none
  | [] => none

/-- A date, and the rest. -/
def date? (text : List Char) : Option (Date × List Char) := do
  let (year, rest) ← bounded? 4 0 9999 text
  let (month, rest) ← bounded? 2 1 12 (← after? '-' rest)
  let (day, rest) ← bounded? 2 1 (daysIn year month) (← after? '-' rest)
  pure (⟨year, month, day⟩, rest)

/-- The nanoseconds after the point, if there is one, and the rest. What is below a nanosecond is
dropped. -/
def nanoseconds? : List Char → Option (Nat × List Char)
  | '.' :: rest =>
    match rest.takeWhile Char.isDigit with
    | [] => none
    | digits =>
      -- nine digits make nanoseconds; fewer of them are filled up
      let kept := digits.take 9
      let n := Nat.ofDigitChars 10 (kept ++ List.replicate (9 - kept.length) '0') 0
      some (n, rest.dropWhile Char.isDigit)
  | rest => some (0, rest)

/-- A time of day, and the rest. -/
def clock? (text : List Char) : Option (Clock × List Char) := do
  let (hour, rest) ← bounded? 2 0 23 text
  let (minute, rest) ← bounded? 2 0 59 (← after? ':' rest)
  let (second, rest) ← bounded? 2 0 60 (← after? ':' rest)
  let (nanosecond, rest) ← nanoseconds? rest
  pure (⟨hour, minute, second, nanosecond⟩, rest)

/-- Hours and minutes from universal time, less than a day, and nothing else. -/
def distance? (text : List Char) : Option Nat := do
  let (hours, rest) ← bounded? 2 0 23 text
  let (minutes, rest) ← bounded? 2 0 59 (← after? ':' rest)
  if rest = [] then some (60 * hours + minutes) else none

/-- The zone that a whole text is. -/
def zone? : List Char → Option Zone
  | ['Z'] | ['z'] => some .universal
  | '+' :: rest => (distance? rest).map fun minutes => .ahead minutes
  | '-' :: rest => (distance? rest).map fun minutes => .ahead (-(minutes : Int))
  | _ => none

/-- The moment that a whole text is. Between date and time there is a `T` or a blank. -/
def moment? (text : List Char) : Option Moment :=
  match date? text with
  | some (d, []) => some (.date d)
  | some (d, mark :: rest) =>
    if mark = 'T' ∨ mark = 't' ∨ mark = ' ' then do
      let (c, rest) ← clock? rest
      if rest = [] then pure (.both d c none)
      else pure (.both d c (some (← zone? rest)))
    else none
  | none =>
    match clock? text with
    | some (c, []) => some (.clock c)
    | _ => none

end LeveredBasket.Toml
