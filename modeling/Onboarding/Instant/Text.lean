import Onboarding.Instant.Basic
import Onboarding.Text.Blank

/-! The written form of an instant: date, `T`, time and offset. Reading is lenient about blanks,
the length of numbers and the form of the offset; writing always gives UTC and the fewest of 0,
3, 6 or 9 digits of a fraction that hold the value. -/
namespace Onboarding.Instant

open Text (trimLeft isBlank)

def isDigit (c : Char) : Bool := '0' ≤ c && c ≤ '9'

def decimal (ds : List Char) : Nat := ds.foldl (fun n c => 10 * n + (c.toNat - 48)) 0

/-- The digits in front. -/
def leading (cs : List Char) : List Char := cs.takeWhile isDigit

/-- A number of one to `width` digits. -/
def number? (width : Nat) (cs : List Char) : Option (Nat × List Char) :=
  let ds := leading (cs.take width)
  if ds.isEmpty then none else some (decimal ds, cs.drop ds.length)

/-- A number of one to `width` digits after blanks. -/
def field? (width : Nat) (cs : List Char) : Option (Nat × List Char) := number? width (trimLeft cs)

/-- A year has four digits at most, or a sign and any number of digits. -/
def year? (cs : List Char) : Option (Int × List Char) :=
  match trimLeft cs with
  | '-' :: rest => (number? rest.length rest).map fun (n, rest) => (-(n : Int), rest)
  | '+' :: rest => (number? rest.length rest).map fun (n, rest) => ((n : Int), rest)
  | rest => (number? 4 rest).map fun (n, rest) => ((n : Int), rest)

/-- Passes over blanks and one given character. -/
def past? (c : Char) (cs : List Char) : Option (List Char) :=
  match trimLeft cs with
  | d :: rest => if d = c then some rest else none
  | [] => none

/-- Nanoseconds of a fraction; digits after the ninth are passed over. -/
def fraction? : List Char → Option (Nat × List Char)
  | '.' :: rest =>
    let ds := (leading rest).take 9
    if ds.isEmpty then none
    else some (decimal ds * Nat.pow 10 (9 - ds.length), rest.dropWhile isDigit)
  | cs => some (0, cs)

def twoDigits? : List Char → Option (Nat × List Char)
  | a :: b :: rest => if isDigit a && isDigit b then some (decimal [a, b], rest) else none
  | _ => none

/-- Minutes east of UTC. -/
def offset? (cs : List Char) : Option (Int × List Char) := do
  match cs with
  | u :: t :: c :: rest =>
    if u.toUpper = 'U' ∧ t.toUpper = 'T' ∧ c.toUpper = 'C' then return (0, rest)
  | _ => pure ()
  match cs with
  | 'Z' :: rest => return (0, rest)
  | 'z' :: rest => return (0, rest)
  | sign :: rest =>
    guard (sign = '+' ∨ sign = '-' ∨ sign = '−')
    let (hours, rest) ← twoDigits? rest
    let (minutes, rest) ← twoDigits? (rest.dropWhile fun c => c == ':' || isBlank c)
    guard (minutes < 60 ∧ hours < 24)
    let east : Int := hours * 60 + minutes
    return (if sign = '+' then east else -east, rest)
  | [] => none

def ofChars? (cs : List Char) : Option Instant := do
  let (year, cs) ← year? cs
  let cs ← past? '-' cs
  let (month, cs) ← field? 2 cs
  let cs ← past? '-' cs
  let (day, cs) ← field? 2 cs
  let cs ← match cs with
    | c :: rest => if c = 't' ∨ c = 'T' ∨ c = ' ' then some rest else none
    | [] => none
  let (hour, cs) ← field? 2 cs
  let cs ← past? ':' cs
  let (minute, cs) ← field? 2 cs
  let cs ← past? ':' cs
  let (second, cs) ← field? 2 cs
  let (nano, cs) ← fraction? cs
  let (east, cs) ← offset? (trimLeft cs)
  guard (trimLeft cs).isEmpty
  guard (validDate year month day ∧ hour < 24 ∧ minute < 60 ∧ second ≤ 60)
  let (second, nano) := if second = 60 then (59, nano + 1000000000) else (second, nano)
  let seconds := dayOf year month day * 86400 + ((hour * 60 + minute) * 60 + second : Nat)
    - east * 60
  let utcDay := Int.fdiv seconds 86400
  guard (dayOf firstYear 1 1 ≤ utcDay ∧ utcDay ≤ dayOf lastYear 12 31)
  return ⟨utcDay, (Int.fmod seconds 86400).toNat, nano⟩

def ofText? (s : String) : Option Instant := ofChars? s.toList

/-- A number in `width` digits or more. -/
def padded (width n : Nat) : String :=
  let ds := Nat.toDigits 10 n
  String.ofList (List.replicate (width - ds.length) '0' ++ ds)

/-- Years of four digits stand alone, others carry a sign. -/
def yearText (year : Int) : String :=
  if 0 ≤ year ∧ year ≤ 9999 then padded 4 year.toNat
  else (if year < 0 then "-" else "+") ++ padded 4 year.natAbs

def fractionText (nano : Nat) : String :=
  if nano = 0 then ""
  else if nano % 1000000 = 0 then "." ++ padded 3 (nano / 1000000)
  else if nano % 1000 = 0 then "." ++ padded 6 (nano / 1000)
  else "." ++ padded 9 nano

def text (i : Instant) : String :=
  let (year, month, day) := dateOf i.day
  let second := i.second % 60 + i.nano / 1000000000
  yearText year ++ "-" ++ padded 2 month ++ "-" ++ padded 2 day ++ "T" ++ padded 2 (i.second / 3600)
    ++ ":" ++ padded 2 (i.second / 60 % 60) ++ ":" ++ padded 2 second
    ++ fractionText (i.nano % 1000000000) ++ "Z"

end Onboarding.Instant
