import Jadn.Numeral
import Jadn.Text.Blank

/-!
Dates and times in text.

Full times have fields of fixed width, real calendar days, and an offset from universal time
of less than a day; a minute may have a sixty-first second. Dates alone are written more
freely: blanks may stand before each number, and years may have a sign.
-/

namespace Jadn.Format.Time

def isLeapYear (year : Int) : Bool :=
  year % 4 == 0 && (year % 100 != 0 || year % 400 == 0)

def daysInMonth (year : Int) (month : Nat) : Nat :=
  match month with
  | 2 => if isLeapYear year then 29 else 28
  | 4 | 6 | 9 | 11 => 30
  | _ => 31

def isDate (year : Int) (month day : Nat) : Bool :=
  1 ≤ month && month ≤ 12 && 1 ≤ day && day ≤ daysInMonth year month

/-- A number of exactly so many digits, and what follows it. -/
def digits? (width : Nat) (cs : List Char) : Option (Nat × List Char) :=
  if (cs.take width).length = width then
    (Numeral.natural? (cs.take width)).map fun n => (n, cs.drop width)
  else none

def expect? (isExpected : Char → Bool) : List Char → Option (List Char)
  | c :: cs => if isExpected c then some cs else none
  | [] => none

/-- Digits after a point, if there is one; their number does not matter. -/
def fraction? : List Char → Option (List Char)
  | '.' :: cs =>
    match cs with
    | c :: _ => if Numeral.isDigit c then some (cs.dropWhile Numeral.isDigit) else none
    | [] => none
  | cs => some cs

def isSign (c : Char) : Bool := c == '+' || c == '-' || c == '\u2212'

/-- The offset from universal time, at the end of a text. -/
def isOffset (cs : List Char) : Bool :=
  match cs with
  | ['Z'] | ['z'] => true
  | sign :: cs =>
    isSign sign &&
      (do
        let (hours, cs) ← digits? 2 cs
        let cs ← expect? (· == ':') cs
        let (minutes, cs) ← digits? 2 cs
        some (cs.isEmpty && hours < 24 && minutes < 60)) == some true
  | [] => false

/-- A time of day with an offset. -/
def isTime (cs : List Char) : Bool :=
  (do
    let (hour, cs) ← digits? 2 cs
    let cs ← expect? (· == ':') cs
    let (minute, cs) ← digits? 2 cs
    let cs ← expect? (· == ':') cs
    let (second, cs) ← digits? 2 cs
    let cs ← fraction? cs
    some (hour < 24 && minute < 60 && second ≤ 60 && isOffset cs)) == some true

/-- A date and a time with an offset, separated by a letter or a space. -/
def isDateTime (cs : List Char) : Bool :=
  (do
    let (year, cs) ← digits? 4 cs
    let cs ← expect? (· == '-') cs
    let (month, cs) ← digits? 2 cs
    let cs ← expect? (· == '-') cs
    let (day, cs) ← digits? 2 cs
    let cs ← expect? (fun c => c == 'T' || c == 't' || c == ' ') cs
    some (isDate year month day && isTime cs)) == some true

/-- A number of one digit and up to a bound, if there is one, after blanks. -/
def number? (most? : Option Nat) (cs : List Char) : Option (Nat × List Char) :=
  let run := cs.takeWhile Numeral.isDigit
  let digits := match most? with
    | some most => run.take most
    | none => run
  (Numeral.natural? digits).map fun n => (n, cs.drop digits.length)

def skipBlanks (cs : List Char) : List Char := cs.dropWhile Text.isBlank

/-- A year of up to four digits, or of any number of digits after a sign. -/
def year? (cs : List Char) : Option (Int × List Char) :=
  match skipBlanks cs with
  | '-' :: cs => (number? none cs).map fun (n, cs) => (-(n : Int), cs)
  | '+' :: cs => (number? none cs).map fun (n, cs) => ((n : Int), cs)
  | cs => (number? (some 4) cs).map fun (n, cs) => ((n : Int), cs)

/-- The years that dates may have. -/
def isYear (year : Int) : Bool := -262143 ≤ year && year ≤ 262142

def isCalendarDate (cs : List Char) : Bool :=
  (do
    let (year, cs) ← year? cs
    let cs ← expect? (· == '-') cs
    let (month, cs) ← number? (some 2) (skipBlanks cs)
    let cs ← expect? (· == '-') cs
    let (day, cs) ← number? (some 2) (skipBlanks cs)
    some (cs.isEmpty && isYear year && isDate year month day)) == some true

end Jadn.Format.Time
