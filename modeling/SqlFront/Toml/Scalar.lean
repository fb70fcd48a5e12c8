import SqlFront.Toml.Value

/-!
# SqlFront.Toml.Scalar

Values that are written as a bare run of characters: booleans, integers, floats, dates and times.
Each sort of value is a test on the whole run.
-/

namespace SqlFront
namespace Toml

/-! ## Digits -/

/-- Digits of the class, at least one, with single underscores between digits only. -/
def isGrouped (digit : Char → Bool) : List Char → Bool
  | [] => false
  | [c] => digit c
  | c :: '_' :: cs => digit c && isGrouped digit cs
  | c :: cs => digit c && isGrouped digit cs

/-- The value of a digit of any base up to sixteen. -/
def digitValue (c : Char) : Nat :=
  if c.isDigit then c.toNat - '0'.toNat
  else if 'a' ≤ c && c ≤ 'f' then c.toNat - 'a'.toNat + 10
  else c.toNat - 'A'.toNat + 10

def isHexDigit (c : Char) : Bool := c.isDigit || ('a' ≤ c && c ≤ 'f') || ('A' ≤ c && c ≤ 'F')

def isOctDigit (c : Char) : Bool := '0' ≤ c && c ≤ '7'

def isBinDigit (c : Char) : Bool := c == '0' || c == '1'

/-- The number that the digits spell; underscores are passed over. -/
def numberOf (base : Nat) (digits : List Char) : Nat :=
  (digits.filter (· != '_')).foldl (fun n c => base * n + digitValue c) 0

/-- Decimal digits without a leading zero. -/
def isDecimal (cs : List Char) : Bool :=
  isGrouped Char.isDigit cs && (cs.head? != some '0' || cs.length == 1)

/-! ## Integers -/

/-- The largest integer. -/
def maxInteger : Nat := Nat.pow 2 63 - 1

/-- An integer of 64 bits: decimal with an optional sign, or in another base without one. -/
def integer? : List Char → Option Int
  | '0' :: 'x' :: cs => unsigned isHexDigit 16 cs
  | '0' :: 'o' :: cs => unsigned isOctDigit 8 cs
  | '0' :: 'b' :: cs => unsigned isBinDigit 2 cs
  | '-' :: cs => decimal cs (maxInteger + 1) fun n => -(n : Int)
  | '+' :: cs => decimal cs maxInteger fun n => (n : Int)
  | cs => decimal cs maxInteger fun n => (n : Int)
where
  unsigned (digit : Char → Bool) (base : Nat) (cs : List Char) : Option Int :=
    if isGrouped digit cs && numberOf base cs ≤ maxInteger then some (numberOf base cs) else none
  decimal (cs : List Char) (limit : Nat) (signed : Nat → Int) : Option Int :=
    if isDecimal cs && numberOf 10 cs ≤ limit then some (signed (numberOf 10 cs)) else none

/-! ## Floats -/

/-- The least number that is closer to infinity than to any finite float. -/
def floatLimit : Nat := Nat.pow 2 1024 - Nat.pow 2 970

/-- The number `mantissa * 10 ^ exponent` is too large for a float. The number of digits settles
this for exponents far from the limit. -/
def overflows (mantissa : Nat) (exponent : Int) : Bool :=
  let magnitude := (Nat.repr mantissa).length + exponent
  if mantissa == 0 || magnitude < 300 then false
  else if 320 < magnitude then true
  else if 0 ≤ exponent then floatLimit ≤ mantissa * Nat.pow 10 exponent.toNat
  else floatLimit * Nat.pow 10 (-exponent).toNat ≤ mantissa

/-- The text without its sign, if it has one. -/
def withoutSign : List Char → List Char
  | '+' :: cs | '-' :: cs => cs
  | cs => cs

/-- An exponent with an optional sign. -/
def exponent? (cs : List Char) : Option Int :=
  if isGrouped Char.isDigit (withoutSign cs) then
    let n : Int := numberOf 10 (withoutSign cs)
    some (if cs.head? == some '-' then -n else n)
  else none

/-- A float: an integer part with a fraction, an exponent, or both; or one of the special values.
Positive numbers that are too large are refused. -/
def isFloat (cs : List Char) : Bool :=
  let unsigned := withoutSign cs
  if unsigned == ['i', 'n', 'f'] || unsigned == ['n', 'a', 'n'] then true
  else
    let isMark (c : Char) : Bool := c == 'e' || c == 'E'
    let significand := unsigned.takeWhile fun c => !isMark c
    let whole := significand.takeWhile (· != '.')
    let fraction := significand.dropWhile (· != '.')
    let exponent :=
      match unsigned.dropWhile fun c => !isMark c with
      | [] => if fraction.isEmpty then none else some 0
      | _ :: digits => exponent? digits
    match exponent with
    | none => false
    | some exponent =>
      isDecimal whole && (fraction.isEmpty || isGrouped Char.isDigit (fraction.drop 1)) &&
        (cs.head? == some '-' ||
          !overflows (numberOf 10 (whole ++ fraction.drop 1))
            (exponent - (((fraction.drop 1).filter (· != '_')).length : Int)))

/-! ## Dates and times -/

/-- The days of a month. -/
def daysIn (year month : Nat) : Nat :=
  if month == 2 then
    if year % 4 == 0 && (year % 100 != 0 || year % 400 == 0) then 29 else 28
  else if [4, 6, 9, 11].contains month then 30
  else 31

/-- The run is made of digits where `shape` has a `d`, and of the characters of `shape`
elsewhere. -/
def fits : List Char → List Char → Bool
  | [], [] => true
  | 'd' :: shape, c :: cs => c.isDigit && fits shape cs
  | s :: shape, c :: cs => s == c && fits shape cs
  | _, _ => false

/-- The number in the `count` digits after the first `start` characters. -/
def numberAt (cs : List Char) (start count : Nat) : Nat := numberOf 10 ((cs.drop start).take count)

/-- A date, as in `1979-05-27`. -/
def isDate (cs : List Char) : Bool :=
  let month := numberAt cs 5 2
  let day := numberAt cs 8 2
  fits "dddd-dd-dd".toList cs && 1 ≤ month && month ≤ 12 && 1 ≤ day &&
    day ≤ daysIn (numberAt cs 0 4) month

/-- A fraction of a second, or nothing. -/
def isSecondFraction : List Char → Bool
  | [] => true
  | '.' :: digits => !digits.isEmpty && digits.all Char.isDigit
  | _ => false

/-- A time, as in `07:32:00.5`. The last second of a minute may be a leap second. -/
def isTime (cs : List Char) : Bool :=
  fits "dd:dd:dd".toList (cs.take 8) && numberAt cs 0 2 ≤ 23 && numberAt cs 3 2 ≤ 59 &&
    numberAt cs 6 2 ≤ 60 && isSecondFraction (cs.drop 8)

/-- The distance of a local time from universal time, as in `-07:00`. -/
def isOffset : List Char → Bool
  | ['Z'] | ['z'] => true
  | sign :: cs =>
    (sign == '+' || sign == '-') && fits "dd:dd".toList cs && numberAt cs 0 2 ≤ 23 &&
      numberAt cs 3 2 ≤ 59
  | [] => false

/-- A time that may have an offset. -/
def isZonedTime (cs : List Char) : Bool :=
  let inTime (c : Char) : Bool := c.isDigit || c == ':' || c == '.'
  isTime (cs.takeWhile inTime) &&
    ((cs.dropWhile inTime).isEmpty || isOffset (cs.dropWhile inTime))

/-- A date, a time, or a date and a time with a mark between them. -/
def isMoment (cs : List Char) : Bool :=
  isTime cs || isDate cs ||
    (isDate (cs.take 10) &&
      match cs.drop 10 with
      | mark :: time => (mark == 'T' || mark == 't' || mark == ' ') && isZonedTime time
      | [] => false)

/-! ## Any of them -/

/-- A character of a bare run. -/
def isBareValue (c : Char) : Bool := c.isAlphanum || ['+', '-', '_', '.', ':'].contains c

/-- The value of a bare run. -/
def scalar? (cs : List Char) : Option Value :=
  if cs == "true".toList then some (.boolean true)
  else if cs == "false".toList then some (.boolean false)
  else
    match integer? cs with
    | some n => some (.integer n)
    | none =>
      if isFloat cs then some (.float (String.ofList cs))
      else if isMoment cs then some (.moment (String.ofList cs))
      else none

end Toml
end SqlFront
