import TierAudit.Text.Numeral
import TierAudit.Toml.Value

/-!
# TOML — scalars

The values that are written without quotation marks: booleans, numbers, dates and times.  A scalar
is a word, and the word is taken as a whole before it is told what it is.
-/

namespace TierAudit.Toml
open TierAudit.Text (Numeral.digit?)

/-- A character of a word. -/
def isWordChar (c : Char) : Bool :=
  c.isAlphanum || c = '_' || c = '-' || c = '+' || c = '.' || c = ':'

/-! ### Numbers -/

/-- The value of digits, where an underscore may stand between two of them. -/
def digitsFrom (base value : Nat) : Bool → List Char → Option Nat
  | afterDigit, [] => if afterDigit then some value else none
  | afterDigit, c :: rest =>
    if c = '_' then
      if afterDigit then digitsFrom base value false rest else none
    else match Numeral.digit? base c with
      | some d => digitsFrom base (value * base + d) true rest
      | none => none

def digits? (base : Nat) (cs : List Char) : Option Nat := digitsFrom base 0 false cs

/-- A sign, if there is one, and what follows it. -/
def signed (cs : List Char) : Bool × List Char :=
  match cs with
  | '-' :: rest => (true, rest)
  | '+' :: rest => (false, rest)
  | _ => (false, cs)

/-- A number in decimal does not start with a zero, unless it is zero. -/
def decimal? (cs : List Char) : Option Nat :=
  match cs with
  | '0' :: _ :: _ => none
  | _ => digits? 10 cs

/-- The number of non-negative integers of 64 bits. -/
def integerBound : Nat := Nat.pow 2 63

/-- An integer of 64 bits. -/
def integer? (cs : List Char) : Option Int :=
  let magnitude? := match cs with
    | '0' :: 'x' :: rest => (digits? 16 rest).map (false, ·)
    | '0' :: 'o' :: rest => (digits? 8 rest).map (false, ·)
    | '0' :: 'b' :: rest => (digits? 2 rest).map (false, ·)
    | _ =>
      let (negative, rest) := signed cs
      (decimal? rest).map (negative, ·)
  magnitude?.bind fun (negative, n) =>
    if n < integerBound then some (if negative then -(n : Int) else n)
    else if negative && n = integerBound then some (-(n : Int))
    else none

/-- Halfway between the greatest double and the power of two after it.  This is a number of 309
digits, and the least that is rounded to infinity. -/
def overflowBound : Nat := Nat.pow 2 1024 - Nat.pow 2 970

/-- The size of an exponent.  Digits that would make it larger than needed are passed over. -/
def exponentSize (cs : List Char) : Nat :=
  (cs.filterMap (Numeral.digit? 10)).foldl
    (fun size d => if size < 0x10000 then size * 10 + d else size) 0

/-- Whether a number, given by its digits and the power of ten they are multiplied by, is rounded to
infinity.  Its order of magnitude tells, unless it is that of the bound. -/
def overflows (digits : List Nat) (exponent : Int) : Bool :=
  let significant := digits.dropWhile (· = 0)
  let size := significant.length + exponent
  let value := significant.foldl (fun value d => value * 10 + d) 0
  if significant.isEmpty || size < 309 then false
  else if 309 < size then true
  else if 0 ≤ exponent then overflowBound ≤ value * Nat.pow 10 exponent.toNat
  else overflowBound * Nat.pow 10 (-exponent).toNat ≤ value

/-- Whether a word is a number with a fraction, an exponent or both, or stands for none.  A number
beyond the greatest double is refused; one below the least is negative infinity. -/
def isFloat (cs : List Char) : Bool :=
  let (negative, rest) := signed cs
  let mantissa := rest.takeWhile fun c => c ≠ 'e' && c ≠ 'E'
  let exponent := rest.drop mantissa.length
  let whole := mantissa.takeWhile (· ≠ '.')
  let fraction := mantissa.drop whole.length
  let (negativeExponent, exponentDigits) := signed (exponent.drop 1)
  let places := (fraction.filterMap (Numeral.digit? 10)).length
  let size := exponentSize exponentDigits
  rest = ['i', 'n', 'f'] || rest = ['n', 'a', 'n'] ||
    ((decimal? whole).isSome && !(fraction.isEmpty && exponent.isEmpty) &&
      (fraction.isEmpty || (digits? 10 (fraction.drop 1)).isSome) &&
      (exponent.isEmpty || (digits? 10 exponentDigits).isSome) &&
      (negative || !overflows (mantissa.filterMap (Numeral.digit? 10))
        ((if negativeExponent then -(size : Int) else size) - places)))

/-! ### Dates and times -/

/-- A number of exactly `width` digits and what follows it. -/
def fixed? (width : Nat) (cs : List Char) : Option (Nat × List Char) := do
  let digits := cs.take width
  guard (digits.length = width && digits.all Char.isDigit)
  return (← digits? 10 digits, cs.drop width)

/-- What follows a character, if it is the next. -/
def expect? (c : Char) (cs : List Char) : Option (List Char) :=
  match cs with
  | d :: rest => if d = c then some rest else none
  | [] => none

def daysInMonth (year month : Nat) : Nat :=
  if month = 2 then
    if year % 4 = 0 && (year % 100 ≠ 0 || year % 400 = 0) then 29 else 28
  else if month = 4 || month = 6 || month = 9 || month = 11 then 30
  else 31

/-- What follows a date, as in `1979-05-27`. -/
def afterDate? (cs : List Char) : Option (List Char) := do
  let (year, rest) ← fixed? 4 cs
  let (month, rest) ← fixed? 2 (← expect? '-' rest)
  let (day, rest) ← fixed? 2 (← expect? '-' rest)
  guard (1 ≤ month && month ≤ 12 && 1 ≤ day && day ≤ daysInMonth year month)
  return rest

/-- What follows a time of day, as in `07:32:00.999`. -/
def afterTime? (cs : List Char) : Option (List Char) := do
  let (hour, rest) ← fixed? 2 cs
  let (minute, rest) ← fixed? 2 (← expect? ':' rest)
  let (second, rest) ← fixed? 2 (← expect? ':' rest)
  guard (hour ≤ 23 && minute ≤ 59 && second ≤ 60)
  match rest with
  | '.' :: fraction =>
    guard (fraction.head?.any Char.isDigit)
    return fraction.dropWhile Char.isDigit
  | _ => return rest

/-- Whether a text is the distance from Universal Time, as in `Z` or `-07:00`, or empty. -/
def isOffset (cs : List Char) : Bool :=
  match cs with
  | [] => true
  | ['Z'] => true
  | ['z'] => true
  | sign :: rest =>
    (sign = '+' || sign = '-') && Option.isSome do
      let (hour, rest) ← fixed? 2 rest
      let (minute, rest) ← fixed? 2 (← expect? ':' rest)
      guard (hour ≤ 23 && minute ≤ 59 && rest.isEmpty)

/-- Whether a word is a date, a time, or a date with a time and perhaps an offset. -/
def isDateTime (cs : List Char) : Bool :=
  match afterDate? cs with
  | some [] => true
  | some (separator :: time) =>
    (separator = 'T' || separator = 't' || separator = ' ') && (afterTime? time).any isOffset
  | none => afterTime? cs = some []

/-! ### Words -/

/-- The word that a text begins with and what follows it.  A date takes the time after a blank
along. -/
def word (cs : List Char) : List Char × List Char :=
  let first := cs.takeWhile isWordChar
  let rest := cs.drop first.length
  match rest with
  | ' ' :: d :: more =>
    if afterDate? first = some [] && d.isDigit then
      let second := (d :: more).takeWhile isWordChar
      (first ++ ' ' :: second, (d :: more).drop second.length)
    else (first, rest)
  | _ => (first, rest)

/-- The value that a word stands for. -/
def scalar? (cs : List Char) : Option Value :=
  if cs = ['t', 'r', 'u', 'e'] then some (.boolean true)
  else if cs = ['f', 'a', 'l', 's', 'e'] then some (.boolean false)
  else match integer? cs with
    | some n => some (.integer n)
    | none =>
      if isFloat cs then some (.float (String.ofList cs))
      else if isDateTime cs then some (.dateTime (String.ofList cs))
      else none

end TierAudit.Toml
