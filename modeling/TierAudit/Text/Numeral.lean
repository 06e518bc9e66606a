import TierAudit.Text.Case

/-!
# Text — numerals

Reading a natural number below a limit.  The digits are read from the left, and the first problem
met is the one reported.  Of numbers with a fraction it is only told whether a text is one.
-/

namespace TierAudit.Text.Numeral

/-- Why a text is not a number. -/
inductive Fault where
  | empty
  | invalidDigit
  | tooLarge
  deriving DecidableEq, Repr

def Fault.message : Fault → String
  | empty => "cannot parse integer from empty string"
  | invalidDigit => "invalid digit found in string"
  | tooLarge => "number too large to fit in target type"

/-- The value of a digit in a base of at most sixteen. -/
def digit? (base : Nat) (c : Char) : Option Nat :=
  let value? :=
    if '0' ≤ c && c ≤ '9' then some (c.toNat - '0'.toNat)
    else if 'a' ≤ c && c ≤ 'f' then some (c.toNat - 'a'.toNat + 10)
    else if 'A' ≤ c && c ≤ 'F' then some (c.toNat - 'A'.toNat + 10)
    else none
  value?.filter (· < base)

/-- Reads on after digits that make `value`. -/
def readFrom (base limit value : Nat) : List Char → Except Fault Nat
  | [] => .ok value
  | c :: rest =>
    match digit? base c with
    | none => .error .invalidDigit
    | some d =>
      let value := value * base + d
      if limit < value then .error .tooLarge else readFrom base limit value rest

/-- A number of at most `limit`, written as digits without a sign. -/
def read (base limit : Nat) : List Char → Except Fault Nat
  | [] => .error .empty
  | digits => readFrom base limit 0 digits

/-- A number of at most `limit`, in decimal and with or without a plus sign. -/
def readSigned (limit : Nat) : List Char → Except Fault Nat
  | ['+'] => .error .invalidDigit
  | '+' :: digits => read 10 limit digits
  | digits => read 10 limit digits

/-- Whether a text is digits, with or without a point among them or at one end and an exponent. -/
def isDecimal (text : List Char) : Bool :=
  let mantissa := text.takeWhile fun c => c ≠ 'e' && c ≠ 'E'
  let digits := mantissa.filter (· ≠ '.')
  let power := (text.drop mantissa.length).drop 1
  let powerDigits := if power.head?.any fun c => c = '+' || c = '-' then power.drop 1 else power
  digits.all Char.isDigit && !digits.isEmpty && mantissa.length ≤ digits.length + 1 &&
    powerDigits.all Char.isDigit && (mantissa.length = text.length || !powerDigits.isEmpty)

/-- Whether a text is a number with or without a sign, or stands for infinity or for none. -/
def isReal (text : List Char) : Bool :=
  let unsigned := if text.head?.any fun c => c = '+' || c = '-' then text.drop 1 else text
  isDecimal unsigned ||
    ["inf", "infinity", "nan"].any (equalsIgnoringCase · (String.ofList unsigned))

end TierAudit.Text.Numeral
