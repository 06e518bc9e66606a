/-!
# Decimal numbers

Writing numbers with a fixed number of decimal places.  A tie goes to the even neighbour.
-/

namespace TierAudit.Decimal

/-- A number with zeros in front to make up at least `width` digits. -/
def padded (width n : Nat) : String :=
  let digits := Nat.toDigits 10 n
  String.ofList (List.replicate (width - digits.length) '0' ++ digits)

/-- The natural number that is nearest to a quotient, of two the even one. -/
def round (num den : Nat) : Nat :=
  let q := num / den
  let r := num % den
  if 2 * r < den || (2 * r = den && q % 2 = 0) then q else q + 1

/-- The number with 53 significant bits that is nearest to a quotient, as a quotient: the value of a
division of 64-bit floating-point numbers. -/
def double (num den : Nat) : Nat × Nat :=
  if num = 0 then (0, 1)
  else
    -- `num / den` lies between `2 ^ (log2 num - log2 den - 1)` and `2 ^ (log2 num - log2 den + 1)`.
    let up := 52 + den.log2
    let down := num.log2
    let scaled := fun more : Nat => (num <<< (up + more), den <<< down)
    let more := if (scaled 0).1 < (scaled 0).2 <<< 52 then 1 else 0
    (round (scaled more).1 (scaled more).2 <<< down, 1 <<< (up + more))

/-- A quotient with `places` decimal places. -/
def fixed (places num den : Nat) : String :=
  let unit := Nat.pow 10 places
  let n := round (num * unit) den
  toString (n / unit) ++ "." ++ padded places (n % unit)

/-- Milliseconds in seconds, by a division of floating-point numbers. -/
def seconds (places : Nat) (milliseconds : UInt64) : String :=
  let (num, den) := double milliseconds.toNat 1
  let (num, den) := double num (den * 1000)
  fixed places num den

end TierAudit.Decimal
