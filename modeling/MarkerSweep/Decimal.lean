/-!
# Decimal numerals and their rounding

A decimal numeral is rounded to the nearest number that has 53 binary digits, and that number is written
with as few decimal digits as tell it apart from its neighbours. All arithmetic is exact.
-/

set_option autoImplicit false

namespace MarkerSweep

/-- A natural number times a power of ten, with a sign. -/
structure Decimal where
  negative : Bool
  digits : Nat
  exponent : Int
deriving DecidableEq

/-- A natural number times a power of two. -/
structure Binary where
  digits : Nat
  exponent : Int
deriving DecidableEq

namespace Decimal

/-! ## Reading -/

def digitsValue (cs : List Char) : Nat :=
  cs.foldl (fun n c => 10 * n + (c.toNat - '0'.toNat)) 0

/-- Reads the exponent at the end of a numeral. -/
def readExponent? : List Char → Option Int
  | [] => some 0
  | e :: rest =>
    if e ≠ 'e' && e ≠ 'E' then none
    else
      let (negative, digits) := match rest with
        | '-' :: ds => (true, ds)
        | '+' :: ds => (false, ds)
        | ds => (false, ds)
      if digits.isEmpty || !digits.all Char.isDigit then none
      else some (if negative then -(digitsValue digits : Int) else digitsValue digits)

/-- Reads a numeral: an optional minus, digits with an optional point, an optional exponent. -/
def read? (cs : List Char) : Option Decimal :=
  let negative := cs.head? = some '-'
  let cs := if negative then cs.drop 1 else cs
  let whole := cs.takeWhile Char.isDigit
  let rest := cs.dropWhile Char.isDigit
  let (places, rest) := match rest with
    | '.' :: more => (more.takeWhile Char.isDigit, more.dropWhile Char.isDigit)
    | _ => ([], rest)
  if whole.isEmpty && places.isEmpty then none
  else (readExponent? rest).map fun e =>
    ⟨negative, digitsValue (whole ++ places), e - places.length⟩

/-! ## Rounding to binary -/

/-- The factors of a power: one above and one below the line. -/
def power (base : Nat) (exponent : Int) : Nat × Nat :=
  (base.pow exponent.toNat, base.pow (-exponent).toNat)

/-- A quotient rounded to the nearest natural number, and to the even one of two. -/
def roundDiv (n d : Nat) : Nat :=
  let q := n / d
  let r := 2 * (n % d)
  if d < r || (r = d && q % 2 = 1) then q + 1 else q

/-- The number of decimal digits of a natural number. -/
def length (n : Nat) : Nat := (Nat.toDigits 10 n).length

/-- The least exponent of a number. -/
def leastExponent : Int := -1074

/-- The greatest exponent of a number. -/
def greatestExponent : Int := 971

/-- The nearest number to a quotient of positive numbers. -/
def nearestTo (n d : Nat) : Binary :=
  let size : Int := (n.log2 : Int) - d.log2
  let (up, down) := power 2 size
  let exponent := max (if d * up ≤ n * down then size - 52 else size - 53) leastExponent
  let (up, down) := power 2 exponent
  let m := roundDiv (n * down) (d * up)
  if m = Nat.pow 2 53 then ⟨Nat.pow 2 52, exponent + 1⟩ else ⟨m, exponent⟩

/-- The nearest number, unless it is out of range. -/
def nearest? (x : Decimal) : Option Binary :=
  let size := (length x.digits : Int) + x.exponent
  if x.digits = 0 || size < -330 then some ⟨0, leastExponent⟩
  else if 310 < size then none
  else
    let (up, down) := power 10 x.exponent
    let b := nearestTo (x.digits * up) down
    if greatestExponent < b.exponent then none else some b

end Decimal

namespace Binary

open Decimal

/-- How many powers of ten make a positive number at least one; the number is a quotient. -/
def shiftToOne (d : Nat) : Nat → Nat → Nat
  | 0, _ => 0
  | fuel + 1, n => if d ≤ n then 0 else shiftToOne d fuel (10 * n) + 1

/-- The number of digits before the decimal point; it is not positive if the first ones are zeros
after the point. -/
def magnitude (b : Binary) : Int :=
  let (up, down) := power 2 b.exponent
  let n := b.digits * up
  if down ≤ n then length (n / down) else 1 - (shiftToOne down 400 n : Int)

/-- The number with a given number of decimal digits that rounds to a binary number, if there is one,
and of two the nearer one. -/
def withDigits? (b : Binary) (count : Nat) : Option (Nat × Int) :=
  let place := b.magnitude - count
  let (up2, down2) := power 2 (b.exponent - 2)
  let (up10, down10) := power 10 place
  -- all in quarters of the last binary place
  let value := 4 * b.digits
  let low := if b.digits = Nat.pow 2 52 && leastExponent < b.exponent then value - 1 else value - 2
  let high := value + 2
  let scaled := fun (quarters : Nat) => quarters * up2 * down10
  let grid := fun (c : Nat) => c * up10 * down2
  let fits := fun (c : Nat) =>
    if b.digits % 2 = 0 then scaled low ≤ grid c && grid c ≤ scaled high
    else scaled low < grid c && grid c < scaled high
  let below := scaled value / (up10 * down2)
  let nearerBelow := scaled value - grid below < grid (below + 1) - scaled value
  if fits below && (nearerBelow || !fits (below + 1)) then some (below, place)
  else if fits (below + 1) then some (below + 1, place)
  else none

/-- The fewest decimal digits that round to a binary number. -/
def shortest (b : Binary) : Nat × Int :=
  ((List.range 17).findSome? fun k => b.withDigits? (k + 1)).getD (0, 0)

end Binary

namespace Decimal

/-- Writes out a natural number times a power of ten, with a point and one digit after it at least. -/
def positional (digits : Nat) (exponent : Int) : String :=
  if 0 ≤ exponent then toString (digits * Nat.pow 10 exponent.toNat) ++ ".0"
  else
    let places := (-exponent).toNat
    let whole := digits / Nat.pow 10 places
    let fraction := Nat.toDigits 10 (digits % Nat.pow 10 places)
    let padded := List.replicate (places - fraction.length) '0' ++ fraction
    let kept := (padded.reverse.dropWhile (· = '0')).reverse
    toString whole ++ "." ++ (if kept.isEmpty then "0" else String.ofList kept)

/-- The numeral rounded to binary and written out with as few digits as possible; nothing if it is out
of range. -/
def roundedText? (x : Decimal) : Option String := do
  let b ← x.nearest?
  let (digits, exponent) := if b.digits = 0 then (0, 0) else b.shortest
  return (if x.negative then "-" else "") ++ positional digits exponent

end Decimal

end MarkerSweep
