import Flowgraph.Json.Fault
import Flowgraph.Json.Number

/-!
# Spelled numbers

The value of a number as it is spelled out in decimal digits. Digits are taken into a 64-bit word
as long as it does not overflow; the digits after that only shift the whole part, or are ignored
behind the point. A number that is not whole is this word times or over a power of ten, rounded
once for the word, once for the power and once for the result.

Main result: `Spelling.value` gives the number, or the cause and how many exponent digits were
read when the exponent left the 32-bit range.
-/
namespace Flowgraph.Json

/-- A number as it is written. -/
structure Spelling where
  negative : Bool
  /-- The digits before the point. -/
  whole : List Nat
  /-- The digits behind the point, if there is one. -/
  fraction : Option (List Nat)
  /-- The sign and the digits of the exponent, if there is one. -/
  exponent : Option (Bool × List Nat)
deriving DecidableEq, Repr

namespace Spelling

/-- Appends digits to a word until one does not fit, and gives the digits left over. -/
def absorb (word : Nat) : List Nat → Nat × List Nat
  | [] => (word, [])
  | digit :: rest =>
    if word * 10 + digit < UInt64.size then absorb (word * 10 + digit) rest
    else (word, digit :: rest)

/-- An exponent within 32 bits, or the number of digits read when it left them. -/
def readExponent (value count : Nat) : List Nat → Except Nat Nat
  | [] => .ok value
  | digit :: rest =>
    if value * 10 + digit < 1 <<< 31 then readExponent (value * 10 + digit) (count + 1) rest
    else .error (count + 1)

/-- A power of ten up to the 308th, rounded to nearest. -/
def powerOfTen (exponent : Nat) : Binary64 := (Binary64.ofNat? (Nat.pow 10 exponent)).getD .zero

/-- A float scaled by a power of ten; the deepest exponents are taken in steps of 308, and nothing
is left when the result is beyond the finite numbers. -/
def scaled : Nat → Binary64 → Int → Option Binary64
  | 0, x, _ => some x
  | fuel + 1, x, exponent =>
    if exponent.natAbs ≤ 308 then
      if 0 ≤ exponent then x.mul? (powerOfTen exponent.natAbs)
      else x.div? (powerOfTen exponent.natAbs)
    else if x.isZero then some x
    else if 0 ≤ exponent then none
    else (x.div? (powerOfTen 308)).bind fun y => scaled fuel y (exponent + 308)

/-- The float for a word and a power of ten. -/
def float? (negative : Bool) (word : Nat) (exponent : Int) : Option Binary64 :=
  (Binary64.ofNat? word).bind fun x =>
    (scaled (exponent.natAbs / 308 + 1) x exponent).map fun y => { y with negative := negative }

/-- The number for a word without point and exponent. -/
def wholeNumber (negative : Bool) (word : Nat) : Option Number :=
  if negative then
    if inRange : 0 < word ∧ word ≤ Number.negatives then some (.negative ⟨word - 1, by omega⟩)
    else (float? true word 0).map .float
  else some (.natural word.toUInt64)

/-- The value of a spelled number; out of range, how many exponent digits had been read, or nothing
if all of it had been. -/
def value (s : Spelling) : Except (Option Nat) Number :=
  let (word, beyond) := absorb 0 s.whole
  let (word', left) := absorb word (s.fraction.getD [])
  let places : Int := beyond.length - ((s.fraction.getD []).length - left.length : Nat)
  let finish (exponent : Int) : Except (Option Nat) Number :=
    match float? s.negative word' exponent with
    | some x => .ok (.float x)
    | none => .error none
  match s.exponent with
  | none =>
    if s.fraction.isNone && beyond.isEmpty then
      match wholeNumber s.negative word with
      | some number => .ok number
      | none => .error none
    else finish places
  | some (down, digits) =>
    match readExponent 0 0 digits with
    | .ok exponent => finish (if down then places - exponent else places + exponent)
    | .error count =>
      if word' ≠ 0 ∧ !down then .error (some count)
      else .ok (.float { Binary64.zero with negative := s.negative })

end Spelling

end Flowgraph.Json
