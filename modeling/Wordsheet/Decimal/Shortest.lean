import Wordsheet.Decimal.Basic

/-! # Shortest decimals

The decimal number with the fewest digits that a finite double is read back
from, and of those the nearest to the double. A double is a whole number times a
power of two, so on every decimal grid its two neighbours are found exactly; the
first grid on which one of them reads back gives the answer.
-/

namespace Wordsheet.Decimal

/-- A finite double as `mantissa * 2 ^ power`, without its sign. -/
structure Binary where
  mantissa : Nat
  power : Int
  deriving DecidableEq, Repr

def Binary.ofFloat (x : Float) : Binary :=
  let bits := x.toBits.toNat
  let fraction := bits % Nat.pow 2 52
  let biased := bits / Nat.pow 2 52 % Nat.pow 2 11
  if biased = 0 then ⟨fraction, -1074⟩ else ⟨Nat.pow 2 52 + fraction, (biased : Int) - 1075⟩

def signBit (x : Float) : Bool :=
  decide (Nat.pow 2 63 ≤ x.toBits.toNat)

def Binary.quotient (b : Binary) : Nat × Nat :=
  if b.power < 0 then (b.mantissa, Nat.pow 2 b.power.natAbs)
  else (b.mantissa * Nat.pow 2 b.power.toNat, 1)

def wholeValue? (x : Float) : Option Int :=
  let (n, d) := (Binary.ofFloat x).quotient
  if x.isFinite && n % d == 0 then some (if signBit x then -(n / d : Int) else n / d) else none

def inUnitsOf (unit : Int) (quotient : Nat × Nat) : Nat × Nat :=
  if unit < 0 then (quotient.1 * Nat.pow 10 unit.natAbs, quotient.2)
  else (quotient.1, quotient.2 * Nat.pow 10 unit.toNat)

/-- An exponent of ten close to a positive quotient and not above it. -/
def exponentBelow (quotient : Nat × Nat) : Int :=
  ((digits quotient.1).length : Int) - (digits quotient.2).length - 1

/-- The neighbour of a double on the grid of a power of ten that reads back as the double; the
nearer if both do, the even one if both are as near. -/
def onGrid? (x : Float) (unit : Int) : Option Decimal :=
  let (n, d) := inUnitsOf unit (Binary.ofFloat x).quotient
  let below : Decimal := ⟨signBit x, n / d, unit⟩
  let above : Decimal := ⟨signBit x, n / d + 1, unit⟩
  let readsBack (c : Decimal) : Bool := c.toFloat == x
  match readsBack below, readsBack above with
  | true, false => some below
  | false, true => some above
  | false, false => none
  | true, true =>
      let rest := 2 * (n % d)
      if rest < d || (rest = d && n / d % 2 = 0) then some below else some above

def grids (x : Float) : List Int :=
  let top := exponentBelow (Binary.ofFloat x).quotient + 1
  (List.range 20).map fun (i : Nat) => top - i

/-- The shortest decimal number that a finite double is read back from. -/
def shortest (x : Float) : Decimal :=
  if x == 0.0 then ⟨signBit x, 0, 0⟩
  else
    match (grids x).findSome? (onGrid? x) with
    | some d => d.canonical
    | none =>
        let (n, d) := (Binary.ofFloat x).quotient
        (⟨signBit x, n * Nat.pow 10 1100 / d, -1100⟩ : Decimal).canonical

theorem onGrid?_readsBack {x : Float} {unit : Int} {d : Decimal} (h : onGrid? x unit = some d) :
    (d.toFloat == x) = true := by
  simp only [onGrid?] at h
  split at h
  · next h1 _ => simp_all
  · next _ h2 => simp_all
  · simp at h
  · split at h <;> simp_all

end Wordsheet.Decimal
