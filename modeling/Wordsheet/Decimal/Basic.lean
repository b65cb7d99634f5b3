/-! # Decimal numbers

A decimal number is a sign, a whole coefficient and a power of ten. Two of them
that denote the same number have one canonical form, and the nearest double is
taken from that form, so it depends on the number alone.
-/

namespace Wordsheet

/-- The number `coefficient * 10 ^ exponent`, taken below zero when `negative`. -/
structure Decimal where
  negative : Bool
  coefficient : Nat
  exponent : Int
  deriving DecidableEq, Repr

namespace Decimal

def digits (n : Nat) : List Char :=
  Nat.toDigits 10 n

def padded (width n : Nat) : String :=
  let ds := digits n
  String.ofList (List.replicate (width - ds.length) '0' ++ ds)

/-- The most digits of a whole number that is turned into a text, or a text into. -/
def mostDigits : Nat := 4300

def isSpellable (n : Int) : Bool :=
  (digits n.natAbs).length ≤ mostDigits

/-- What is said of a whole number of too many digits; of a text, how many they are. -/
def limitMessage (count : Option Nat) : String :=
  let found := count.elim "" fun count => s!": value has {count} digits"
  s!"Exceeds the limit ({mostDigits} digits) for integer string conversion{found}; "
    ++ "use sys.set_int_max_str_digits() to increase the limit"

/-- Moves the trailing zeros of a coefficient into the exponent. -/
def shed (coefficient : Nat) (exponent : Int) : Nat × Int :=
  if coefficient = 0 then (0, 0)
  else if coefficient % 10 = 0 then shed (coefficient / 10) (exponent + 1)
  else (coefficient, exponent)
termination_by coefficient

def canonical (d : Decimal) : Decimal :=
  let (coefficient, exponent) := shed d.coefficient d.exponent
  ⟨d.negative, coefficient, exponent⟩

/-- The exponent of the first power of ten above a number in canonical form. -/
def magnitude (d : Decimal) : Int :=
  (digits d.coefficient).length + d.exponent

def infinity : Float := 1.0 / 0.0

def undefined : Float := 0.0 / 0.0

/-- The double nearest to a number. Magnitudes beyond four hundred lie far outside the
doubles, so they are settled without computing a power of ten. -/
def toFloat (d : Decimal) : Float :=
  let c := d.canonical
  let size :=
    if c.coefficient = 0 || c.magnitude < -400 then 0.0
    else if 400 < c.magnitude then infinity
    else Float.ofScientific c.coefficient (c.exponent < 0) c.exponent.natAbs
  if c.negative then -size else size

theorem canonical_negative (d : Decimal) : d.canonical.negative = d.negative := rfl

/-- Shedding zeros leaves a coefficient that ends in another digit, or zero. -/
theorem shed_fst (coefficient : Nat) (exponent : Int) :
    (shed coefficient exponent).1 = 0 ∨ (shed coefficient exponent).1 % 10 ≠ 0 := by
  fun_induction shed coefficient exponent with
  | case1 => exact .inl rfl
  | case2 _ _ _ _ ih => exact ih
  | case3 _ _ _ h => exact .inr h

theorem shed_shed (coefficient : Nat) (exponent : Int) :
    shed (shed coefficient exponent).1 (shed coefficient exponent).2 =
      shed coefficient exponent := by
  fun_induction shed coefficient exponent with
  | case1 => simp [shed]
  | case2 _ _ _ _ ih => exact ih
  | case3 _ _ h0 h =>
      rw [shed, if_neg h0, if_neg h]

@[simp] theorem canonical_canonical (d : Decimal) : d.canonical.canonical = d.canonical := by
  simp [canonical, shed_shed]

end Decimal

end Wordsheet
