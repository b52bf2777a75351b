/-!
# Binary fractions

Fractions are kept in binary with 53 significant bits.  Every finite magnitude is a multiple of the
smallest one, the unit, so it is held as a number of units and has one form only.  What is written
in decimal is read as the nearest number, and a number is written with the fewest decimal digits
that are read as it again.  Powers are those of `Nat.pow`, whatever their notation stands for.
-/

namespace TokenForest

namespace Double

/-- The number of units in one. -/
def one : Nat := Nat.pow 2 1074

/-- The least magnitude that is beyond the finite ones, in units. -/
def bound : Nat := Nat.pow 2 2098

/-- Whether there is a finite number of so many units: 53 significant bits tell it. -/
def IsMagnitude (units : Nat) : Prop :=
  units < bound ∧ Nat.pow 2 (units.log2 - 52) ∣ units

end Double

/-- A binary fraction. -/
inductive Double where
  | nan
  | infinite (negative : Bool)
  | finite (negative : Bool) (magnitude : {units : Nat // Double.IsMagnitude units})
  deriving DecidableEq, Repr

namespace Double

/-! ## Rounding -/

/-- The whole number nearest to a quotient, and the even one of two that are equally near. -/
def nearestWhole (dividend divisor : Nat) : Nat :=
  let whole := dividend / divisor
  let twice := 2 * (dividend % divisor)
  if twice < divisor then whole
  else if divisor < twice then whole + 1
  else whole + whole % 2

/-- Rounding goes up by one at most. -/
theorem nearestWhole_le
    (dividend divisor : Nat) :
    nearestWhole dividend divisor ≤ dividend / divisor + 1 := by
  simp only [nearestWhole]
  split
  · omega
  · split <;> omega

/-- The number of units nearest to a quotient of such numbers, whether or not it is finite. -/
def nearest (dividend divisor : Nat) : Nat :=
  let spare := (dividend / divisor).log2 - 52
  nearestWhole dividend (divisor * Nat.pow 2 spare) * Nat.pow 2 spare

/-- The significant bits of a rounded number are 53 at most. -/
theorem significand_le
    (dividend divisor : Nat) :
    let spare := (dividend / divisor).log2 - 52
    nearestWhole dividend (divisor * Nat.pow 2 spare) ≤ Nat.pow 2 53 := by
  intro spare
  simp only [Nat.pow_eq]
  have short : dividend / divisor / 2 ^ spare < 2 ^ 53 := by
    refine Nat.div_lt_of_lt_mul ?_
    rw [← Nat.pow_add]
    exact Nat.lt_of_lt_of_le Nat.lt_log2_self (Nat.pow_le_pow_right (by omega) (by omega))
  have rounded := nearestWhole_le dividend (divisor * 2 ^ spare)
  rw [← Nat.div_div_eq_div_mul] at rounded
  omega

/-- So many bits below a place are not significant in a number that ends at this place. -/
theorem dvd_of_significand_le
    {significand spare : Nat}
    (few : significand ≤ Nat.pow 2 53) :
    Nat.pow 2 ((significand * Nat.pow 2 spare).log2 - 52) ∣ significand * Nat.pow 2 spare := by
  simp only [Nat.pow_eq] at few ⊢
  rcases Nat.eq_zero_or_pos significand with rfl | positive
  · simp
  · rcases Nat.eq_or_lt_of_le few with rfl | short
    · rw [← Nat.pow_add]
      exact Nat.pow_dvd_pow 2 (by rw [Nat.log2_two_pow]; omega)
    · have shorter : (significand * 2 ^ spare).log2 < 53 + spare := by
        rw [Nat.log2_lt (Nat.mul_ne_zero (by omega) (by simp)), Nat.pow_add]
        exact Nat.mul_lt_mul_of_pos_right short (Nat.two_pow_pos spare)
      exact Nat.dvd_mul_left_of_dvd (Nat.pow_dvd_pow 2 (by omega)) significand

/-- What is rounded is told by 53 significant bits. -/
theorem dvd_nearest
    (dividend divisor : Nat) :
    Nat.pow 2 ((nearest dividend divisor).log2 - 52) ∣ nearest dividend divisor :=
  dvd_of_significand_le (significand_le dividend divisor)

/-- The number nearest to a quotient of numbers of units. -/
def round (negative : Bool) (dividend divisor : Nat) : Double :=
  if finite : nearest dividend divisor < bound then
    .finite negative ⟨nearest dividend divisor, finite, dvd_nearest dividend divisor⟩
  else .infinite negative

/-! ## Decimal notation -/

/-- The number of units nearest to `digits / 10 ^ places`. -/
def nearestDecimal (digits : Nat) (places : Int) : Nat :=
  nearest (digits * Nat.pow 10 (-places).toNat * one) (Nat.pow 10 places.toNat)

/--
The number nearest to `digits / 10 ^ places`.  Far from the finite numbers, where the powers would
be large, only the place of the first digit counts.
-/
def ofDecimal (negative : Bool) (digits : Nat) (places : Int) : Double :=
  let point := (Nat.toDigits 10 digits).length - places
  if digits = 0 ∨ point < -400 then round negative 0 1
  else if 400 < point then .infinite negative
  else round negative (digits * Nat.pow 10 (-places).toNat * one) (Nat.pow 10 places.toNat)

/-- How many digits a magnitude has before the decimal point, or how many zeros less behind it. -/
def point (units : Nat) : Int :=
  (Nat.toDigits 10 (units * Nat.pow 10 400 / one)).length - 400

/-- The digits with so many places that come nearest to a magnitude, if they are read as it. -/
def digitsAt? (units : Nat) (places : Int) : Option Nat :=
  let dividend := units * Nat.pow 10 places.toNat
  let divisor := one * Nat.pow 10 (-places).toNat
  let below := dividend / divisor
  let nearer := nearestWhole dividend divisor
  [nearer, if nearer = below then below + 1 else below].find? fun digits =>
    nearestDecimal digits places = units

/-- The fewest digits that are read as a magnitude, with their places; seventeen always suffice. -/
def shortest (units : Nat) : Nat × Int :=
  if units = 0 then (0, 0)
  else
    let found := (List.range 17).findSome? fun size =>
      let places := Int.ofNat (size + 1) - point units
      (digitsAt? units places).map fun digits => (digits, places)
    found.getD (0, 0)

/-- The exponent of a number in text, with two digits at least. -/
def exponentText (exponent : Int) : String :=
  let size := toString exponent.natAbs
  (if exponent < 0 then "e-" else "e+") ++ (if size.length < 2 then "0" ++ size else size)

/--
The text of a magnitude: positional from `10 ^ -4` up to `10 ^ 16` and with an exponent beyond,
always with a sign of being a fraction.
-/
def magnitudeText (units : Nat) : String :=
  let (digits, places) := shortest units
  let written := Nat.toDigits 10 digits
  let point := written.length - places
  let shown := (written.reverse.dropWhile (· = '0')).reverse
  if units = 0 then "0.0"
  else if point < -3 ∨ 16 < point then
    let tail := shown.drop 1
    String.ofList (shown.take 1 ++ if tail.isEmpty then [] else '.' :: tail) ++
      exponentText (point - 1)
  else if point ≤ 0 then "0." ++ String.ofList (List.replicate (-point).toNat '0' ++ shown)
  else
    let whole := shown ++ List.replicate (point.toNat - shown.length) '0'
    let fraction := whole.drop point.toNat
    String.ofList (whole.take point.toNat ++ '.' :: if fraction.isEmpty then ['0'] else fraction)

/-- The text of a number. -/
def text : Double → String
  | .nan => "nan"
  | .infinite negative => (if negative then "-" else "") ++ "inf"
  | .finite negative magnitude => (if negative then "-" else "") ++ magnitudeText magnitude

/-- A tenth is none of the numbers, but the nearest one is written as it was read. -/
example : (ofDecimal false 1 1).text = "0.1" := by decide +kernel

end Double

end TokenForest
