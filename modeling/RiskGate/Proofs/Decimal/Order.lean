import RiskGate.Decimal.Binary

/-!
# The order of doubles

A double that is not a number is neither below nor above any double.  All others can be compared:
of two of them, the first is below the second or the second is at most the first.
-/

namespace RiskGate.Decimal

open Float.Model (UnpackedFloat)

section Unpacked

variable (x y : UnpackedFloat)

/-- Exponents are compared first, and then mantissas. -/
theorem then_swap (exponent exponent' : Int) (mantissa mantissa' : Nat) :
    (compare exponent' exponent).then (compare mantissa' mantissa) =
      ((compare exponent exponent').then (compare mantissa mantissa')).swap := by
  rw [Ordering.swap_then, Int.compare_swap, Nat.compare_swap]

theorem compare_swap : y.compare x = (x.compare y).map Ordering.swap := by
  cases x with
  | notANumber => cases y <;> rfl
  | infinity side =>
      cases y with
      | infinity other => cases side <;> cases other <;> rfl
      | notANumber | zero | finite => cases side <;> rfl
  | zero side =>
      cases y with
      | infinity other | finite other => cases other <;> rfl
      | notANumber | zero => rfl
  | finite side mantissa exponent positive =>
      cases y with
      | infinity other => cases other <;> rfl
      | notANumber => rfl
      | zero => cases side <;> rfl
      | finite other mantissa' exponent' =>
          have swapped := then_swap exponent exponent' mantissa mantissa'
          cases side with
          | negative =>
              cases other with
              | negative => exact congrArg (fun relation => some relation.swap) swapped
              | positive => rfl
          | positive =>
              cases other with
              | negative => rfl
              | positive => exact congrArg some swapped

theorem isSome_compare : (x.compare y).isSome = (!x.isNaN && !y.isNaN) := by
  cases x with
  | notANumber => rfl
  | infinity side => cases y <;> cases side <;> rfl
  | zero side =>
      cases y with
      | infinity other | finite other => cases other <;> rfl
      | notANumber | zero => rfl
  | finite side =>
      cases y with
      | infinity other | finite other => cases side <;> cases other <;> rfl
      | notANumber | zero => cases side <;> rfl

end Unpacked

/-- What two doubles are to each other, if both are numbers. -/
def order (x y : Float) : Option Ordering := x.toModel.unpack.compare y.toModel.unpack

variable {x y : Float}

theorem lt_iff_order : x < y ↔ order x y = some .lt := by
  have lt : x < y ↔ x.toModel.unpack.lt y.toModel.unpack = true :=
    ⟨of_decide_eq_true, decide_eq_true⟩
  rw [lt]
  exact beq_iff_eq

theorem le_iff_order : x ≤ y ↔ (order x y).any (·.isLE) = true :=
  ⟨of_decide_eq_true, decide_eq_true⟩

theorem order_swap (x y : Float) : order y x = (order x y).map Ordering.swap :=
  compare_swap _ _

theorem isSome_order (x y : Float) : (order x y).isSome = (!x.isNaN && !y.isNaN) :=
  isSome_compare _ _

/-- Nothing is below a double that is not a number, nor above it. -/
theorem not_lt_of_isNaN (improper : x.isNaN = true ∨ y.isNaN = true) : ¬ x < y := by
  have unordered : (order x y).isSome = false := by
    rw [isSome_order]
    rcases improper with left | right
    · rw [left]
      rfl
    · rw [right]
      exact Bool.and_false _
  intro below
  rw [lt_iff_order.mp below] at unordered
  cases unordered

/-- Of two numbers one is below the other, or the other is at most the one. -/
theorem lt_iff_not_le (left : x.isNaN = false) (right : y.isNaN = false) : x < y ↔ ¬ y ≤ x := by
  have ordered : (order x y).isSome = true := by
    rw [isSome_order, left, right]
    rfl
  obtain ⟨relation, known⟩ := Option.isSome_iff_exists.mp ordered
  rw [lt_iff_order, le_iff_order, order_swap x y, known]
  cases relation <;> decide

/-! ## The greatest doubles -/

def infinity : Float := 1.0 / 0.0

/-- What is not below zero is above negative infinity. -/
theorem neg_infinity_lt (nonneg : 0.0 ≤ x) : -infinity < x := by
  rw [le_iff_order] at nonneg
  rw [lt_iff_order]
  change (UnpackedFloat.compare (.zero .positive) x.toModel.unpack).any _ = true at nonneg
  change UnpackedFloat.compare (.infinity .negative) x.toModel.unpack = some .lt
  revert nonneg
  cases x.toModel.unpack with
  | notANumber => exact nofun
  | zero => exact fun _ => rfl
  | infinity side | finite side =>
      cases side with
      | negative => exact nofun
      | positive => exact fun _ => rfl

/-- What does not exceed one is below infinity. -/
theorem lt_infinity (le : x ≤ 1.0) : x < infinity := by
  rw [le_iff_order] at le
  rw [lt_iff_order]
  change UnpackedFloat.compare x.toModel.unpack (.infinity .positive) = some .lt
  revert le
  change (UnpackedFloat.compare x.toModel.unpack (.finite .positive _ _ _)).any _ = true → _
  cases x.toModel.unpack with
  | notANumber => exact nofun
  | zero => exact fun _ => rfl
  | finite side => cases side <;> exact fun _ => rfl
  | infinity side =>
      cases side with
      | negative => exact fun _ => rfl
      | positive => exact nofun

end RiskGate.Decimal
