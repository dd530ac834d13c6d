import ArrivalRamp.Proofs.Binary64.Rounding

/-!
Machine numbers that mean no number. They are in no order with any machine number, and what is
computed from them means no number either.
-/

namespace ArrivalRamp.Binary64

open Float.Model

variable {number : Float}

theorem isNaN_iff : number.isNaN ↔ number.toModel.unpack = .notANumber := by
  unfold Float.isNaN Float.Model.isNaN
  cases number.toModel.unpack <;> simp [UnpackedFloat.isNaN]

/-- Parts of no number are compared with nothing. -/
theorem compare_notANumber (parts : UnpackedFloat) :
    UnpackedFloat.compare .notANumber parts = none ∧
      UnpackedFloat.compare parts .notANumber = none := by
  cases parts <;> exact ⟨rfl, rfl⟩

theorem not_lt_of_compare_eq_none {left right : Float}
    (apart : left.toModel.unpack.compare right.toModel.unpack = none) : ¬left < right := by
  simp [lt_iff_parts, UnpackedFloat.lt, apart]

theorem not_le_of_compare_eq_none {left right : Float}
    (apart : left.toModel.unpack.compare right.toModel.unpack = none) : ¬left ≤ right := by
  simp [le_iff_parts, UnpackedFloat.le, apart]

section Order

variable (notANumber : number.isNaN) (other : Float)

include notANumber

theorem not_lt_of_isNaN : ¬number < other ∧ ¬other < number := by
  rw [isNaN_iff] at notANumber
  constructor <;> apply not_lt_of_compare_eq_none <;> rw [notANumber]
  · exact (compare_notANumber _).1
  · exact (compare_notANumber _).2

theorem not_le_of_isNaN : ¬number ≤ other ∧ ¬other ≤ number := by
  rw [isNaN_iff] at notANumber
  constructor <;> apply not_le_of_compare_eq_none <;> rw [notANumber]
  · exact (compare_notANumber _).1
  · exact (compare_notANumber _).2

theorem isNaN_sub : (number - other).isNaN := by
  rw [isNaN_iff] at notANumber ⊢
  change (Float.Model.pack (UnpackedFloat.sub _ number.toModel.unpack _)).unpack = _
  rw [notANumber, UnpackedFloat.sub]
  rfl

omit other in
theorem isNaN_abs : number.abs.isNaN := by
  rw [isNaN_iff] at notANumber ⊢
  change (Float.Model.pack number.toModel.unpack.abs).unpack = _
  rw [notANumber]
  rfl

end Order

end ArrivalRamp.Binary64
