import ArrivalRamp.Proofs.Decimal.Numeral
import ArrivalRamp.Proofs.Text.Trimming
import ArrivalRamp.Tally.Basic

/-!
The tag of a label tells its target.
-/

namespace ArrivalRamp

namespace Tally

theorem targetOfTag_tagStart {target : String} (different : target.toList.head? ≠ some 'r') :
    targetOfTag (StageLabel.tagStart ++ target) = target := by
  unfold targetOfTag
  rw [String.toList_append]
  have start : StageLabel.tagStart.toList = ['r', 'p', 's', '-'] := by decide
  have apart : ¬['r', 'p', 's', '-'] <+: target.toList := by
    rintro ⟨rest, same⟩
    rw [← same] at different
    exact different rfl
  rw [start, Text.trimStarts_append apart, String.ofList_toList]

/-- The target that the tag of a label names is the one of the label. -/
theorem targetOfTag_label (profile : Profile) (stage : Option ℕ) :
    targetOfTag (profile.label stage).tag = (profile.label stage).target := by
  have unknown : targetOfTag StageLabel.unknown.tag = StageLabel.unknown.target :=
    targetOfTag_tagStart (by decide)
  have known : ∀ index target, targetOfTag (StageLabel.known index target).tag =
      (StageLabel.known index target).target := by
    intro index target
    apply targetOfTag_tagStart
    intro head
    change (Decimal.natural target).toList.head? = some 'r' at head
    rw [Decimal.natural, String.toList_ofList] at head
    have digit := Decimal.isDigit_of_mem_digits (List.mem_of_head? head)
    exact absurd digit (by decide)
  unfold Profile.label
  cases stage with
  | none => exact unknown
  | some index =>
      cases found : profile.target? index with
      | none => simpa only [found] using unknown
      | some target => simpa only [found] using known index target

end Tally

end ArrivalRamp
