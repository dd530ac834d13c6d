import ArrivalRamp.Proofs.Decimal.Numeral
import ArrivalRamp.Proofs.Tally.Conservation
import ArrivalRamp.Proofs.Tally.Requests

/-!
The tags of a tally that takes its events from labels. Each is the text that starts every tag and one
word, and stands in its place once.
-/

namespace ArrivalRamp

/-- A word of letters and digits. -/
def IsWord (word : String) : Prop :=
  ∀ character ∈ word.toList, character.isAlphanum

instance (word : String) : Decidable (IsWord word) :=
  decidable_of_iff _ (List.all_eq_true (p := Char.isAlphanum))

/-- No mark stands in a word. -/
theorem IsWord.notMem {word : String} (own : IsWord word) {mark : Char}
    (outside : mark.isAlphanum = false) : mark ∉ word.toList := by
  intro inside
  rw [own mark inside] at outside
  cases outside

theorem isWord_natural (value : ℕ) : IsWord (Decimal.natural value) := by
  intro digit inside
  rw [Decimal.natural, String.toList_ofList] at inside
  simp [Char.isAlphanum, Decimal.isDigit_of_mem_digits inside]

/-- A tag of a label: the text that starts every tag, and one word. -/
def IsTag (tag : String) : Prop :=
  ∃ word, tag = StageLabel.tagStart ++ word ∧ IsWord word

theorem isTag_label (profile : Profile) (stage : Option ℕ) : IsTag (profile.label stage).tag := by
  have unknown : IsTag StageLabel.unknown.tag := ⟨"unknown", rfl, by decide⟩
  have known (index target : ℕ) : IsTag (StageLabel.known index target).tag :=
    ⟨Decimal.natural target, rfl, isWord_natural target⟩
  unfold Profile.label
  cases stage with
  | none => exact unknown
  | some index =>
      cases found : profile.target? index with
      | none => simpa only [found] using unknown
      | some target => simpa only [found] using known index target

theorem RunEvent.IsLabelled.isTag {event : RunEvent} (labelled : event.IsLabelled) :
    IsTag event.tag := by
  cases event with
  | request stage target duration status error =>
      obtain ⟨profile, index, rfl, -⟩ := labelled
      exact isTag_label profile index
  | dropped stage =>
      obtain ⟨profile, index, rfl⟩ := labelled
      exact isTag_label profile index

namespace Tally

/-- A tally of events from labels, one after another or merged. -/
inductive IsFed : Tally → Prop
  | empty : IsFed .empty
  | add {tally : Tally} {event : RunEvent} (fed : IsFed tally) (labelled : event.IsLabelled) :
      IsFed (tally.add event)
  | absorb {tally other : Tally} (fed : IsFed tally) (otherFed : IsFed other) :
      IsFed (tally.absorb other)

namespace IsFed

variable {tally : Tally} (fed : tally.IsFed)

include fed

theorem isFiled : tally.IsFiled := by
  induction fed with
  | empty => exact isFiled_empty
  | add _ _ filed => exact filed.add _
  | absorb _ _ filed otherFiled => exact filed.absorb otherFiled

theorem isTag : ∀ stage ∈ tally.stages, IsTag stage.1 := by
  induction fed with
  | empty => exact List.forall_mem_nil _
  | add fed labelled tags =>
      rw [stages_add]
      exact Ledger.forall_mem_alter (fun tag _ => IsTag tag) tags labelled.isTag fun _ own => own
  | absorb _ _ tags otherTags =>
      rw [stages_absorb]
      exact Ledger.forall_mem_merge absorbStage (fun tag _ => IsTag tag) tags otherTags
        (fun _ _ own => own) fun _ _ _ own _ => own

theorem statusCodes_isSorted : tally.statusCodes.IsSorted := by
  induction fed with
  | empty => exact List.Pairwise.nil
  | @add tally event _ _ sorted =>
      cases event with
      | dropped stage => exact sorted
      | request stage target duration status error =>
        cases status with
        | none => exact sorted
        | some code => exact sorted.alter code _
  | @absorb tally other _ _ sorted _ =>
      exact sorted.merge (fun value found => found.getD 0 + value) other.statusCodes

end IsFed

end Tally

/-- Merged tallies of events from labels are fed from labels. -/
theorem ShardedTally.isFed_merge {events : List (ℕ × RunEvent)}
    (labelled : ∀ event ∈ events, event.2.IsLabelled) (count : ℕ) :
    ((ofCount count).addAll events).merge.IsFed :=
  merge_induction .empty (fun event inside _ fed => fed.add (labelled event inside))
    (fun _ _ => .absorb) count

end ArrivalRamp
