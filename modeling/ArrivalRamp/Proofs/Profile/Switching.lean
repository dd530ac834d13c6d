import ArrivalRamp.Proofs.Duration.Millis
import ArrivalRamp.Proofs.Profile.StageAt

/-!
The instants at which one stage gives way to the next. The stage after a span is the one that its
whole nanoseconds tell, so that no stage begins early or late, and none comes back.
-/

namespace ArrivalRamp.Profile

variable (profile : Profile) {left right : ℕ → Bool} {index : ℕ}

/-- A search depends only on what is wanted of counts that a word can hold. -/
theorem findIdx?_boundaries_congr (same : ∀ boundary ≤ Word.maxCount, left boundary = right boundary) :
    profile.boundaries.findIdx? left = profile.boundaries.findIdx? right := by
  have agree : ∀ position boundary, profile.boundary? position = some boundary →
      left boundary = right boundary := by
    intro position boundary found
    obtain ⟨-, rfl⟩ := profile.boundary?_eq_some_iff.mp found
    exact same _ (profile.elapsedAfter_le _)
  apply Option.ext
  intro index
  simp only [findIdx?_boundaries_eq_some_iff]
  grind

/-- Where more is wanted, the first end that is wanted comes no later. -/
theorem findIdx?_boundaries_mono (more : ∀ boundary, left boundary → right boundary)
    (found : profile.boundaries.findIdx? left = some index) :
    ∃ first ≤ index, profile.boundaries.findIdx? right = some first := by
  obtain ⟨⟨boundary, ended, holds⟩, -⟩ := profile.findIdx?_boundaries_eq_some_iff.mp found
  cases search : profile.boundaries.findIdx? right with
  | none =>
      have unwanted := Array.findIdx?_eq_none_iff.mp search boundary (Array.mem_of_getElem? ended)
      rw [more boundary holds] at unwanted
      cases unwanted
  | some first =>
      refine ⟨first, ?_, rfl⟩
      by_contra later
      have before := (profile.findIdx?_boundaries_eq_some_iff.mp search).2 index (not_le.mp later)
      exact before boundary ended (more boundary holds)

/-- The stage after a span is the first whose end is still to come in whole nanoseconds. -/
theorem stageAfter?_eq_findIdx? {span : Span} (brief : span.nanos < 2 ^ 34 * 1000000) :
    profile.stageAfter? span =
      profile.boundaries.findIdx? fun boundary => span.nanos < boundary * 1000000 := by
  have finite := (Span.rational_toMillis (Span.lt_of_short brief)).1
  have started : ¬span.toMillis < 0.0 := by
    rw [← Binary64.toFloat_zero, Span.toMillis_lt_toFloat_iff brief (Nat.zero_le _)]
    omega
  have scan : profile.stageAfter? span =
      profile.boundaries.findIdx? fun boundary => span.toMillis < Word.toFloat boundary := by
    simp [stageAfter?, stageAt?_eq_scanStageAt?, scanStageAt?, finite, started]
  rw [scan]
  apply findIdx?_boundaries_congr
  intro boundary word
  rw [decide_eq_decide, Span.toMillis_lt_toFloat_iff brief word]

/-- The stages switch at their ends to the nanosecond. The stage after a span is the first whose end
is still to come in whole nanoseconds, if there is one. A longer span is in no earlier stage, and in
none where a shorter one is past all of them. -/
theorem switches_exactly (profile : Profile) {span : Span}
    (brief : span.nanos < 2 ^ 34 * 1000000) :
    profile.stageAfter? span =
        (profile.boundaries.findIdx? fun boundary => span.nanos < boundary * 1000000) ∧
      ∀ later : Span, span.nanos ≤ later.nanos → later.nanos < 2 ^ 34 * 1000000 →
        (∀ index next, profile.stageAfter? span = some index →
          profile.stageAfter? later = some next → index ≤ next) ∧
        (profile.stageAfter? span = none → profile.stageAfter? later = none) := by
  refine ⟨profile.stageAfter?_eq_findIdx? brief, ?_⟩
  intro later ordered laterBrief
  have back : ∀ next, profile.stageAfter? later = some next →
      ∃ first ≤ next, profile.stageAfter? span = some first := by
    intro next found
    rw [profile.stageAfter?_eq_findIdx? laterBrief] at found
    rw [profile.stageAfter?_eq_findIdx? brief]
    refine profile.findIdx?_boundaries_mono ?_ found
    intro boundary running
    exact decide_eq_true (ordered.trans_lt (of_decide_eq_true running))
  constructor
  · intro index next active activeLater
    obtain ⟨first, ordered, found⟩ := back next activeLater
    obtain rfl := Option.some.inj (active.symm.trans found)
    exact ordered
  · intro past
    rw [Option.eq_none_iff_forall_ne_some]
    intro next found
    obtain ⟨first, -, active⟩ := back next found
    rw [past] at active
    cases active

/-- A stage that ends at an odd millisecond, and one whose length is no exact machine number. -/
def oddStages : Profile :=
  ofPairs [(1, "1001ms"), (2, "9007199254740993ms")]

/-- The last nanosecond of the first stage and the first one of the second are apart. -/
theorem switches_exactly_oddStages :
    1000999999 < 2 ^ 34 * 1000000 ∧ 1000999999 ≤ 1001000000 ∧ 1001000000 < 2 ^ 34 * 1000000 ∧
      oddStages.stageAfter? ⟨1000999999⟩ = some 0 ∧ oddStages.stageAfter? ⟨1001000000⟩ = some 1 := by
  have brief : (⟨1000999999⟩ : Span).nanos < 2 ^ 34 * 1000000 := by decide
  have laterBrief : (⟨1001000000⟩ : Span).nanos < 2 ^ 34 * 1000000 := by decide
  have ends : oddStages.boundaries = #[1001, 9007199254741994] := by decide
  refine ⟨brief, by decide, laterBrief, ?_, ?_⟩
  · simp [(oddStages.switches_exactly brief).1, ends, List.findIdx?_cons]
  · simp [(oddStages.switches_exactly laterBrief).1, ends, List.findIdx?_cons]

end ArrivalRamp.Profile
