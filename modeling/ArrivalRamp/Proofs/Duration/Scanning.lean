import ArrivalRamp.Duration.Elapsed
import ArrivalRamp.Proofs.Binary64.Counts
import ArrivalRamp.Proofs.Duration.Spelling

/-!
Elapsed times in texts: tokens among other text. A scan finds the tokens that stand between gaps
without digits, and no others, so their milliseconds add up, whatever the gaps and the order.
-/

namespace ArrivalRamp

/-- A text without a decimal digit of any script. It may be empty. -/
abbrev Text.Gap := { text : List Char // ∀ character ∈ text, Text.isDecimalDigit character = false }

namespace DurationToken

variable {token : DurationToken} {rest : List Char}

/-- No token starts with anything else than a digit. -/
theorem read_eq_none {text : List Char}
    (stops : ∀ character ∈ text.head?, Text.isDecimalDigit character = false) :
    read text = none := by
  unfold read
  simp [Text.takeWhile_eq_nil stops]

/-- A gap is passed over. -/
theorem scan_gap (gap : Text.Gap) (rest : List Char) : scan (gap ++ rest) = scan rest := by
  obtain ⟨gap, none⟩ := gap
  induction gap with
  | nil => rfl
  | cons first others ih =>
      rw [List.forall_mem_cons] at none
      have unread : read (first :: (others ++ rest)) = .none := read_eq_none (by simpa using none.1)
      change scan (first :: (others ++ rest)) = scan rest
      rw [scan]
      split
      · next found => rw [unread] at found; cases found
      · exact ih none.2

/-- A token is found before the rest of a text. -/
theorem scan_write_append (proper : token.IsProper)
    (apart : token.unit = .minute → rest.head? ≠ some 's') :
    scan (token.write ++ rest) = token :: scan rest := by
  have found := proper.read_append apart
  cases text : token.write ++ rest with
  | nil => simp [text, read] at found
  | cons first others =>
      rw [text] at found
      rw [scan]
      split
      · next same =>
        obtain ⟨rfl, rfl⟩ := Prod.mk.inj (Option.some.inj (found.symm.trans same))
        rfl
      · next same => rw [found] at same; cases same

end DurationToken

/-- A token in a text with the gap behind it. A gap behind a minute does not start with an `s`, which
would make milliseconds of the minutes. -/
structure TimeFragment where
  token : DurationToken
  gap : Text.Gap
  proper : token.IsProper
  apart : token.unit = .minute → gap.val.head? ≠ some 's'

namespace TimeFragment

/-- The characters of a token and of the gap behind it. -/
def write (fragment : TimeFragment) : List Char :=
  fragment.token.write ++ fragment.gap

/-- A gap with tokens and gaps behind it. -/
def interleave (start : Text.Gap) (fragments : List TimeFragment) : List Char :=
  start ++ fragments.flatMap write

/-- Fragments start with a digit. -/
theorem head?_flatMap_write_ne (fragments : List TimeFragment) :
    (fragments.flatMap write).head? ≠ some 's' := by
  cases fragments with
  | nil => simp
  | cons fragment fragments =>
      obtain ⟨digit, digits, same⟩ := List.exists_cons_of_ne_nil fragment.proper.nonempty
      have decimal := fragment.proper.ascii digit (by simp [same])
      rw [List.flatMap_cons, write, DurationToken.write, same]
      rintro ⟨rfl⟩
      cases decimal

/-- The gap behind a minute keeps it apart from all that follows. -/
theorem apart_append (fragment : TimeFragment) (fragments : List TimeFragment)
    (minute : fragment.token.unit = .minute) :
    (fragment.gap ++ fragments.flatMap write).head? ≠ some 's' := by
  have own := fragment.apart minute
  cases gap : fragment.gap.val with
  | nil => exact head?_flatMap_write_ne fragments
  | cons first others =>
      rw [gap] at own
      exact own

/-- The scan of an interleaved text finds its tokens. -/
theorem scan_interleave (start : Text.Gap) (fragments : List TimeFragment) :
    DurationToken.scan (interleave start fragments) = fragments.map token := by
  rw [interleave, DurationToken.scan_gap]
  induction fragments with
  | nil => rw [List.flatMap_nil, DurationToken.scan, List.map_nil]
  | cons fragment fragments ih =>
      rw [List.flatMap_cons, write, List.append_assoc,
        DurationToken.scan_write_append fragment.proper (fragment.apart_append fragments),
        DurationToken.scan_gap, ih, List.map_cons]

end TimeFragment

namespace Duration

/-- Milliseconds added up one after another are their sum, which stops at the greatest count. -/
theorem foldl_addCount (tokens : List DurationToken) {total : ℕ} (word : total ≤ Word.maxCount) :
    tokens.foldl (fun total token => Word.addCount total token.millis) total =
      min (total + (tokens.map DurationToken.millis).sum) Word.maxCount := by
  induction tokens generalizing total with
  | nil => exact (min_eq_left word).symm
  | cons token tokens ih =>
      rw [List.foldl_cons, ih (Word.addCount_le _ _), List.map_cons, List.sum_cons]
      exact Word.addCount_addCount _ _ _

theorem scanMillis_eq (text : String) :
    scanMillis text =
      min ((DurationToken.scan text.toList).map DurationToken.millis).sum Word.maxCount := by
  unfold scanMillis
  rw [foldl_addCount _ (Nat.zero_le _), Nat.zero_add]

end Duration

namespace Elapsed

theorem ofText_eq (start : Text.Gap) (fragments : List TimeFragment) :
    ofText (String.ofList (TimeFragment.interleave start fragments)) =
      Word.toFloat (min (fragments.map fun fragment => fragment.token.value).sum
        Word.maxCount) := by
  have values : (fragments.map TimeFragment.token).map DurationToken.millis =
      fragments.map fun fragment => fragment.token.value := by
    rw [List.map_map]
    exact List.map_congr_left fun fragment _ => fragment.proper.millis_eq
  rw [ofText, Duration.scanMillis_eq, String.toList_ofList, TimeFragment.scan_interleave, values]

/-- A text with tokens between gaps is the machine number nearest to the sum of their milliseconds,
which stops at the greatest count. Neither the gaps nor the order of the tokens count. A token whose
milliseconds no count can hold leaves the others as they are. A token alone has the milliseconds that
it has in a profile. -/
theorem ofText_interleave (start : Text.Gap) (fragments : List TimeFragment) :
    let text := String.ofList (TimeFragment.interleave start fragments)
    let sum := (fragments.map fun fragment => fragment.token.value).sum
    (ofText text = Word.toFloat (min sum Word.maxCount) ∧ (ofText text).isFinite ∧
      Binary64.rational (ofText text) = Binary64.nearest (min sum Word.maxCount : ℕ)) ∧
    (∀ (other : Text.Gap) (moved : List TimeFragment),
      (moved.map TimeFragment.token).Perm (fragments.map TimeFragment.token) →
        ofText (String.ofList (TimeFragment.interleave other moved)) = ofText text) ∧
    (∀ before fragment after, fragments = before ++ fragment :: after →
      Word.maxCount < fragment.token.exactMillis →
        ofText (String.ofList (TimeFragment.interleave start (before ++ after))) = ofText text) ∧
    ∀ token : DurationToken, token.IsProper →
      ofText (String.ofList token.write) =
        Word.toFloat (Duration.tokenMillis (String.ofList token.write)) := by
  intro text sum
  have nearest : ofText text = Word.toFloat (min sum Word.maxCount) := ofText_eq start fragments
  have word : min sum Word.maxCount ≤ Word.maxCount := min_le_right _ _
  refine ⟨⟨nearest, ?_, ?_⟩, ?_, ?_, ?_⟩
  · rw [nearest]
    exact Binary64.isFinite_toFloat word
  · rw [nearest]
    exact Binary64.rational_toFloat word
  · intro other moved permutation
    have values := (permutation.map DurationToken.value).sum_nat
    rw [List.map_map, List.map_map] at values
    rw [nearest, ofText_eq]
    exact congrArg (fun sum => Word.toFloat (min sum Word.maxCount)) values
  · rintro before fragment after rfl great
    have same : sum = ((before ++ after).map fun fragment => fragment.token.value).sum := by
      simp [sum, DurationToken.value_of_lt great]
    rw [nearest, ofText_eq, same]
  · intro token proper
    have alone : token.write = TimeFragment.interleave ⟨[], by simp⟩
        [⟨token, ⟨[], by simp⟩, proper, by simp⟩] := by
      simp [TimeFragment.interleave, TimeFragment.write]
    have millis : Duration.tokenMillis (String.ofList token.write) = token.value := by
      unfold Duration.tokenMillis
      rw [String.toList_ofList, proper.ofText?_write]
      exact proper.millis_eq
    have word : token.value ≤ Word.maxCount := proper.millis_eq ▸ token.millis_le
    rw [millis, alone, ofText_eq, List.map_singleton, List.sum_singleton, min_eq_left word]

/-- Two minutes, more hours than a count of milliseconds can hold, and half a minute. -/
def endlessWait : List TimeFragment :=
  [⟨⟨['2'], .minute⟩, ⟨[' '], List.forall_mem_singleton.mpr (by decide)⟩,
      ⟨by decide, List.all_eq_true.mp rfl⟩, by decide⟩,
    ⟨⟨List.replicate 16 '9', .hour⟩, ⟨['s'], List.forall_mem_singleton.mpr (by decide)⟩,
      ⟨by decide, List.all_eq_true.mp rfl⟩, by decide⟩,
    ⟨⟨['0', '3', '0'], .second⟩, ⟨[], List.forall_mem_nil _⟩,
      ⟨by decide, List.all_eq_true.mp rfl⟩, by decide⟩]

theorem ofText_interleave_endlessWait :
    (endlessWait.reverse.map TimeFragment.token).Perm (endlessWait.map TimeFragment.token) ∧
      Word.maxCount < endlessWait[1].token.exactMillis ∧
      endlessWait[0].token.IsProper ∧
      ofText "2m 9999999999999999hs030s" = Word.toFloat 150000 ∧
      ofText "030s9999999999999999hs2m " = Word.toFloat 150000 ∧
      ofText "2m 030s" = Word.toFloat 150000 ∧
      ofText "2m" = Word.toFloat (Duration.tokenMillis "2m") := by
  let start : Text.Gap := ⟨[], List.forall_mem_nil _⟩
  obtain ⟨⟨nearest, -, -⟩, moved, removed, alone⟩ := ofText_interleave start endlessWait
  have permutation := (List.reverse_perm endlessWait).map TimeFragment.token
  have great : Word.maxCount < endlessWait[1].token.exactMillis := by decide +kernel
  have proper := endlessWait[0].proper
  have swapped := moved start endlessWait.reverse permutation
  have shortened := removed [endlessWait[0]] endlessWait[1] [endlessWait[2]] rfl great
  have single := alone endlessWait[0].token proper
  rw [nearest] at swapped shortened
  have sum :
      min (endlessWait.map fun fragment => fragment.token.value).sum Word.maxCount = 150000 := by
    decide +kernel
  rw [sum] at nearest swapped shortened
  have whole : String.ofList (TimeFragment.interleave start endlessWait) =
      "2m 9999999999999999hs030s" := by decide +kernel
  have turned : String.ofList (TimeFragment.interleave start endlessWait.reverse) =
      "030s9999999999999999hs2m " := by decide +kernel
  have short : String.ofList (TimeFragment.interleave start ([endlessWait[0]] ++ [endlessWait[2]])) =
      "2m 030s" := by decide +kernel
  have minutes : String.ofList endlessWait[0].token.write = "2m" := by decide +kernel
  rw [whole] at nearest
  rw [turned] at swapped
  rw [short] at shortened
  rw [minutes] at single
  exact ⟨permutation, great, proper, nearest, swapped, shortened, single⟩

end Elapsed

end ArrivalRamp
