import ArrivalRamp.Proofs.Binary64.Operations
import ArrivalRamp.Proofs.Report.Verdicts
import ArrivalRamp.Proofs.Tally.Conservation

/-!
The rate of refused requests. A report does not count them, but takes the accepted answers away from
the requests in all. The rate is theirs nevertheless, in one tally as well as in merged ones.
-/

namespace ArrivalRamp

open Binary64

section Share

variable {part other whole : ℕ}

/-- The share of a part is a quotient of counts, each of them rounded, and rounded again. -/
theorem rational_share_of_le (within : part ≤ whole) (word : whole ≤ Word.maxCount) :
    (share part whole).isFinite ∧
      rational (share part whole) = rounded (nearest part / nearest whole) := by
  rcases Nat.eq_zero_or_pos whole with rfl | positive
  · exact ⟨isFinite_zero, by simp [share, rounded_zero]⟩
  have partWord := within.trans word
  have wholePositive := toFloat_pos positive word
  rw [rational_lt_iff isFinite_zero (isFinite_toFloat word), rational_zero] at wholePositive
  have most : nearest part / nearest whole ≤ (1 : ℚ) := by
    rw [rational_toFloat word] at wholePositive
    exact (div_le_one wholePositive).mpr (nearest_natCast_mono within)
  have least : 0 ≤ nearest part / nearest whole :=
    div_nonneg (nearest_nonneg part.cast_nonneg) (nearest_nonneg whole.cast_nonneg)
  have small : |nearest part / nearest whole| ≤ 2 ^ 0 := by
    rw [abs_of_nonneg least, pow_zero]
    exact most
  have quotient := rational_div (isFinite_toFloat partWord) (isFinite_toFloat word)
    wholePositive.ne' (abs_rounded_lt_bound 0 (by rwa [rational_toFloat partWord,
      rational_toFloat word]) (by decide))
  rw [rational_toFloat partWord, rational_toFloat word] at quotient
  simpa only [share, if_pos positive] using quotient

/-- Of two parts of a whole, the smaller one has the smaller share. -/
theorem share_mono (ordered : part ≤ other) (within : other ≤ whole)
    (word : whole ≤ Word.maxCount) : share part whole ≤ share other whole := by
  obtain ⟨partFinite, partEq⟩ := rational_share_of_le (ordered.trans within) word
  obtain ⟨otherFinite, otherEq⟩ := rational_share_of_le within word
  rw [rational_le_iff partFinite otherFinite, partEq, otherEq]
  apply rounded_mono
  exact div_le_div_of_nonneg_right (nearest_natCast_mono ordered)
    (nearest_nonneg whole.cast_nonneg)

/-- A share lies between zero and one. -/
theorem share_mem (within : part ≤ whole) (word : whole ≤ Word.maxCount) :
    0.0 ≤ share part whole ∧ share part whole ≤ 1 := by
  obtain ⟨finite, same⟩ := rational_share_of_le within word
  rw [zero_le_iff_rational finite, rational_le_iff finite isFinite_one, rational_one, same]
  refine ⟨rounded_nonneg ?_, (rounded_mono ?_).trans_eq rounded_one⟩
  · exact div_nonneg (nearest_nonneg part.cast_nonneg) (nearest_nonneg whole.cast_nonneg)
  · exact div_le_one_of_le₀ (nearest_natCast_mono within) (nearest_nonneg whole.cast_nonneg)

end Share

namespace RunEvent

/-- A status code from 200 to 399 accepts a request. -/
def accepts (code : ℕ) : Bool :=
  200 ≤ code && code ≤ 399

/-- The requests of an event that have no status, or one that does not accept them. -/
def refusals : RunEvent → ℕ
  | .request _ _ _ status _ => countIf (!status.any accepts)
  | .dropped _ => 0

theorem refusals_add_answers (event : RunEvent) :
    event.refusals + event.answers accepts = event.requests := by
  cases event with
  | dropped stage => rfl
  | request stage target duration status error =>
      cases status with
      | none => rfl
      | some code => cases wanted : accepts code <;> simp [refusals, answers, requests, countIf, wanted]

/-- A refused request fails its check. -/
theorem refusals_le_failures (event : RunEvent) : event.refusals ≤ event.failures := by
  cases event with
  | dropped stage => exact le_rfl
  | request stage target duration status error =>
      cases status with
      | none => exact le_rfl
      | some code =>
          simp only [refusals, failures, countIf, accepts, passesCheck, Option.any_some]
          grind

end RunEvent

namespace Report

/-- The accepted answers of a report. -/
def accepted (report : Report) : ℕ :=
  Ledger.total (report.statusCodes.filter fun code => RunEvent.accepts code.1)

theorem failedRequests_eq (report : Report) :
    report.failedRequests = report.total - report.accepted := by
  have upTo (code : ℕ) : decide (code < 400) = decide (code ≤ 399) :=
    decide_eq_decide.mpr Nat.lt_succ_iff
  simp only [failedRequests, accepted, RunEvent.accepts, upTo]

/-- All that is compared with a limit on this metric is one share. -/
theorem eq_share_of_value? {report : Report} {aggregation : String} {percentile : Option Float}
    {actual : Float} (found : report.value? "http_req_failed" aggregation percentile = some actual) :
    actual = share report.failedRequests report.total := by
  unfold value? at found
  split at found <;> simp_all

/-- A rate is that of the refused requests of some events, and the report compares it with the limits
on the metric. It is the quotient of their number by that of the requests in all, or zero when there
are none. No more answers are accepted than there are requests, so that nothing is cut off when they
are taken away. As long as a word can hold the requests, the rate lies between zero and one, and it
is no greater than the rate of failed checks. -/
structure RatesRefusals (report : Report) (events : List RunEvent) (rate : Float) : Prop where
  value : report.value? "http_req_failed" "rate" none = some rate
  compares : ∀ expression criterion, criterion.IsSpelled expression.toList →
    Decimal.IsSigned Char.isDigit criterion.limit → criterion.aggregation = "rate".toList →
      criterion.number = none → report.Compares "http_req_failed" expression criterion rate
  compared : ∀ expression criterion actual,
    report.Compares "http_req_failed" expression criterion actual → actual = rate
  total : report.total = (events.map RunEvent.requests).sum
  quotient : rate = if report.total = 0 then 0.0
    else Word.toFloat (events.map RunEvent.refusals).sum / Word.toFloat report.total
  conserved : report.accepted + report.failedRequests = report.total
  mem : report.total ≤ Word.maxCount → 0.0 ≤ rate ∧ rate ≤ 1
  le_checkFailRate : report.total ≤ Word.maxCount → rate ≤ report.checkFailRate

end Report

/-- A measured tally rates the refusals that its events bring. -/
theorem Tally.ratesRefusals_of_counts {events : List RunEvent} {tally : Tally}
    (counted : ∀ {measure gain}, Counts measure gain → measure tally = (events.map gain).sum) :
    tally.report.RatesRefusals events
      (share (events.map RunEvent.refusals).sum (events.map RunEvent.requests).sum) := by
  have total : tally.report.total = (events.map RunEvent.requests).sum := counted .total
  have failed : tally.failed = (events.map RunEvent.failures).sum := counted .failed
  have accepted : tally.report.accepted = (events.map (RunEvent.answers RunEvent.accepts)).sum := by
    rw [← counted (.answers RunEvent.accepts), answers_eq_total]
    rfl
  have split : (events.map RunEvent.refusals).sum + tally.report.accepted = tally.report.total := by
    rw [accepted, total, ← List.sum_map_add]
    exact congrArg List.sum (List.map_congr_left fun event _ => event.refusals_add_answers)
  have refused : tally.report.failedRequests = (events.map RunEvent.refusals).sum := by
    rw [Report.failedRequests_eq]
    omega
  have fewer : (events.map RunEvent.refusals).sum ≤ tally.failed := by
    rw [failed]
    exact List.sum_le_sum fun event _ => event.refusals_le_failures
  have within : tally.failed ≤ tally.report.total := by
    rw [failed, total]
    refine List.sum_le_sum fun event _ => ?_
    exact Nat.le.intro event.failures_add_answers
  have value : tally.report.value? "http_req_failed" "rate" none =
      some (share (events.map RunEvent.refusals).sum tally.report.total) := by
    rw [← refused]
    rfl
  rw [← total]
  refine ⟨value, ?_, ?_, total, ?_, by omega, ?_, ?_⟩
  · intro expression criterion spelled limit word plain
    refine ⟨spelled, limit, ?_⟩
    rwa [word, String.ofList_toList, Criterion.percentile?, plain]
  · intro expression criterion actual compares
    rw [← refused]
    exact Report.eq_share_of_value? compares.value
  · rcases Nat.eq_zero_or_pos tally.report.total with none | some
    · rw [if_pos none, share, if_neg (by omega)]
    · rw [if_neg some.ne', share, if_pos some]
  · exact share_mem (fewer.trans within)
  · exact share_mono fewer within

namespace ShardedTally

/-- The rate of refused requests is the same in one tally of some events and in the merged tallies of
any number of shards, whichever users the events are of and in whatever order they come. -/
theorem exists_refusalRate (events : List RunEvent) :
    ∃ rate, (Tally.empty.addAll events).report.RatesRefusals events rate ∧
      ∀ count assigned, (assigned.map Prod.snd).Perm events →
        ((ofCount count).addAll assigned).merge.report.RatesRefusals events rate := by
  refine ⟨_, Tally.ratesRefusals_of_counts ?_, ?_⟩
  · intro measure gain counts
    rw [counts.addAll, counts.empty, Nat.zero_add]
  · intro count assigned permutation
    apply Tally.ratesRefusals_of_counts
    intro measure gain counts
    rw [counts.merge_addAll, merge_ofCount, counts.empty, Nat.zero_add]
    exact (permutation.map gain).sum_eq

/-- A redirection, which fails its check and is not refused, a refused request, an arrival that is
dropped, and a request without an answer. -/
def redirected : List (ℕ × RunEvent) :=
  [(0, .request "rps-5" "5" ⟨2000000⟩ (some 302) none),
    (1, .request "rps-5" "5" ⟨3000000⟩ (some 503) none), (2, .dropped "rps-5"),
    (0, .request "rps-5" "5" ⟨4000000⟩ none (some "timeout"))]

theorem exists_refusalRate_redirected :
    let events := (redirected.map Prod.snd).reverse
    let report := (Tally.empty.addAll events).report
    (redirected.map Prod.snd).Perm events ∧ report.total ≤ Word.maxCount ∧
      ∃ rate, report.RatesRefusals events rate ∧
        ((ofCount 2).addAll redirected).merge.report.RatesRefusals events rate ∧
        rate = Word.toFloat 2 / Word.toFloat 3 ∧ 0.0 ≤ rate ∧ rate ≤ 1 ∧
        rate ≤ report.checkFailRate := by
  intro events report
  have permutation : (redirected.map Prod.snd).Perm events := (List.reverse_perm _).symm
  have word : report.total ≤ Word.maxCount := by decide
  obtain ⟨rate, single, merged⟩ := exists_refusalRate events
  exact ⟨permutation, word, rate, single, merged 2 redirected permutation, single.quotient,
    (single.mem word).1, (single.mem word).2, single.le_checkFailRate word⟩

end ShardedTally

end ArrivalRamp
