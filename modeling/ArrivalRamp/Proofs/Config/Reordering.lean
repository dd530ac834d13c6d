import ArrivalRamp.Proofs.Config.Judgement
import ArrivalRamp.Proofs.Ledger
import ArrivalRamp.Proofs.Report.Verdicts
import ArrivalRamp.Request.Template

/-!
The order in which a configuration gives its headers, criteria and tags is not seen. Requests, the
tags of a run and the lines about its criteria are the same in every order.
-/

namespace ArrivalRamp

/-- Entries of different names in two orders. -/
structure IsReordering {Value : Type} (entries others : List (String × Value)) : Prop where
  same : entries.Perm others
  unique : (entries.map Prod.fst).Nodup

namespace IsReordering

/-- A dictionary that is left out has no entries. -/
theorem getD {Value : Type} {entries others : Option (List (String × Value))}
    (reordering : Option.Rel IsReordering entries others) :
    IsReordering (entries.getD []) (others.getD []) := by
  cases reordering with
  | some reordering => exact reordering
  | none => exact ⟨List.Perm.nil, List.nodup_nil⟩

theorem ofList_append {entries others : List (String × String)}
    (reordering : IsReordering entries others) (before : List (String × String)) :
    Ledger.ofList (before ++ entries) = Ledger.ofList (before ++ others) := by
  unfold Ledger.ofList
  rw [List.foldl_append, List.foldl_append,
    Ledger.foldl_insert_perm reordering.same reordering.unique]

/-- The lines about criteria depend on the names of the metrics and not on their order. -/
theorem failures_eq {criteria others : List (String × List String)}
    (reordering : IsReordering criteria others) (report : Report) :
    report.failures criteria = report.failures others := by
  obtain ⟨ordered, own, sorted, lines⟩ := report.exists_failures_eq criteria
  obtain ⟨moved, ownMoved, sortedMoved, linesMoved⟩ := report.exists_failures_eq others
  -- Both orders are sorted by names, which no two entries share.
  have equal : ordered = moved := by
    refine List.Perm.eq_of_pairwise (fun first second inside movedInside low high => ?_) sorted
      sortedMoved (own.trans (reordering.same.trans ownMoved.symm))
    have sameName : first.1 = second.1 :=
      le_antisymm (Text.le_iff_bytes_le.mpr low) (Text.le_iff_bytes_le.mpr high)
    refine List.inj_on_of_nodup_map reordering.unique (own.mem_iff.mp inside) ?_ sameName
    exact reordering.same.mem_iff.mpr (ownMoved.mem_iff.mp movedInside)
  rw [lines, linesMoved, equal]

end IsReordering

namespace RunSettings

/-- Settings of which a run does the same, whatever parser it has. -/
structure IsAlike (settings others : RunSettings) : Prop where
  plans : ∀ [UrlParser] label work nonce,
    (RequestTemplate.ofSettings settings).map (fun template => template.plan label work nonce) =
      (RequestTemplate.ofSettings others).map fun template => template.plan label work nonce
  tags : settings.runTags = others.runTags
  failures : ∀ report : Report, report.failures settings.criteria = report.failures others.criteria

end RunSettings

/-- Two configurations are the same but for the order of their headers, criteria and tags. -/
structure Config.IsReordered (config other : Config) : Prop where
  headers : Option.Rel IsReordering config.headers other.headers
  criteria : Option.Rel IsReordering config.criteria other.criteria
  tags : Option.Rel IsReordering config.tags other.tags
  rest : { config with headers := other.headers, criteria := other.criteria, tags := other.tags } =
    other

namespace RunSettings

variable {config other : Config}

theorem isAlike_resolve (reordered : config.IsReordered other) :
    (resolve config).IsAlike (resolve other) := by
  obtain ⟨headers, criteria, tags, rest⟩ := reordered
  have sameHeaders : Ledger.ofList (resolve config).headers = Ledger.ofList (resolve other).headers :=
    (IsReordering.getD headers).ofList_append []
  constructor
  case plans =>
    intro parser label work nonce
    rw [← rest] at sameHeaders ⊢
    unfold RequestTemplate.ofSettings
    rw [← sameHeaders]
    rfl
  case tags =>
    have sameTags := (IsReordering.getD tags).ofList_append
    rw [← rest] at sameTags ⊢
    exact sameTags _
  case failures => exact (IsReordering.getD criteria).failures_eq

/-- Configurations that differ in the order of their headers, criteria and tags are both refused for
the same problems, or both accepted with the same warnings. Then the same requests are planned for
each unit of work, with their headers in the same order, the run has the same tags, and every report
has the same lines about the criteria. -/
theorem ofConfig_ignores_order (reordered : config.IsReordered other) :
    (∃ invalid, ofConfig config = .error invalid ∧ ofConfig other = .error invalid) ∨
      ∃ settings others found, ofConfig config = .ok (settings, found) ∧
        ofConfig other = .ok (others, found) ∧ settings.IsAlike others := by
  have alike := isAlike_resolve reordered
  have problems : other.problems.filter (Problem.isFatal other.isStrict) =
      config.problems.filter (Problem.isFatal config.isStrict) := by
    rw [← reordered.rest]
    rfl
  have found : warnings other = warnings config := by
    rw [← reordered.rest]
    rfl
  unfold ofConfig
  rw [problems, found]
  cases config.problems.filter (Problem.isFatal config.isStrict) with
  | nil => exact .inr ⟨_, _, _, rfl, rfl, alike⟩
  | cons problem others => exact .inl ⟨_, rfl, rfl⟩

/-- A configuration of one stage with headers, criteria and tags. -/
def ofDictionaries (headers : List (String × String)) (criteria : List (String × List String))
    (tags : List (String × String)) : Config :=
  { Config.empty with
    baseUrl := some "http://localhost:8080"
    stages := some [⟨"1m", 5⟩]
    headers := some headers
    criteria := some criteria
    tags := some tags }

/-- Two headers whose names differ in their case, two metrics, and a tag in place of a default one. -/
theorem ofConfig_ignores_order_twoOrders :
    let config := ofDictionaries [("x-stage", "late"), ("X-Stage", "early")]
      [("http_req_failed", ["rate<0.1"]), ("check_fail_rate", ["rate>2", "fast"])]
      [("zone", "b"), ("app", "shop")]
    let other := ofDictionaries [("X-Stage", "early"), ("x-stage", "late")]
      [("check_fail_rate", ["rate>2", "fast"]), ("http_req_failed", ["rate<0.1"])]
      [("app", "shop"), ("zone", "b")]
    config.IsReordered other ∧
      (resolve config).IsAlike (resolve other) ∧
      ofConfig config = .ok (resolve config, []) ∧ ofConfig other = .ok (resolve other, []) ∧
      (resolve other).runTags =
        [("app", "shop"), ("env", "local"), ("lt", "rampclock"), ("zone", "b")] := by
  intro config other
  have reordered : config.IsReordered other :=
    ⟨.some ⟨List.Perm.swap _ _ _, by decide⟩, .some ⟨List.Perm.swap _ _ _, by decide⟩,
      .some ⟨List.Perm.swap _ _ _, by decide⟩, rfl⟩
  have clean : config.problems = [] := by decide +kernel
  have accepted : ofConfig config = .ok (resolve config, []) :=
    ofConfig_eq_ok_iff.mpr ⟨by simp [clean], rfl, by simp [clean]⟩
  rcases ofConfig_ignores_order reordered with ⟨_, refused, _⟩ | ⟨_, _, _, own, others, alike⟩
  · rw [accepted] at refused
    cases refused
  · obtain ⟨rfl, rfl⟩ := Prod.mk.inj (Except.ok.inj (accepted.symm.trans own))
    obtain ⟨-, rfl, -⟩ := ofConfig_eq_ok_iff.mp others
    exact ⟨reordered, alike, accepted, others, by decide +kernel⟩

end RunSettings

end ArrivalRamp
