import ArrivalRamp.Config.Settings
import ArrivalRamp.Proofs.Text.Runs
import ArrivalRamp.Url.Basic
import Mathlib.Tactic

/-!
Paths below an address. A scheme ends before the slash between them, and so does an authority, so a
path does not decide whether the joined text is a URL.
-/

namespace ArrivalRamp

section Stop

variable (holds : Char → Bool) (front : List Char) {mark : Char} (rest : List Char)

theorem takeWhile_append_stop (stops : holds mark = false) :
    (front ++ mark :: rest).takeWhile holds = front.takeWhile holds := by
  induction front with
  | nil => simp [stops]
  | cons first others ih =>
      rw [List.cons_append, List.takeWhile_cons, List.takeWhile_cons, ih]

theorem dropWhile_append_stop (stops : holds mark = false) :
    (front ++ mark :: rest).dropWhile holds = front.dropWhile holds ++ mark :: rest := by
  induction front with
  | nil => simp [stops]
  | cons first others ih =>
      rw [List.cons_append, List.dropWhile_cons, List.dropWhile_cons, ih]
      split_ifs <;> rfl

theorem drop_takeWhile_append :
    (front ++ rest).drop (front.takeWhile holds).length =
      front.drop (front.takeWhile holds).length ++ rest :=
  List.drop_append_of_le_length (List.takeWhile_sublist holds).length_le

/-- Trimming keeps a mark and leaves both sides apart. -/
theorem trim_append_stop (stops : holds mark = false) :
    Text.trim holds (front ++ mark :: rest) =
      Text.trimStart holds front ++ mark :: Text.trimEnd holds rest := by
  unfold Text.trim Text.trimStart Text.trimEnd
  rw [dropWhile_append_stop holds front rest stops, List.reverse_append, List.reverse_cons,
    List.append_assoc, List.singleton_append, dropWhile_append_stop holds _ _ stops,
    List.reverse_append, List.reverse_cons, List.reverse_reverse, List.append_assoc,
    List.singleton_append]

end Stop

/-- An address without the slashes at its end. -/
def addressOf (base : String) : String :=
  String.ofList (Text.trimEnd (· == '/') base.toList)

/-- A path is joined to an address behind a slash. -/
theorem exists_joinUrl_eq (base path : String) :
    ∃ rest, joinUrl base path = addressOf base ++ "/" ++ rest := by
  unfold joinUrl addressOf
  dsimp only
  split_ifs with root absolute
  · exact ⟨"", by simp⟩
  · obtain ⟨rest, same⟩ := String.startsWith_string_iff.mp absolute
    refine ⟨String.ofList rest, String.toList_inj.mp ?_⟩
    simp [← same]
  · exact ⟨path, rfl⟩

theorem joinUrl_root (base : String) : joinUrl base "/" = addressOf base ++ "/" := by
  simp [joinUrl, addressOf]

namespace Url

/-- The characters that count on one side of a slash do not depend on the other side. -/
theorem counted_append_slash {text : String} {front rest : List Char}
    (joined : text.toList = front ++ '/' :: rest) :
    counted text = (Text.trimStart isTrimmed front).filter isCounted ++
      '/' :: (Text.trimEnd isTrimmed rest).filter isCounted := by
  rw [counted, joined, trim_append_stop isTrimmed front rest (by decide), List.filter_append,
    List.filter_cons_of_pos (by decide)]

/-- A scheme ends before each character that is no part of one. -/
theorem scheme?_append (front : List Char) {mark : Char} (rest : List Char)
    (stops : isSchemeCharacter mark = false) (other : mark ≠ ':') :
    scheme? (front ++ mark :: rest) =
      (scheme? front).map fun found => (found.1, found.2 ++ mark :: rest) := by
  unfold scheme?
  dsimp only
  rw [takeWhile_append_stop _ front rest stops, drop_takeWhile_append]
  generalize front.takeWhile isSchemeCharacter = name
  generalize front.drop name.length = left
  rcases name with _ | ⟨first, others⟩
  · rfl
  rcases left with _ | ⟨next, inner⟩
  · simp [other]
  by_cases colon : next = ':'
  · subst colon
    by_cases letter : first.isAlpha <;> simp [letter]
  · simp [colon]

theorem not_isSchemeCharacter_of_isTrimmed {character : Char} (trimmed : isTrimmed character) :
    isSchemeCharacter character = false ∧ character ≠ ':' := by
  have each : ∀ code < 0x21,
      isSchemeCharacter (Char.ofNat code) = false ∧ Char.ofNat code ≠ ':' := by
    decide
  have low : character.toNat ≤ 0x20 := of_decide_eq_true trimmed
  have found := each character.toNat (Nat.lt_succ_of_le low)
  rwa [Char.ofNat_toNat] at found

/-- A path brings no scheme to an address. -/
theorem scheme?_joinUrl {base : String} (relative : scheme? (counted base) = none) (path : String) :
    scheme? (counted (joinUrl base path)) = none := by
  obtain ⟨rest, joined⟩ := exists_joinUrl_eq base path
  have text : (joinUrl base path).toList =
      Text.trimEnd (· == '/') base.toList ++ '/' :: rest.toList := by
    simp [joined, addressOf]
  rw [counted_append_slash text, scheme?_append _ _ (by decide) (by decide), Option.map_eq_none_iff]
  obtain ⟨slashes, whole, all⟩ := Text.exists_trimEnd_append (· == '/') base.toList
  generalize Text.trimEnd (· == '/') base.toList = front at *
  cases slashes with
  | cons slash slashes =>
      obtain rfl : slash = '/' := by simpa using all slash List.mem_cons_self
      rw [counted_append_slash whole.symm, scheme?_append _ _ (by decide) (by decide),
        Option.map_eq_none_iff] at relative
      exact relative
  | nil =>
      -- The blanks at the end of the address count once a path follows them.
      obtain ⟨blanks, start, trimmed⟩ :=
        Text.exists_trimEnd_append isTrimmed (Text.trimStart isTrimmed front)
      have own : counted base = (Text.trim isTrimmed front).filter isCounted := by
        rw [counted, ← whole, List.append_nil]
      rw [← start, List.filter_append]
      rw [own, Text.trim] at relative
      cases left : blanks.filter isCounted with
      | nil => rwa [List.append_nil]
      | cons first others =>
          have inside : first ∈ blanks := List.mem_of_mem_filter (left ▸ List.mem_cons_self)
          obtain ⟨stops, other⟩ := not_isSchemeCharacter_of_isTrimmed (trimmed first inside)
          rw [scheme?_append _ _ stops other, relative, Option.map_none]

end Url

namespace UrlParser.IsStandard

variable [UrlParser]

/-- An address without a scheme has none with each path. -/
theorem parse_joinUrl_of_relative (standard : IsStandard) {base : String}
    (relative : Url.scheme? (Url.counted base) = none) (path : String) :
    parse (joinUrl base path) = .error .relative :=
  standard.relative _ (Url.scheme?_joinUrl relative path)

/-- A web address that is complete without a path is complete with each path. -/
theorem parse_joinUrl_of_complete (standard : IsStandard) {base : String} {url : Url}
    (complete : parse (joinUrl base "/") = .ok url) (web : Url.hasAuthority url.scheme)
    (path : String) : ∃ joined, parse (joinUrl base path) = .ok { url with path := joined } := by
  obtain ⟨rest, joined⟩ := exists_joinUrl_eq base path
  rw [joinUrl_root] at complete
  rw [joined]
  exact standard.continued _ url complete web rest

end UrlParser.IsStandard

end ArrivalRamp
