import ArrivalRamp.Proofs.Url.Join
import ArrivalRamp.Url.Reader

/-!
The parser that the tool runs with here keeps to the standard, as far as a run relies on it. When it
comes to the slash that ends an authority it has settled all but the path.
-/

namespace ArrivalRamp.Url

theorem withAuthority_append_slash {scheme : String} {isSpecial : Bool} {front rest : List Char}
    {url : Url} (complete : withAuthority scheme isSpecial (front ++ '/' :: rest) = .ok url)
    (other : List Char) :
    ∃ path, withAuthority scheme isSpecial (front ++ '/' :: other) =
      .ok { url with path := path } := by
  unfold withAuthority at complete ⊢
  dsimp only at complete ⊢
  rw [takeWhile_append_stop _ front rest (by simp [endsAuthority]), drop_takeWhile_append]
    at complete
  rw [takeWhile_append_stop _ front other (by simp [endsAuthority]), drop_takeWhile_append]
  generalize front.drop _ = left at *
  generalize userInfo _ = parts at *
  obtain ⟨given, hostAndPort⟩ := parts
  have ends (last : List Char) : (left ++ '/' :: last).isEmpty = false := by simp
  simp only [ends] at complete ⊢
  split at complete
  · cases complete
  next named =>
    rw [if_neg named]
    split at complete
    · cases complete
    · split at complete
      · cases complete
      next hosted =>
        obtain rfl := Except.ok.inj complete
        rw [if_neg hosted]
        exact ⟨_, rfl⟩

theorem scheme_of_withAuthority {scheme : String} {isSpecial : Bool} {text : List Char} {url : Url}
    (complete : withAuthority scheme isSpecial text = .ok url) : url.scheme = scheme := by
  unfold withAuthority at complete
  dsimp only at complete
  split at complete
  · cases complete
  · split at complete
    · cases complete
    · split at complete
      · cases complete
      · obtain rfl := Except.ok.inj complete
        rfl

theorem scheme_of_ofFile {text : List Char} {url : Url} (complete : ofFile text = .ok url) :
    url.scheme = "file" := by
  unfold ofFile at complete
  dsimp only at complete
  repeat' split at complete
  all_goals cases complete <;> rfl

/-- A URL of a scheme with a host comes from an authority. -/
theorem ofText_eq_ok {text : String} {url : Url} (complete : ofText text = .ok url)
    (special : hasAuthority url.scheme) :
    ∃ rest, scheme? (counted text) = some (url.scheme, rest) ∧
      withAuthority url.scheme true (rest.dropWhile isSlash) = .ok url := by
  unfold ofText at complete
  split at complete
  · cases complete
  next scheme rest found =>
    split at complete
    · have file := scheme_of_ofFile complete
      rw [file] at special
      exact absurd special (by decide)
    · split at complete
      · obtain rfl := scheme_of_withAuthority complete
        exact ⟨rest, found, complete⟩
      next common =>
        exfalso
        apply common
        split at complete
        · rwa [scheme_of_withAuthority complete] at special
        · obtain rfl := Except.ok.inj complete
          exact special

theorem ofText_of_scheme? {text : String} {rest : List Char} {scheme : String}
    (found : scheme? (counted text) = some (scheme, rest)) (special : hasAuthority scheme) :
    ofText text = withAuthority scheme true (rest.dropWhile isSlash) := by
  have noFile : scheme ≠ "file" := by
    rintro rfl
    exact absurd special (by decide)
  unfold ofText
  rw [found]
  dsimp only
  rw [if_neg noFile, if_pos special]

/-- What follows the slash behind an authority changes only the path. -/
theorem ofText_continued {address : String} {url : Url}
    (complete : ofText (address ++ "/") = .ok url) (special : hasAuthority url.scheme) (rest : String) :
    ∃ path, ofText (address ++ "/" ++ rest) = .ok { url with path := path } := by
  have root : (address ++ "/").toList = address.toList ++ '/' :: [] := by simp
  have joined : (address ++ "/" ++ rest).toList = address.toList ++ '/' :: rest.toList := by simp
  obtain ⟨authority, found, hosted⟩ := ofText_eq_ok complete special
  rw [counted_append_slash root, scheme?_append _ _ (by decide) (by decide),
    Option.map_eq_some_iff] at found
  obtain ⟨⟨scheme, inner⟩, own, same⟩ := found
  obtain ⟨rfl, rfl⟩ := Prod.mk.inj same
  have foundAll : scheme? (counted (address ++ "/" ++ rest)) = some (url.scheme, inner ++
      '/' :: (Text.trimEnd isTrimmed rest.toList).filter isCounted) := by
    rw [counted_append_slash joined, scheme?_append _ _ (by decide) (by decide), own,
      Option.map_some]
  rw [ofText_of_scheme? foundAll special]
  cases host : inner.dropWhile isSlash with
  | nil =>
      -- With nothing but slashes after the scheme, the address itself has no host. A path could
      -- give it one, so this case has to be excluded by the address.
      rw [List.dropWhile_append, host] at hosted
      cases hosted
  | cons first others =>
      have behind (last : List Char) : (inner ++ '/' :: last).dropWhile isSlash =
          first :: others ++ '/' :: last := by
        rw [List.dropWhile_append, host]
        rfl
      rw [behind] at hosted ⊢
      exact withAuthority_append_slash hosted _

theorem ofText_isStandard : UrlParser.IsStandard where
  relative text none := by
    change ofText text = _
    rw [ofText, none]
  continued address url complete special rest := ofText_continued complete special rest

end ArrivalRamp.Url
