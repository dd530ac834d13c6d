import ArrivalRamp.Proofs.Decimal.Numeral
import ArrivalRamp.Proofs.Pool.WorkUnits
import ArrivalRamp.Request.Template

/-!
No two requests of a run have the same identifier, not even when their nonces agree, and no two
bodies that carry the identifier are the same.
-/

namespace ArrivalRamp

namespace Decimal

theorem digits_injective : Function.Injective digits := by
  intro left right same
  have read := congrArg ofDigits? same
  rw [ofDigits?_digits, ofDigits?_digits] at read
  exact Option.some.inj read

/-- A numeral ends at the first minus. -/
theorem takeWhile_isDigit_digits_append (value : ℕ) (rest : List Char) :
    (digits value ++ '-' :: rest).takeWhile Char.isDigit = digits value := by
  rw [List.takeWhile_append_of_pos fun _ => isDigit_of_mem_digits]
  simp

theorem digits_append_minus_eq_iff {left right : ℕ} {leftRest rightRest : List Char} :
    digits left ++ '-' :: leftRest = digits right ++ '-' :: rightRest ↔
      left = right ∧ leftRest = rightRest := by
  constructor
  · intro same
    have numerals := congrArg (List.takeWhile Char.isDigit) same
    rw [takeWhile_isDigit_digits_append, takeWhile_isDigit_digits_append] at numerals
    obtain rfl := digits_injective numerals
    exact ⟨rfl, (List.cons.inj (List.append_cancel_left same)).2⟩
  · rintro ⟨rfl, rfl⟩
    rfl

end Decimal

/-- No digit is escaped in a string. -/
theorem Json.escape_of_isDigit {digit : Char} (isDigit : digit.isDigit) :
    escape digit = [digit] := by
  have printable : 48 ≤ digit.toNat := by
    rw [Char.isDigit, Bool.and_eq_true, decide_eq_true_eq] at isDigit
    exact isDigit.1
  unfold escape
  split
  case h_8 => rw [if_neg (by omega)]
  all_goals exact absurd isDigit (by decide)

namespace WorkUnit

theorem toList_requestId (work : WorkUnit) (nonce : ℕ) :
    (work.requestId nonce).toList = ['R', 'E', 'Q', '-'] ++ (Decimal.digits work.user ++
      '-' :: (Decimal.digits work.iteration ++ '-' :: Decimal.digits nonce)) := by
  have start : "REQ-".toList = ['R', 'E', 'Q', '-'] := by decide
  have minus : "-".toList = ['-'] := by decide
  simp [requestId, Decimal.natural, start, minus]

/-- An identifier tells the unit of work and the nonce. -/
theorem requestId_eq_iff {work other : WorkUnit} {nonce otherNonce : ℕ} :
    work.requestId nonce = other.requestId otherNonce ↔ work = other ∧ nonce = otherNonce := by
  obtain ⟨user, iteration⟩ := work
  obtain ⟨otherUser, otherIteration⟩ := other
  rw [← String.toList_inj, toList_requestId, toList_requestId, List.append_cancel_left_eq,
    Decimal.digits_append_minus_eq_iff, Decimal.digits_append_minus_eq_iff,
    Decimal.digits_injective.eq_iff, WorkUnit.mk.injEq, and_assoc]

/-- No character of an identifier is escaped in a string. -/
theorem escape_of_mem_requestId {work : WorkUnit} {nonce : ℕ} {character : Char}
    (inside : character ∈ (work.requestId nonce).toList) : Json.escape character = [character] := by
  have kind : character.isDigit ∨ character ∈ ['R', 'E', 'Q', '-'] := by
    have digit : ∀ value, character ∈ Decimal.digits value → character.isDigit :=
      fun _ => Decimal.isDigit_of_mem_digits
    rw [toList_requestId] at inside
    simp only [List.mem_append, List.mem_cons] at inside ⊢
    tauto
  rcases kind with digit | letter
  · exact Json.escape_of_isDigit digit
  · fin_cases letter <;> rfl

theorem toList_quoted_requestId (work : WorkUnit) (nonce : ℕ) :
    (Json.quoted (work.requestId nonce)).toList =
      '"' :: (work.requestId nonce).toList ++ ['"'] := by
  have plain : (work.requestId nonce).toList.flatMap Json.escape =
      (work.requestId nonce).toList.flatMap ([·]) :=
    List.flatMap_congr fun _ => escape_of_mem_requestId
  rw [Json.quoted, String.toList_ofList, plain, List.flatMap_singleton']

end WorkUnit

namespace Json

/-- A member that was put in is found. -/
theorem lookup_insertMember (name : String) (value : Json) (members : List (String × Json)) :
    (insertMember name value members).lookup name = some value := by
  induction members with
  | nil => simp [insertMember]
  | cons member members ih =>
      obtain ⟨other, held⟩ := member
      unfold insertMember
      split_ifs with before same
      · simp
      · simp
      · have different : (name == other) = false := by simpa using same
        simp [List.lookup_cons, different, ih]

/-- The members around one that is put in do not depend on its value. -/
theorem exists_compactMembers_insertMember (name : String) (members : List (String × Json)) :
    ∃ before after, ∀ value, compactMembers (insertMember name value members) =
      before ++ (quoted name ++ ":" ++ compact value) :: after := by
  induction members with
  | nil => exact ⟨[], [], fun value => by simp [insertMember, compactMembers]⟩
  | cons member members ih =>
      obtain ⟨other, held⟩ := member
      by_cases earlier : name < other
      · refine ⟨[], compactMembers ((other, held) :: members), fun value => ?_⟩
        simp [insertMember, earlier, compactMembers]
      by_cases same : name = other
      · refine ⟨[], compactMembers members, fun value => ?_⟩
        simp [insertMember, same, compactMembers]
      · obtain ⟨before, after, rest⟩ := ih
        refine ⟨(quoted other ++ ":" ++ compact held) :: before, after, fun value => ?_⟩
        simp [insertMember, earlier, same, compactMembers, rest]

/-- Texts with a separator between them depend on one of them only where it stands. -/
theorem exists_intercalate (separator : String) (before after : List String) :
    ∃ start rest, ∀ text, separator.intercalate (before ++ text :: after) =
      start ++ text ++ rest := by
  have suffix : ∃ rest, ∀ text, separator.intercalate (text :: after) = text ++ rest := by
    by_cases last : after = []
    · exact ⟨"", fun text => by simp [last]⟩
    · refine ⟨separator ++ separator.intercalate after, fun text => ?_⟩
      rw [String.intercalate_cons_of_ne_nil last, String.append_assoc]
  obtain ⟨rest, tail⟩ := suffix
  by_cases first : before = []
  · exact ⟨"", rest, fun text => by simp [first, tail]⟩
  · refine ⟨separator.intercalate before ++ separator, rest, fun text => ?_⟩
    rw [String.intercalate_append_of_ne_nil first (List.cons_ne_nil _ _), tail,
      String.append_assoc, String.append_assoc, String.append_assoc]

/-- The text of an object depends on a member that is put in only where its value stands. -/
theorem exists_compact_insertMember (name : String) (members : List (String × Json)) :
    ∃ start rest, ∀ value, compact (.object (insertMember name value members)) =
      start ++ compact value ++ rest := by
  obtain ⟨before, after, around⟩ := exists_compactMembers_insertMember name members
  obtain ⟨start, rest, joined⟩ := exists_intercalate "," before after
  refine ⟨"\x7b" ++ start ++ (quoted name ++ ":"), rest ++ "\x7d", fun value => ?_⟩
  rw [compact, around, joined]
  simp only [String.append_assoc]

end Json

namespace RequestTemplate

variable {template : RequestTemplate} {members : List (String × Json)}

/-- The body of a request is the text of the payload with the identifier among its members. -/
theorem body_eq (payload : template.payload = some (.object members)) (requestId : String) :
    template.body requestId =
      some (Json.object (Json.insertMember requestIdName (.text requestId) members)).compact := by
  rw [body, payload]
  rfl

/-- Bodies of requests with different identifiers are different texts. -/
theorem body_requestId_ne (payload : template.payload = some (.object members))
    {work other : WorkUnit} {nonce otherNonce : ℕ}
    (different : work.requestId nonce ≠ other.requestId otherNonce) :
    template.body (work.requestId nonce) ≠ template.body (other.requestId otherNonce) := by
  obtain ⟨start, rest, written⟩ := Json.exists_compact_insertMember requestIdName members
  intro same
  rw [body_eq payload, body_eq payload, Option.some.injEq, written, written] at same
  have quotes : (Json.quoted (work.requestId nonce)).toList =
      (Json.quoted (other.requestId otherNonce)).toList := by
    have letters := congrArg String.toList same
    rw [String.toList_append, String.toList_append, String.toList_append,
      String.toList_append] at letters
    have compacted := List.append_cancel_left (List.append_cancel_right letters)
    rwa [Json.compact, Json.compact, Json.scalar, Json.scalar] at compacted
    all_goals simp
  rw [WorkUnit.toList_quoted_requestId, WorkUnit.toList_quoted_requestId] at quotes
  have letters := List.append_cancel_right (List.cons.inj quotes).2
  exact different (String.toList_inj.mp letters)

end RequestTemplate

namespace PoolUse

/-- In steps of any clients in any order, any two units of work that clients get are different, as
long as a word can hold the counters. The identifiers of their requests are different then whatever
the nonces are, and so are the identifiers in the bodies that are planned from an object. -/
theorem requests_distinct (preAllocated limit : ℕ) (taken : List PoolStep) (use : PoolUse)
    (reached : (start preAllocated limit).steps? taken = some use)
    (word : ∀ user, PoolStep.completions taken user < Word.size) :
    use.granted.Pairwise fun work other =>
      work ≠ other ∧ ∀ nonce otherNonce,
        work.requestId nonce ≠ other.requestId otherNonce ∧
        ∀ (template : RequestTemplate) (members : List (String × Json)) (label otherLabel : StageLabel),
          template.payload = some (.object members) →
          let body := (template.plan label work nonce).body
          let otherBody := (template.plan otherLabel other otherNonce).body
          (∃ payload otherPayload : Json,
            body = some payload.compact ∧ otherBody = some otherPayload.compact ∧
            payload.member? RequestTemplate.requestIdName = some (.text (work.requestId nonce)) ∧
            otherPayload.member? RequestTemplate.requestIdName =
              some (.text (other.requestId otherNonce))) ∧
          body ≠ otherBody := by
  refine (nodup_granted reached word).imp ?_
  intro work other distinct
  refine ⟨distinct, fun nonce otherNonce => ?_⟩
  have different : work.requestId nonce ≠ other.requestId otherNonce := by
    intro same
    exact distinct (WorkUnit.requestId_eq_iff.mp same).1
  refine ⟨different, fun template members label otherLabel payload => ⟨?_, ?_⟩⟩
  · exact ⟨_, _, RequestTemplate.body_eq payload _, RequestTemplate.body_eq payload _,
      Json.lookup_insertMember _ _ _, Json.lookup_insertMember _ _ _⟩
  · exact RequestTemplate.body_requestId_ne payload different

/-- The first of two users comes back and is taken again before the second is handed back. -/
def overtaking : List PoolStep :=
  [.take 0, .take 1, .complete ⟨1, 0⟩, .giveBack ⟨1, 1⟩, .take 0, .complete ⟨2, 0⟩]

theorem requests_distinct_overtaking :
    ∃ use, (start 2 2).steps? overtaking = some use ∧
      use.granted = [⟨1, 0⟩, ⟨2, 0⟩, ⟨1, 1⟩] ∧
      (∀ user, PoolStep.completions overtaking user < Word.size) ∧
      use.granted.Pairwise (· ≠ ·) := by
  have reached : (start 2 2).steps? overtaking =
      some ⟨⟨[], 2, 2, le_rfl⟩, [⟨1, 1⟩], [⟨2, 1⟩], [],
        [(0, some ⟨1, 0⟩), (1, some ⟨2, 0⟩), (0, some ⟨1, 1⟩)]⟩ := rfl
  have word : ∀ user, PoolStep.completions overtaking user < Word.size := fun user =>
    List.countP_le_length.trans_lt (by decide)
  have distinct := requests_distinct 2 2 overtaking _ reached word
  exact ⟨_, reached, rfl, word, distinct.imp And.left⟩

end PoolUse

end ArrivalRamp
