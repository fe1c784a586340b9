import TrillionniumGame.QueryCore.Parser

namespace QueryCore
open Checks
open Persistence (DomainError)

def fieldTokens : Option Text → List Token
  | none => []
  | some field => [.string field, .colon]

def numberTokens : Text → List Token
  | '-' :: value => [.minus, .number value]
  | value => [.number value]

def Comparison.tokens : Comparison → List Token
  | .greaterThan => [.greater]
  | .greaterThanOrEqual => [.greater, .equal]
  | .lessThan => [.less]
  | .lessThanOrEqual => [.less, .equal]

def Expression.tokens : Expression → List Token
  | .term field value _ => fieldTokens field ++ [.string value]
  | .phrase field value => fieldTokens field ++ [.phrase value]
  | .numberExact field value => fieldTokens field ++ numberTokens value
  | .fuzzy field value fuzziness => fieldTokens field ++ [.string value, .tilde fuzziness]
  | .numericRange field comparison value =>
    fieldTokens (some field) ++ comparison.tokens ++ numberTokens value
  | .dateRange field comparison value =>
    fieldTokens (some field) ++ comparison.tokens ++ [.phrase value]

def Occur.tokens : Occur → List Token
  | .should => []
  | .must => [.plus]
  | .mustNot => [.minus]

def boostTokens : Option Text → List Token
  | none => []
  | some value => [.boost value]

def Clause.tokens (clause : Clause) : List Token :=
  clause.occur.tokens ++ clause.expression.tokens ++ boostTokens clause.boost

variable {tokens rest : List Token} {expression : Expression} {value : Text}

theorem numberTokens_of (h : value.head? ≠ some '-') : numberTokens value = [.number value] := by
  unfold numberTokens
  split
  · exact absurd rfl h
  · rfl

theorem Unsigned.of_cons {token : Token} (h : Unsigned (token :: rest)) : Unsigned rest :=
  fun value hmem => h value (List.mem_cons_of_mem _ hmem)

variable {build : Text → Expression}

theorem number_reads {after : List Token} (h : number build value after = .ok (expression, rest)) :
    expression = build value ∧ rest = after := by
  obtain ⟨_, -, h⟩ := bind_ok.mp h
  cases h
  exact ⟨rfl, rfl⟩

theorem negativeNumber_reads (h : negativeNumber build tokens = .ok (expression, rest)) :
    ∃ value, expression = build ('-' :: value) ∧ tokens = .number value :: rest := by
  unfold negativeNumber at h
  split at h
  · obtain ⟨rfl, rfl⟩ := number_reads h
    exact ⟨_, rfl, rfl⟩
  · cases h

variable {field : Option Text}

theorem term_tokens (h : term field value = .ok expression) :
    expression.tokens = fieldTokens field ++ [.string value] := by
  unfold term at h
  split at h
  · obtain ⟨_, -, h⟩ := bind_ok.mp h
    cases h
    rfl
  · split at h
    · cases h
      rfl
    · cases h
      rfl

theorem word_reads (h : word field value tokens = .ok (expression, rest)) :
    fieldTokens field ++ .string value :: tokens = expression.tokens ++ rest := by
  unfold word at h
  split at h
  · obtain ⟨_, -, h⟩ := bind_ok.mp h
    cases h
    simp [Expression.tokens]
  · obtain ⟨_, hterm, h⟩ := bind_ok.mp h
    cases h
    rw [term_tokens hterm]
    simp

theorem parseBound_reads {field : Text} {comparison : Comparison} (hunsigned : Unsigned tokens)
    (h : parseBound field comparison tokens = .ok (expression, rest)) :
    fieldTokens (some field) ++ comparison.tokens ++ tokens = expression.tokens ++ rest := by
  unfold parseBound at h
  split at h
  · next value after =>
    obtain ⟨rfl, rfl⟩ := number_reads h
    have hvalue := hunsigned value List.mem_cons_self
    simp [Expression.tokens, numberTokens_of hvalue]
  · obtain ⟨value, rfl, rfl⟩ := negativeNumber_reads h
    simp [Expression.tokens, numberTokens]
  · obtain ⟨_, -, h⟩ := bind_ok.mp h
    cases h
    simp [Expression.tokens]
  · cases h

theorem comparison_tokens (greater inclusive : Bool) : (comparison greater inclusive).tokens =
    (if greater then .greater else .less) :: if inclusive then [.equal] else [] := by
  cases greater <;> cases inclusive <;> rfl

theorem parseRange_reads {field : Text} {greater : Bool} (hunsigned : Unsigned tokens)
    (h : parseRange field greater tokens = .ok (expression, rest)) :
    fieldTokens (some field) ++ (if greater then .greater else .less) :: tokens =
      expression.tokens ++ rest := by
  unfold parseRange at h
  split at h
  · rw [← parseBound_reads hunsigned.of_cons h, comparison_tokens]
    simp
  · rw [← parseBound_reads hunsigned h, comparison_tokens]
    simp

theorem parseFieldExpression_reads {field : Text} (hunsigned : Unsigned tokens)
    (h : parseFieldExpression field tokens = .ok (expression, rest)) :
    fieldTokens (some field) ++ tokens = expression.tokens ++ rest := by
  unfold parseFieldExpression at h
  split at h
  · exact word_reads h
  · next value after =>
    obtain ⟨rfl, rfl⟩ := number_reads h
    have hvalue := hunsigned value List.mem_cons_self
    simp [Expression.tokens, numberTokens_of hvalue]
  · obtain ⟨value, rfl, rfl⟩ := negativeNumber_reads h
    simp [Expression.tokens, numberTokens]
  · cases h
    simp [Expression.tokens]
  · exact parseRange_reads hunsigned.of_cons h
  · exact parseRange_reads hunsigned.of_cons h
  · cases h

theorem parseExpression_reads (hunsigned : Unsigned tokens)
    (h : parseExpression tokens = .ok (expression, rest)) :
    tokens = expression.tokens ++ rest := by
  unfold parseExpression at h
  split at h
  · exact parseFieldExpression_reads hunsigned.of_cons.of_cons h
  · exact word_reads h
  · next value after =>
    obtain ⟨rfl, rfl⟩ := number_reads h
    have hvalue := hunsigned value List.mem_cons_self
    simp [Expression.tokens, fieldTokens, numberTokens_of hvalue]
  · cases h
    simp [Expression.tokens, fieldTokens]
  · cases h

theorem parseOccur_reads (tokens : List Token) :
    tokens = (parseOccur tokens).1.tokens ++ (parseOccur tokens).2 := by
  unfold parseOccur
  split <;> rfl

theorem parseBoost_reads {boost : Option Text} (h : parseBoost tokens = .ok (boost, rest)) :
    tokens = boostTokens boost ++ rest := by
  unfold parseBoost at h
  split at h
  · obtain ⟨_, -, h⟩ := bind_ok.mp h
    cases h
    rfl
  · cases h
    rfl

theorem parseClause_reads {clause : Clause} (hunsigned : Unsigned tokens)
    (h : parseClause tokens = .ok (clause, rest)) : tokens = clause.tokens ++ rest := by
  have hoccur := parseOccur_reads tokens
  have hafter : Unsigned (parseOccur tokens).2 := fun value hmem =>
    hunsigned value (hoccur ▸ List.mem_append_right _ hmem)
  obtain ⟨⟨expression, middle⟩, hexpression, h⟩ := bind_ok.mp h
  obtain ⟨⟨boost, after⟩, hboost, h⟩ := bind_ok.mp h
  cases h
  calc tokens = (parseOccur tokens).1.tokens ++ (parseOccur tokens).2 := hoccur
    _ = (parseOccur tokens).1.tokens ++ (expression.tokens ++ middle) := by
      rw [← parseExpression_reads hafter hexpression]
    _ = (parseOccur tokens).1.tokens ++ (expression.tokens ++ (boostTokens boost ++ rest)) := by
      rw [← parseBoost_reads hboost]
    _ = Clause.tokens ⟨(parseOccur tokens).1, expression, boost⟩ ++ rest := by
      simp [Clause.tokens]

theorem parseClauses_reads {room : Nat} {clauses : List Clause} (hunsigned : Unsigned tokens)
    (h : parseClauses room tokens = .ok clauses) :
    tokens = clauses.flatMap Clause.tokens ∧ clauses.length ≤ room := by
  induction room generalizing tokens clauses with
  | zero =>
    cases tokens with
    | nil =>
      cases h
      exact ⟨rfl, le_rfl⟩
    | cons token rest => cases h
  | succ room ih =>
    cases tokens with
    | nil =>
      cases h
      exact ⟨rfl, Nat.zero_le _⟩
    | cons token rest =>
      obtain ⟨⟨clause, after⟩, hclause, h⟩ := bind_ok.mp h
      obtain ⟨others, hothers, h⟩ := bind_ok.mp h
      cases h
      have hreads := parseClause_reads hunsigned hclause
      have hafter : Unsigned after := fun value hmem =>
        hunsigned value (hreads ▸ List.mem_append_right _ hmem)
      obtain ⟨hrest, hlength⟩ := ih hafter hothers
      refine ⟨?_, Nat.succ_le_succ hlength⟩
      rw [hreads, hrest, List.flatMap_cons]

variable {query : Query}

theorem parse_reads {limits : QueryLimits} (hunsigned : Unsigned tokens)
    (h : parse tokens limits = .ok query) : ∃ clauses, query = .boolean clauses ∧
      tokens = clauses.flatMap Clause.tokens ∧ clauses.length ≤ limits.maxClauses := by
  obtain ⟨clauses, hclauses, h⟩ := bind_ok.mp h
  cases h
  exact ⟨clauses, rfl, parseClauses_reads hunsigned hclauses⟩

theorem Clause.tokens_ne (clause : Clause) : clause.tokens ≠ [] := by
  obtain ⟨occur, expression, boost⟩ := clause
  have hexpression : expression.tokens ≠ [] := by
    have hnumber : ∀ value, numberTokens value ≠ [] := by
      intro value
      unfold numberTokens
      split <;> nofun
    cases expression <;> simp [Expression.tokens, fieldTokens, hnumber]
  simp [Clause.tokens, hexpression]

structure ConsumesOnce (input : Text) (limits : QueryLimits) : Prop where
  terminates : lex input limits ≠ .error .exhausted ∧ parseQuery input limits ≠ .error .exhausted
  special : ∀ query, parseQuery input limits = .ok query →
    (query = .matchNone ↔ input = []) ∧ (query = .matchAll ↔ input = ['*'])
  clauses : ∀ clauses, parseQuery input limits = .ok (.boolean clauses) →
    ∃ tokens, lex input limits = .ok tokens ∧ tokens = clauses.flatMap Clause.tokens ∧
      (∀ clause ∈ clauses, clause.tokens ≠ []) ∧ clauses.length ≤ limits.maxClauses

variable {input : Text} {limits : QueryLimits}

theorem lift_error {α : Type} {x : Except DomainError α} : lift x ≠ .error .exhausted := by
  cases x <;> nofun

theorem parseQuery_ends : parseQuery input limits ≠ .error .exhausted := by
  unfold parseQuery
  rw [Ne, bind_error, not_or]
  refine ⟨lift_error, ?_⟩
  rintro ⟨_, -, h⟩
  split at h
  · cases h
  · split at h
    · cases h
    · rcases bind_error.mp h with hlex | ⟨tokens, -, h⟩
      · exact lex_terminates input limits hlex
      · rcases bind_error.mp h with hempty | ⟨_, -, h⟩
        · exact lift_error hempty
        · exact lift_error h

theorem parseQuery_ok (h : parseQuery input limits = .ok query) :
    (input = [] ∧ query = .matchNone) ∨ (input = ['*'] ∧ query = .matchAll) ∨
      (input ≠ [] ∧ input ≠ ['*'] ∧
        ∃ tokens, lex input limits = .ok tokens ∧ parse tokens limits = .ok query) := by
  unfold parseQuery at h
  obtain ⟨_, -, h⟩ := bind_ok.mp h
  split at h
  · next hempty =>
    cases h
    exact .inl ⟨hempty, rfl⟩
  · next hempty =>
    split at h
    · next hstar =>
      cases h
      exact .inr (.inl ⟨hstar, rfl⟩)
    · next hstar =>
      obtain ⟨tokens, htokens, h⟩ := bind_ok.mp h
      obtain ⟨_, -, h⟩ := bind_ok.mp h
      exact .inr (.inr ⟨hempty, hstar, tokens, htokens, mapError_ok.mp h⟩)

theorem query_tokens_consumed_once (input : Text) (limits : QueryLimits) :
    ConsumesOnce input limits where
  terminates := ⟨lex_terminates input limits, parseQuery_ends⟩
  special := by
    intro query h
    rcases parseQuery_ok h with ⟨rfl, rfl⟩ | ⟨rfl, rfl⟩ | ⟨hempty, hstar, tokens, htokens, hparse⟩
    · simp
    · simp
    · obtain ⟨clauses, rfl, -⟩ := parse_reads (lex_unsigned htokens) hparse
      simp [hempty, hstar]
  clauses := by
    intro clauses h
    rcases parseQuery_ok h with ⟨-, hquery⟩ | ⟨-, hquery⟩ | ⟨-, -, tokens, htokens, hparse⟩
    · cases hquery
    · cases hquery
    · obtain ⟨others, heq, hreads, hlength⟩ := parse_reads (lex_unsigned htokens) hparse
      cases heq
      exact ⟨tokens, htokens, hreads, fun clause _ => clause.tokens_ne, hlength⟩

example : parseQuery "+region:ca -skill:>=-5 name:watex~2 ^3".toList .default =
    .ok (.boolean [⟨.must, .term (some "region".toList) "ca".toList .match_, none⟩,
      ⟨.mustNot, .numericRange "skill".toList .greaterThanOrEqual "-5".toList, none⟩,
      ⟨.should, .fuzzy (some "name".toList) "watex".toList "2".toList, some "3".toList⟩]) := by
  decide +kernel

end QueryCore
