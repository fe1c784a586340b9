import TrillionniumGame.QueryCore.Parser

namespace QueryCore
open Checks
open GoText (ofRunes)
open Persistence (DomainError)

def escapeChar (character : Char) : Text :=
  if character ∈ reservedChars then ['\\', character] else [character]

def escape (value : Text) : Text := value.flatMap escapeChar

structure Numeric (value : Text) : Prop where
  first : ∃ character ∈ value.head?, character.isDigit = true
  digits : ∀ character ∈ value, character.isDigit = true ∨ character = '.'
  dots : value.count '.' ≤ 1

def SlashDelimited (value : Text) : Prop := value.head? = some '/' ∧ value.getLast? = some '/'

instance (value : Text) : Decidable (SlashDelimited value) := by
  unfold SlashDelimited
  infer_instance

structure Plain (value : Text) : Prop where
  nonempty : value ≠ []
  started : ∀ character ∈ value.head?, isWhitespace character = false
  word : ¬ Numeric value

variable {limits : QueryLimits} {value tail : Text}

theorem byteLen_append (one two : Text) : byteLen (one ++ two) = byteLen one + byteLen two := by
  rw [byteLen, GoText.ofRunes_append, List.length_append]
  rfl

variable {character : Char}

theorem escape_reserved (h : character ∈ reservedChars) :
    escape (character :: value) ++ tail = '\\' :: character :: (escape value ++ tail) := by
  rw [escape, List.flatMap_cons, escapeChar, if_pos h]
  rfl

theorem escape_unreserved (h : character ∉ reservedChars) :
    escape (character :: value) ++ tail = character :: (escape value ++ tail) := by
  rw [escape, List.flatMap_cons, escapeChar, if_neg h]
  rfl

theorem special_reserved
    (h : character ∈ [' ', ':', '^', '~', '\\', '"', '+', '-', '>', '<', '=', '*']) :
    character ∈ reservedChars := by
  revert character
  decide

theorem unreserved_word (h : character ∉ reservedChars) :
    endsWord character = false ∧ character ≠ '\\' := by
  have hspecial : ∀ special ∈ [' ', ':', '^', '~', '\\', '"', '+', '-', '>', '<', '=', '*'],
      character ≠ special := by
    rintro special hmem rfl
    exact h (special_reserved hmem)
  simp only [List.forall_mem_cons] at hspecial
  obtain ⟨hspace, hcolon, hcaret, htilde, hescape, -⟩ := hspecial
  refine ⟨?_, hescape⟩
  simp [endsWord, hspace, hcolon, hcaret, htilde]

theorem pushChecked_of {destination value : Text}
    (h : byteLen destination + byteLen value ≤ limits.maxTokenBytes) :
    pushChecked limits destination value = .ok (destination ++ value) := by
  rw [pushChecked, require_of h]
  rfl

structure Continues (numeric seenDot : Bool) (value : Text) : Prop where
  numeric : numeric = true
  digits : ∀ character ∈ value, character.isDigit = true ∨ character = '.'
  dots : value.count '.' + (if seenDot then 1 else 0) ≤ 1

theorem nextFlags_numeric {numeric seenDot : Bool}
    (h : (nextFlags numeric seenDot character).1 = true) : numeric = true ∧
      ((character.isDigit = true ∧ (nextFlags numeric seenDot character).2 = seenDot) ∨
        (character = '.' ∧ seenDot = false ∧ (nextFlags numeric seenDot character).2 = true)) := by
  unfold nextFlags at h ⊢
  split at h
  · next hnumeric =>
    refine ⟨hnumeric, ?_⟩
    rw [if_pos hnumeric]
    split at h
    · next hdigit => exact .inl ⟨hdigit, by rw [if_pos hdigit]⟩
    · next hdigit =>
      split at h
      · next hdot => exact .inr ⟨hdot.1, hdot.2, by rw [if_neg hdigit, if_pos hdot]⟩
      · cases h
  · cases h

theorem Continues.cons {numeric seenDot : Bool} {character : Char}
    (h : Continues (nextFlags numeric seenDot character).1 (nextFlags numeric seenDot character).2
      value) : Continues numeric seenDot (character :: value) := by
  have hdots := h.dots
  obtain ⟨hnumeric, ⟨hdigit, hflag⟩ | ⟨rfl, rfl, hflag⟩⟩ := nextFlags_numeric h.numeric
  · refine ⟨hnumeric, List.forall_mem_cons.mpr ⟨.inl hdigit, h.digits⟩, ?_⟩
    have hnot : character ≠ '.' := by
      rintro rfl
      exact absurd hdigit (by decide)
    rw [hflag] at hdots
    rwa [List.count_cons_of_ne hnot]
  · refine ⟨hnumeric, List.forall_mem_cons.mpr ⟨.inr rfl, h.digits⟩, ?_⟩
    rw [hflag, if_pos rfl] at hdots
    rw [List.count_cons_self, if_neg Bool.false_ne_true]
    exact hdots

theorem readWord_escape {accumulated : Text} (numeric seenDot : Bool)
    (hroom : byteLen accumulated + byteLen value ≤ limits.maxTokenBytes)
    (htail : ∀ character ∈ tail.head?, endsWord character = true) :
    ∃ numeric', readWord limits accumulated numeric seenDot (escape value ++ tail) =
      .ok (accumulated ++ value, numeric', tail) ∧
        (numeric' = true → Continues numeric seenDot value) := by
  induction value generalizing accumulated numeric seenDot with
  | nil =>
    refine ⟨numeric, ?_, fun hnumeric => ⟨hnumeric, by simp, ?_⟩⟩
    · rw [escape, List.flatMap_nil, List.nil_append, List.append_nil]
      cases tail with
      | nil => rfl
      | cons character rest =>
        rw [readWord.eq_def]
        dsimp only
        rw [if_pos (htail character rfl)]
    · cases seenDot <;> decide
  | cons character value ih =>
    have hsplit : byteLen (character :: value) = byteLen [character] + byteLen value :=
      byteLen_append [character] value
    have hpush : pushChecked limits accumulated [character] = .ok (accumulated ++ [character]) :=
      pushChecked_of (by omega)
    have hrest : byteLen (accumulated ++ [character]) + byteLen value ≤ limits.maxTokenBytes := by
      rw [byteLen_append]
      omega
    have hword : accumulated ++ character :: value = accumulated ++ [character] ++ value := by simp
    rw [hword]
    by_cases hreserved : character ∈ reservedChars
    · obtain ⟨numeric', hread, hcontinues⟩ := ih false seenDot hrest
      refine ⟨numeric', ?_, fun hnumeric => absurd (hcontinues hnumeric).numeric (by decide)⟩
      rw [escape_reserved hreserved, readWord, if_neg (by decide), if_pos rfl, unescape,
        if_pos hreserved, hpush]
      exact hread
    · obtain ⟨hends, hescape⟩ := unreserved_word hreserved
      obtain ⟨numeric', hread, hcontinues⟩ := ih
        (nextFlags numeric seenDot character).1 (nextFlags numeric seenDot character).2 hrest
      refine ⟨numeric', ?_, fun hnumeric => (hcontinues hnumeric).cons⟩
      rw [escape_unreserved hreserved, readWord.eq_def]
      dsimp only
      rw [if_neg (by simp [hends]), if_neg hescape, pushCharChecked, hpush]
      exact hread

theorem lexToken_unreserved {rest : Text} (h : character ∉ reservedChars) :
    lexToken limits character rest = (do
      let (value, numeric, next) ← readWord limits [] character.isDigit false (character :: rest)
      return (if character.isDigit && numeric then .number value else .string value, next)) := by
  have hspecial : ∀ special ∈ [' ', ':', '^', '~', '\\', '"', '+', '-', '>', '<', '=', '*'],
      character ≠ special := by
    rintro special hmem rfl
    exact h (special_reserved hmem)
  simp only [List.forall_mem_cons] at hspecial
  obtain ⟨-, hcolon, hcaret, htilde, hescape, hquote, hplus, hminus, hgreater, hless, hequal, -⟩ :=
    hspecial
  rw [lexToken.eq_def, if_neg hquote, if_neg hplus, if_neg hminus, if_neg hcolon, if_neg hgreater,
    if_neg hless, if_neg hequal, if_neg hcaret, if_neg htilde, if_neg hescape]
  cases character.isDigit <;> rfl

theorem lexToken_escape (hplain : Plain value) (hroom : byteLen value ≤ limits.maxTokenBytes)
    (htail : ∀ character ∈ tail.head?, endsWord character = true) :
    ∃ character rest, escape value ++ tail = character :: rest ∧ isWhitespace character = false ∧
      lexToken limits character rest = .ok (.string value, tail) := by
  obtain ⟨hnonempty, hstarted, hword⟩ := hplain
  cases value with
  | nil => exact absurd rfl hnonempty
  | cons character value =>
    by_cases hreserved : character ∈ reservedChars
    · have hrest : byteLen [character] + byteLen value ≤ limits.maxTokenBytes := by
        rw [← byteLen_append]
        exact hroom
      obtain ⟨numeric, hread, -⟩ := readWord_escape false false hrest htail
      refine ⟨'\\', _, escape_reserved hreserved, by decide, ?_⟩
      rw [lexToken, if_neg (by decide), if_neg (by decide), if_neg (by decide),
        if_neg (by decide), if_neg (by decide), if_neg (by decide), if_neg (by decide),
        if_neg (by decide), if_neg (by decide), if_pos rfl]
      dsimp only
      rw [readStringContinuation, unescape, if_pos hreserved, hread]
      rfl
    · have hrest : byteLen [] + byteLen (character :: value) ≤ limits.maxTokenBytes := by
        rw [← byteLen_append]
        exact hroom
      obtain ⟨numeric, hread, hcontinues⟩ :=
        readWord_escape character.isDigit false hrest htail
      refine ⟨character, _, escape_unreserved hreserved, hstarted character rfl, ?_⟩
      rw [lexToken_unreserved hreserved, ← escape_unreserved hreserved, hread]
      have hnot : (character.isDigit && numeric) = false := by
        rw [Bool.and_eq_false_iff, ← Bool.not_eq_true numeric]
        by_contra hboth
        rw [not_or, not_not, Bool.not_eq_false] at hboth
        obtain ⟨-, hdigits, hdots⟩ := hcontinues hboth.2
        exact hword ⟨⟨character, rfl, hboth.1⟩, hdigits, hdots⟩
      change Except.ok ((if (character.isDigit && numeric) = true then _ else _), _) = _
      rw [hnot]
      rfl

variable {tokens : List Token}

theorem lexFrom_step {fuel : Nat} {token : Token} {rest next : Text}
    (hspace : isWhitespace character = false)
    (htoken : lexToken limits character rest = .ok (token, next))
    (hroom : (tokens ++ [token]).length ≤ limits.maxTokens) :
    lexFrom limits (fuel + 1) tokens (character :: rest) =
      lexFrom limits fuel (tokens ++ [token]) next := by
  have hlimit : lift (require ((tokens ++ [token]).length ≤ limits.maxTokens)
      (failure .resourceExhausted "query_token_limit_exceeded")) = .ok () := by
    rw [require_of hroom]
    rfl
  rw [lexFrom, if_neg (by simp [hspace]), htoken]
  change (lift (require _ _) >>= fun _ => lexFrom limits fuel (tokens ++ [token]) next) = _
  rw [hlimit]
  rfl

theorem lexFrom_escape (fuel : Nat) (tokens : List Token) (tail : Text) (hplain : Plain value)
    (hroom : byteLen value ≤ limits.maxTokenBytes)
    (htokens : tokens.length + 1 ≤ limits.maxTokens)
    (htail : ∀ character ∈ tail.head?, endsWord character = true)
    (hfuel : (escape value ++ tail).length ≤ fuel) : ∃ left, tail.length ≤ left ∧
      lexFrom limits fuel tokens (escape value ++ tail) =
        lexFrom limits left (tokens ++ [.string value]) tail := by
  obtain ⟨character, rest, hcons, hspace, htoken⟩ := lexToken_escape hplain hroom htail
  rw [hcons] at hfuel ⊢
  cases fuel with
  | zero => cases hfuel
  | succ fuel =>
    have hshorter := (lexToken_taken hspace htoken).shorter
    refine ⟨fuel, hshorter.trans (Nat.le_of_succ_le_succ hfuel), ?_⟩
    exact lexFrom_step hspace htoken (by simpa using htokens)

theorem lex_escape (hplain : Plain value) (hroom : byteLen value ≤ limits.maxTokenBytes)
    (htokens : 1 ≤ limits.maxTokens) : lex (escape value) limits = .ok [.string value] := by
  obtain ⟨left, -, hlex⟩ := lexFrom_escape (escape value ++ []).length [] [] hplain hroom htokens
    nofun le_rfl
  rw [List.append_nil] at hlex
  rw [lex, hlex]
  cases left <;> rfl

theorem lex_field {field : Text} (hfield : Plain field) (hplain : Plain value)
    (hfieldRoom : byteLen field ≤ limits.maxTokenBytes)
    (hroom : byteLen value ≤ limits.maxTokenBytes) (htokens : 3 ≤ limits.maxTokens) :
    lex (escape field ++ ':' :: escape value) limits =
      .ok [.string field, .colon, .string value] := by
  have hone : ([] : List Token).length + 1 ≤ limits.maxTokens := (by decide : 1 ≤ 3).trans htokens
  obtain ⟨left, hleft, hlex⟩ := lexFrom_escape (escape field ++ ':' :: escape value).length []
    (':' :: escape value) hfield hfieldRoom hone (fun character hmem => Option.some.inj hmem ▸ rfl)
    le_rfl
  rw [lex, hlex]
  cases left with
  | zero => cases hleft
  | succ left =>
    have hcolon : lexToken limits ':' (escape value) = .ok (.colon, escape value) := rfl
    have htwo : ([] ++ [Token.string field] ++ [Token.colon]).length ≤ limits.maxTokens :=
      (by decide : 2 ≤ 3).trans htokens
    rw [lexFrom_step (by decide) hcolon htwo]
    rw [List.length_cons, Nat.add_le_add_iff_right] at hleft
    obtain ⟨last, -, hlex⟩ := lexFrom_escape left [.string field, .colon] [] hplain
      hroom htokens nofun (by simpa using hleft)
    rw [List.append_nil] at hlex
    refine hlex.trans ?_
    cases last <;> rfl

variable {field : Option Text}

theorem term_match (hwild : '*' ∉ value ∧ '?' ∉ value) (hslash : ¬ SlashDelimited value) :
    term field value = .ok (.term field value .match_) := by
  rw [term, if_neg (show ¬ (_ ∧ _) from hslash), if_neg (not_or.mpr hwild)]

theorem word_match (hwild : '*' ∉ value ∧ '?' ∉ value) (hslash : ¬ SlashDelimited value) :
    word field value [] = .ok (.term field value .match_, []) := by
  change (term field value >>= fun expression => _) = _
  rw [term_match hwild hslash]
  rfl

theorem parse_expression {expression : Expression}
    (htokens : parseOccur tokens = (.should, tokens)) (hnonempty : tokens ≠ [])
    (hclauses : 1 ≤ limits.maxClauses) (h : parseExpression tokens = .ok (expression, [])) :
    parse tokens limits = .ok (.boolean [⟨.should, expression, none⟩]) := by
  obtain ⟨room, hroom⟩ := Nat.exists_eq_add_of_le' hclauses
  have hclause : parseClause tokens = .ok (⟨.should, expression, none⟩, []) := by
    rw [parseClause, htokens]
    dsimp only
    rw [h]
    rfl
  have hnone : parseClauses room [] = .ok [] := by cases room <;> rfl
  cases tokens with
  | nil => exact absurd rfl hnonempty
  | cons token rest =>
    rw [parse, hroom, parseClauses.eq_def]
    dsimp only
    rw [hclause, ok_bind]
    dsimp only
    rw [hnone]
    rfl

theorem parseQuery_of {input : Text} {query : Query} (hempty : input ≠ []) (hstar : input ≠ ['*'])
    (hroom : byteLen input ≤ limits.maxQueryBytes) (hlex : lex input limits = .ok tokens)
    (hnonempty : tokens ≠ []) (hparse : parse tokens limits = .ok query) :
    parseQuery input limits = .ok query := by
  unfold parseQuery
  rw [require_of hroom, if_neg hempty, if_neg hstar, hlex]
  change (lift (require (tokens ≠ []) syntaxError) >>= fun _ => lift (parse tokens limits)) = _
  rw [require_of hnonempty, hparse]
  rfl

theorem escape_special (hplain : Plain value) : escape value ≠ [] ∧ escape value ≠ ['*'] := by
  cases value with
  | nil => exact absurd rfl hplain.nonempty
  | cons character value =>
    rw [← List.append_nil (escape _)]
    by_cases hreserved : character ∈ reservedChars
    · rw [escape_reserved hreserved]
      exact ⟨nofun, nofun⟩
    · rw [escape_unreserved hreserved]
      refine ⟨nofun, fun hstar => hreserved ?_⟩
      rw [(List.cons.inj hstar).1]
      decide

structure RoundTrips (value : Text) (limits : QueryLimits) : Prop where
  alone : byteLen (escape value) ≤ limits.maxQueryBytes → 1 ≤ limits.maxTokens →
    parseQuery (escape value) limits =
      .ok (.boolean [⟨.should, .term none value .match_, none⟩])
  fielded : ∀ field, Plain field → byteLen field ≤ limits.maxTokenBytes →
    byteLen (escape field ++ ':' :: escape value) ≤ limits.maxQueryBytes → 3 ≤ limits.maxTokens →
    parseQuery (escape field ++ ':' :: escape value) limits =
      .ok (.boolean [⟨.should, .term (some field) value .match_, none⟩])

theorem escaped_term_round_trip (limits : QueryLimits) (hnonempty : value ≠ [])
    (hwild : '*' ∉ value ∧ '?' ∉ value) (hslash : ¬ SlashDelimited value)
    (hstarted : ∀ character ∈ value.head?, isWhitespace character = false)
    (hnumeric : ¬ Numeric value) (htoken : byteLen value ≤ limits.maxTokenBytes)
    (hclauses : 1 ≤ limits.maxClauses) : RoundTrips value limits := by
  have hplain : Plain value := ⟨hnonempty, hstarted, hnumeric⟩
  refine ⟨fun hquery htokens => ?_, fun field hfield hfieldRoom hquery htokens => ?_⟩
  · obtain ⟨hempty, hstar⟩ := escape_special hplain
    exact parseQuery_of hempty hstar hquery (lex_escape hplain htoken htokens) nofun
      (parse_expression rfl nofun hclauses (word_match hwild hslash))
  · refine parseQuery_of ?_ ?_ hquery (lex_field hfield hplain hfieldRoom htoken htokens) nofun
      (parse_expression rfl nofun hclauses (word_match hwild hslash))
    · exact List.append_ne_nil_of_right_ne_nil _ nofun
    · intro hstar
      have hmem : ':' ∈ escape field ++ ':' :: escape value := by simp
      rw [hstar] at hmem
      exact absurd hmem (by decide)

theorem escaped_term_round_trip_sample :
    escape "a:b c/1".toList = "a\\:b\\ c\\/1".toList ∧
      RoundTrips "a:b c/1".toList .default := by
  refine ⟨by decide, escaped_term_round_trip .default nofun (by decide) (by decide) ?_ ?_
    (by decide) (by decide)⟩
  · intro character hmem
    cases hmem
    decide
  · rintro ⟨-, hdigits, -⟩
    exact absurd (hdigits 'a' (by decide)) (by decide)

end QueryCore
