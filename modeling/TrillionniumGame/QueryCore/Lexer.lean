import TrillionniumGame.Foundation.Checks
import TrillionniumGame.Foundation.GoJson
import TrillionniumGame.Persistence.Contracts

namespace QueryCore
open Checks
open GoText (ofRunes)
open Persistence (DomainError RetryClass StableCode)

abbrev Text := List Char

structure QueryLimits where
  maxQueryBytes : Nat
  maxTokenBytes : Nat
  maxTokens : Nat
  maxClauses : Nat

def QueryLimits.default : QueryLimits where
  maxQueryBytes := 4096
  maxTokenBytes := 1024
  maxTokens := 256
  maxClauses := 64

def failure (code : StableCode) (reason : String) : DomainError := ⟨code, reason, .never⟩

def syntaxError : DomainError := failure .invalidArgument "invalid_query_syntax"

def byteLen (text : Text) : Nat := (ofRunes text).length

def isWhitespace (character : Char) : Bool :=
  let n := character.toNat
  (9 ≤ n && n ≤ 13) || n = 32 || n = 0x85 || n = 0xa0 || n = 0x1680 ||
    (0x2000 ≤ n && n ≤ 0x200a) || n = 0x2028 || n = 0x2029 || n = 0x202f || n = 0x205f || n = 0x3000

def reservedChars : Text := "+-=&|><!(){}[]^\"~*?:\\/ ".toList

inductive Token where
  | string (value : Text)
  | phrase (value : Text)
  | number (value : Text)
  | plus | minus | colon | greater | less | equal
  | tilde (value : Text)
  | boost (value : Text)
  deriving DecidableEq

def unescape (character : Char) : Text :=
  if character ∈ reservedChars then [character] else ['\\', character]

variable (limits : QueryLimits)

def pushChecked (destination value : Text) : Except DomainError Text := do
  require (byteLen destination + byteLen value ≤ limits.maxTokenBytes)
    (failure .resourceExhausted "query_token_too_large")
  return destination ++ value

def pushCharChecked (destination : Text) (value : Char) : Except DomainError Text :=
  pushChecked limits destination [value]

def readPhrase (limits : QueryLimits) (value : Text) (escaped : Bool) :
    Text → Except DomainError (Text × Text)
  | [] => .error (failure .invalidArgument "unterminated_query_quote")
  | character :: rest =>
    if escaped then do
      let value ← pushChecked limits value (unescape character)
      readPhrase limits value false rest
    else if character = '\\' then readPhrase limits value true rest
    else if character = '"' then .ok (value, rest)
    else do
      let value ← pushCharChecked limits value character
      readPhrase limits value false rest

def defaultSuffix (value : Text) : Text := if value = [] then ['1'] else value

def readSuffix (limits : QueryLimits) (value : Text) : Text → Except DomainError (Text × Text)
  | [] => .ok (defaultSuffix value, [])
  | character :: rest =>
    if character = ' ' then .ok (defaultSuffix value, rest)
    else if character = '\\' then
      match rest with
      | escaped :: rest => do
        let value ← pushChecked limits value (unescape escaped)
        readSuffix limits value rest
      | [] => .ok (defaultSuffix value, [])
    else do
      let value ← pushCharChecked limits value character
      readSuffix limits value rest

def endsWord (character : Char) : Bool := character = ' ' || character ∈ [':', '^', '~']

def nextFlags (numeric seenDot : Bool) (character : Char) : Bool × Bool :=
  if numeric then
    if character.isDigit then (true, seenDot)
    else if character = '.' ∧ seenDot = false then (true, true)
    else (false, seenDot)
  else (false, seenDot)

def readWord (limits : QueryLimits) (value : Text) (numeric seenDot : Bool) :
    Text → Except DomainError (Text × Bool × Text)
  | [] => .ok (value, numeric, [])
  | character :: rest =>
    if endsWord character then .ok (value, numeric, character :: rest)
    else if character = '\\' then
      match rest with
      | escaped :: rest => do
        let value ← pushChecked limits value (unescape escaped)
        readWord limits value false seenDot rest
      | [] => .ok (value, numeric, [character])
    else do
      let (numeric, seenDot) := nextFlags numeric seenDot character
      let value ← pushCharChecked limits value character
      readWord limits value numeric seenDot rest

def readStringContinuation (value rest : Text) : Except DomainError (Text × Text) :=
  (readWord limits value false false rest).map fun (value, _, next) => (value, next)

def lexToken (character : Char) (rest : Text) : Except DomainError (Token × Text) :=
  if character = '"' then do
    let (value, next) ← readPhrase limits [] false rest
    return (.phrase value, next)
  else if character = '+' then .ok (.plus, rest)
  else if character = '-' then .ok (.minus, rest)
  else if character = ':' then .ok (.colon, rest)
  else if character = '>' then .ok (.greater, rest)
  else if character = '<' then .ok (.less, rest)
  else if character = '=' then .ok (.equal, rest)
  else if character = '^' then do
    let (value, next) ← readSuffix limits [] rest
    return (.boost value, next)
  else if character = '~' then do
    let (value, next) ← readSuffix limits [] rest
    return (.tilde value, next)
  else if character = '\\' then
    match rest with
    | [] => .error (failure .invalidArgument "dangling_query_escape")
    | escaped :: rest => do
      let (value, next) ← readStringContinuation limits (unescape escaped) rest
      return (.string value, next)
  else if character.isDigit then do
    let (value, numeric, next) ← readWord limits [] true false (character :: rest)
    return (if numeric then .number value else .string value, next)
  else do
    let (value, _, next) ← readWord limits [] false false (character :: rest)
    return (.string value, next)

inductive Stop where
  | error (error : DomainError)
  | exhausted
  deriving DecidableEq

def lift {α : Type} (x : Except DomainError α) : Except Stop α := x.mapError .error

def lexFrom (limits : QueryLimits) : Nat → List Token → Text → Except Stop (List Token)
  | _, tokens, [] => .ok tokens
  | 0, _, _ :: _ => .error .exhausted
  | fuel + 1, tokens, character :: rest =>
    if isWhitespace character then lexFrom limits fuel tokens rest
    else do
      let (token, next) ← lift (lexToken limits character rest)
      lift (require ((tokens ++ [token]).length ≤ limits.maxTokens)
        (failure .resourceExhausted "query_token_limit_exceeded"))
      lexFrom limits fuel (tokens ++ [token]) next

def lex (input : Text) (limits : QueryLimits) : Except Stop (List Token) :=
  lexFrom limits input.length [] input

variable {limits : QueryLimits} {value value' rest next : Text}

theorem readPhrase_shorter {escaped : Bool}
    (h : readPhrase limits value escaped rest = .ok (value', next)) :
    next.length < rest.length := by
  induction rest generalizing value escaped with
  | nil => cases h
  | cons character rest ih =>
    rw [readPhrase] at h
    rw [List.length_cons]
    split at h
    · obtain ⟨_, -, h⟩ := bind_ok.mp h
      exact (ih h).trans (Nat.lt_succ_self _)
    · split at h
      · exact (ih h).trans (Nat.lt_succ_self _)
      · split at h
        · cases h
          exact Nat.lt_succ_self _
        · obtain ⟨_, -, h⟩ := bind_ok.mp h
          exact (ih h).trans (Nat.lt_succ_self _)

theorem readSuffix_shorter (h : readSuffix limits value rest = .ok (value', next)) :
    next.length ≤ rest.length := by
  induction rest using List.twoStepInduction generalizing value with
  | nil =>
    cases h
    exact le_rfl
  | singleton character =>
    rw [readSuffix] at h
    split at h
    · cases h
      exact Nat.zero_le _
    · split at h
      · cases h
        exact Nat.zero_le _
      · obtain ⟨_, -, h⟩ := bind_ok.mp h
        cases h
        exact Nat.zero_le _
  | cons_cons character escaped rest ih ih' =>
    rw [readSuffix] at h
    split at h
    · cases h
      exact Nat.le_succ _
    · split at h
      · obtain ⟨_, -, h⟩ := bind_ok.mp h
        exact (ih h).trans (Nat.le_add_right _ 2)
      · obtain ⟨_, -, h⟩ := bind_ok.mp h
        exact (ih' _ h).trans (by simp)

theorem pushChecked_ok {destination : Text}
    (h : pushChecked limits destination value = .ok value') : value' = destination ++ value := by
  obtain ⟨_, -, h⟩ := bind_ok.mp h
  exact (Except.ok.inj h).symm

variable {numeric seenDot numeric' : Bool}

theorem readWord_grows
    (h : readWord limits value numeric seenDot rest = .ok (value', numeric', next)) :
    next.length ≤ rest.length ∧ value <+: value' := by
  induction rest using List.twoStepInduction generalizing value numeric seenDot with
  | nil =>
    cases h
    exact ⟨le_rfl, List.prefix_refl _⟩
  | singleton character =>
    rw [readWord] at h
    split at h
    · cases h
      exact ⟨le_rfl, List.prefix_refl _⟩
    · split at h
      · cases h
        exact ⟨le_rfl, List.prefix_refl _⟩
      · obtain ⟨_, hpush, h⟩ := bind_ok.mp h
        cases h
        exact ⟨Nat.zero_le _, pushChecked_ok hpush ▸ List.prefix_append _ _⟩
  | cons_cons character escaped rest ih ih' =>
    rw [readWord] at h
    split at h
    · cases h
      exact ⟨le_rfl, List.prefix_refl _⟩
    · split at h
      · obtain ⟨_, hpush, h⟩ := bind_ok.mp h
        obtain ⟨hshorter, hgrows⟩ := ih h
        exact ⟨hshorter.trans (Nat.le_add_right _ 2),
          (pushChecked_ok hpush ▸ List.prefix_append _ _).trans hgrows⟩
      · obtain ⟨_, hpush, h⟩ := bind_ok.mp h
        obtain ⟨hshorter, hgrows⟩ := ih' _ h
        exact ⟨hshorter.trans (by simp),
          (pushChecked_ok hpush ▸ List.prefix_append _ _).trans hgrows⟩

variable {character : Char}

theorem readWord_first (hword : endsWord character = false) (hescape : character ≠ '\\')
    (h : readWord limits [] numeric seenDot (character :: rest) = .ok (value, numeric', next)) :
    next.length ≤ rest.length ∧ value.head? = some character := by
  rw [readWord.eq_def] at h
  dsimp only at h
  rw [hword, if_neg Bool.false_ne_true, if_neg hescape] at h
  obtain ⟨_, hpush, h⟩ := bind_ok.mp h
  obtain ⟨hshorter, hgrows⟩ := readWord_grows h
  rw [pushChecked_ok hpush] at hgrows
  obtain ⟨tail, rfl⟩ := hgrows
  exact ⟨hshorter, rfl⟩

structure Taken (rest : Text) (token : Token) (next : Text) : Prop where
  shorter : next.length ≤ rest.length
  unsigned : ∀ value, token = .number value → value.head? ≠ some '-'

variable {token : Token}

theorem taken_mark {mark : Token} (hmark : ∀ value, mark ≠ .number value)
    (h : (.ok (mark, rest) : Except DomainError (Token × Text)) = .ok (token, next)) :
    Taken rest token next := by
  cases h
  exact ⟨le_rfl, fun value heq => absurd heq (hmark value)⟩

theorem taken_suffix {mark : Text → Token} (hmark : ∀ suffix value, mark suffix ≠ .number value)
    (h : (do
      let (value, next) ← readSuffix limits [] rest
      return (mark value, next)) = .ok (token, next)) : Taken rest token next := by
  obtain ⟨⟨suffix, after⟩, hread, h⟩ := bind_ok.mp h
  cases h
  exact ⟨readSuffix_shorter hread, fun value heq => absurd heq (hmark suffix value)⟩

theorem lexToken_taken (hspace : isWhitespace character = false)
    (h : lexToken limits character rest = .ok (token, next)) : Taken rest token next := by
  unfold lexToken at h
  rcases ite_eq_iff.mp h with ⟨hquote, h⟩ | ⟨hquote, h⟩
  · obtain ⟨⟨value, after⟩, hread, h⟩ := bind_ok.mp h
    cases h
    exact ⟨(readPhrase_shorter hread).le, nofun⟩
  rcases ite_eq_iff.mp h with ⟨hplus, h⟩ | ⟨hplus, h⟩
  · exact taken_mark (by nofun) h
  rcases ite_eq_iff.mp h with ⟨hminus, h⟩ | ⟨hminus, h⟩
  · exact taken_mark (by nofun) h
  rcases ite_eq_iff.mp h with ⟨hcolon, h⟩ | ⟨hcolon, h⟩
  · exact taken_mark (by nofun) h
  rcases ite_eq_iff.mp h with ⟨hgreater, h⟩ | ⟨hgreater, h⟩
  · exact taken_mark (by nofun) h
  rcases ite_eq_iff.mp h with ⟨hless, h⟩ | ⟨hless, h⟩
  · exact taken_mark (by nofun) h
  rcases ite_eq_iff.mp h with ⟨hequal, h⟩ | ⟨hequal, h⟩
  · exact taken_mark (by nofun) h
  rcases ite_eq_iff.mp h with ⟨hboost, h⟩ | ⟨hboost, h⟩
  · exact taken_suffix (by nofun) h
  rcases ite_eq_iff.mp h with ⟨htilde, h⟩ | ⟨htilde, h⟩
  · exact taken_suffix (by nofun) h
  rcases ite_eq_iff.mp h with ⟨hescape, h⟩ | ⟨hescape, h⟩
  · cases rest with
    | nil => cases h
    | cons escaped rest =>
      obtain ⟨⟨value, after⟩, hread, h⟩ := bind_ok.mp h
      cases h
      obtain ⟨⟨value', numeric, next'⟩, hread, heq⟩ := map_ok.mp hread
      cases heq
      exact ⟨(readWord_grows hread).1.trans (Nat.le_succ _), nofun⟩
  have hword : endsWord character = false := by
    have hblank : character ≠ ' ' := by
      rintro rfl
      exact absurd hspace (by decide)
    simp [endsWord, hblank, hcolon, hboost, htilde]
  rcases ite_eq_iff.mp h with ⟨hdigit, h⟩ | ⟨hdigit, h⟩
  · obtain ⟨⟨value, numeric, after⟩, hread, h⟩ := bind_ok.mp h
    obtain ⟨hshorter, hfirst⟩ := readWord_first hword hescape hread
    cases h
    refine ⟨hshorter, fun number heq => ?_⟩
    split at heq
    · cases heq
      rw [hfirst]
      exact fun hsame => hminus (Option.some.inj hsame)
    · cases heq
  · obtain ⟨⟨value, numeric, after⟩, hread, h⟩ := bind_ok.mp h
    cases h
    exact ⟨(readWord_first hword hescape hread).1, nofun⟩

theorem lexFrom_ends (fuel : Nat) (tokens : List Token) (input : Text)
    (hfuel : input.length ≤ fuel) : lexFrom limits fuel tokens input ≠ .error .exhausted := by
  induction fuel generalizing tokens input with
  | zero =>
    rw [List.length_eq_zero_iff.mp (Nat.le_zero.mp hfuel)]
    nofun
  | succ fuel ih =>
    cases input with
    | nil => nofun
    | cons character rest =>
      rw [List.length_cons, Nat.add_le_add_iff_right] at hfuel
      rw [lexFrom]
      cases hspace : isWhitespace character with
      | true =>
        rw [if_pos rfl]
        exact ih tokens rest hfuel
      | false =>
        rw [if_neg Bool.false_ne_true, Ne, bind_error, not_or]
        refine ⟨?_, ?_⟩
        · cases lexToken limits character rest <;> nofun
        · rintro ⟨⟨token, next⟩, htoken, h⟩
          have htaken := lexToken_taken hspace (mapError_ok.mp htoken)
          obtain hlimit | ⟨_, -, h⟩ := bind_error.mp h
          · unfold lift at hlimit
            cases hrequire : require ((tokens ++ [token]).length ≤ limits.maxTokens)
              (failure .resourceExhausted "query_token_limit_exceeded") <;>
              rw [hrequire] at hlimit <;> cases hlimit
          · exact ih _ next (htaken.shorter.trans hfuel) h

theorem lex_terminates (input : Text) (limits : QueryLimits) :
    lex input limits ≠ .error .exhausted :=
  lexFrom_ends _ _ _ le_rfl

def Unsigned (tokens : List Token) : Prop :=
  ∀ value, .number value ∈ tokens → value.head? ≠ some '-'

variable {tokens : List Token} {input : Text}

theorem lexFrom_unsigned {fuel : Nat} {tokens' : List Token} (htokens : Unsigned tokens)
    (h : lexFrom limits fuel tokens input = .ok tokens') : Unsigned tokens' := by
  induction fuel generalizing tokens input with
  | zero =>
    cases input with
    | nil =>
      cases h
      exact htokens
    | cons character rest => cases h
  | succ fuel ih =>
    cases input with
    | nil =>
      cases h
      exact htokens
    | cons character rest =>
      rw [lexFrom] at h
      cases hspace : isWhitespace character with
      | true =>
        rw [hspace, if_pos rfl] at h
        exact ih htokens h
      | false =>
        rw [hspace, if_neg Bool.false_ne_true] at h
        obtain ⟨⟨token, next⟩, htoken, h⟩ := bind_ok.mp h
        obtain ⟨_, -, h⟩ := bind_ok.mp h
        have htaken := lexToken_taken hspace (mapError_ok.mp htoken)
        refine ih (fun value hmem => ?_) h
        rcases List.mem_append.mp hmem with hold | hnew
        · exact htokens value hold
        · exact htaken.unsigned value (List.mem_singleton.mp hnew).symm

theorem lex_unsigned (h : lex input limits = .ok tokens) : Unsigned tokens := by
  have hnil : Unsigned [] := fun _ hmem => (List.not_mem_nil hmem).elim
  exact lexFrom_unsigned hnil h

end QueryCore
