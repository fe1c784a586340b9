import TrillionniumGame.QueryCore.Lexer

namespace QueryCore
open Checks
open GoText (ofRunes)
open Persistence (DomainError RetryClass StableCode)

inductive Occur where
  | should | must | mustNot
  deriving DecidableEq

inductive TermKind where
  | match_ | wildcard | regexp
  deriving DecidableEq

inductive Comparison where
  | greaterThan | greaterThanOrEqual | lessThan | lessThanOrEqual
  deriving DecidableEq

inductive Expression where
  | term (field : Option Text) (value : Text) (kind : TermKind)
  | phrase (field : Option Text) (value : Text)
  | numberExact (field : Option Text) (value : Text)
  | fuzzy (field : Option Text) (value fuzziness : Text)
  | numericRange (field : Text) (comparison : Comparison) (value : Text)
  | dateRange (field : Text) (comparison : Comparison) (value : Text)
  deriving DecidableEq

structure Clause where
  occur : Occur
  expression : Expression
  boost : Option Text
  deriving DecidableEq

inductive Query where
  | matchAll | matchNone
  | boolean (clauses : List Clause)
  deriving DecidableEq

def stripSign : Text → Text
  | '+' :: rest => rest
  | '-' :: rest => rest
  | text => text

def exponentOk : Text → Bool
  | [] => true
  | mark :: rest =>
    let digits := stripSign rest
    (mark = 'e' || mark = 'E') && !digits.isEmpty && digits.all (·.isDigit)

def numberOk (text : Text) : Bool :=
  let whole := text.takeWhile (·.isDigit)
  match text.dropWhile (·.isDigit) with
  | '.' :: rest =>
    let fraction := rest.takeWhile (·.isDigit)
    !(whole.isEmpty && fraction.isEmpty) && exponentOk (rest.dropWhile (·.isDigit))
  | rest => !whole.isEmpty && exponentOk rest

def parsesF64 (text : Text) : Bool :=
  let unsigned := stripSign text
  ["inf".toList, "infinity".toList, "nan".toList].contains (unsigned.map Char.toLower) ||
    numberOk unsigned

def validateFloat (value : Text) (reason : String) : Except DomainError Unit :=
  require (parsesF64 value = true) (failure .invalidArgument reason)

def invalidDate : DomainError := failure .invalidArgument "invalid_query_date"

def isAsciiDigit (byte : UInt8) : Bool := 48 ≤ byte && byte ≤ 57

def decimal (bytes : List UInt8) (start finish : Nat) : Except DomainError Nat := do
  require (finish ≤ bytes.length) invalidDate
  let slice := (bytes.take finish).drop start
  require (slice.all isAsciiDigit = true) invalidDate
  return slice.foldl (fun value digit => value * 10 + (digit - 48).toNat) 0

def isLeapYear (year : Nat) : Bool := year % 4 = 0 && (year % 100 ≠ 0 || year % 400 = 0)

def daysInMonth (year month : Nat) : Nat :=
  if month ∈ [1, 3, 5, 7, 8, 10, 12] then 31
  else if month ∈ [4, 6, 9, 11] then 30
  else if month = 2 then if isLeapYear year then 29 else 28
  else 0

def ascii (character : Char) : UInt8 := UInt8.ofNat character.toNat

def skipFraction (bytes : List UInt8) : Except DomainError Nat :=
  if bytes[19]? = some (ascii '.') then do
    let digits := ((bytes.drop 20).takeWhile isAsciiDigit).length
    require (digits ≠ 0) invalidDate
    return 20 + digits
  else .ok 19

def validateRfc3339 (value : Text) : Except DomainError Unit := do
  let bytes := ofRunes value
  require (20 ≤ bytes.length ∧ bytes[4]? = some (ascii '-') ∧ bytes[7]? = some (ascii '-') ∧
    bytes[10]? = some (ascii 'T') ∧ bytes[13]? = some (ascii ':') ∧
    bytes[16]? = some (ascii ':')) invalidDate
  let year ← decimal bytes 0 4
  let month ← decimal bytes 5 7
  let day ← decimal bytes 8 10
  let hour ← decimal bytes 11 13
  let minute ← decimal bytes 14 16
  let second ← decimal bytes 17 19
  require (1 ≤ month ∧ month ≤ 12 ∧ hour ≤ 23 ∧ minute ≤ 59 ∧ second ≤ 59 ∧ day ≠ 0 ∧
    day ≤ daysInMonth year month) invalidDate
  let index ← skipFraction bytes
  if bytes[index]? = some (ascii 'Z') ∧ index + 1 = bytes.length then return ()
  else
    require ((bytes[index]? = some (ascii '+') ∨ bytes[index]? = some (ascii '-')) ∧
      index + 6 = bytes.length) invalidDate
    require (bytes[index + 3]? = some (ascii ':')) invalidDate
    let offsetHour ← decimal bytes (index + 1) (index + 3)
    let offsetMinute ← decimal bytes (index + 4) (index + 6)
    require (offsetHour ≤ 23 ∧ offsetMinute ≤ 59) invalidDate

def term (field : Option Text) (value : Text) : Except DomainError Expression :=
  if value.head? = some '/' ∧ value.getLast? = some '/' then do
    require (2 ≤ byteLen value) (failure .invalidArgument "invalid_query_regexp")
    return .term field value .regexp
  else if '*' ∈ value ∨ '?' ∈ value then .ok (.term field value .wildcard)
  else .ok (.term field value .match_)

abbrev Reading (α : Type) := List Token → Except DomainError (α × List Token)

def number (build : Text → Expression) (value : Text) (rest : List Token) :
    Except DomainError (Expression × List Token) := do
  validateFloat value "invalid_query_number"
  return (build value, rest)

def negativeNumber (build : Text → Expression) : Reading Expression
  | .number value :: rest => number build ('-' :: value) rest
  | _ => .error syntaxError

def word (field : Option Text) (value : Text) : Reading Expression
  | .tilde fuzziness :: rest => do
    validateFloat fuzziness "invalid_query_fuzziness"
    return (.fuzzy field value fuzziness, rest)
  | rest => do
    let expression ← term field value
    return (expression, rest)

def comparison (greater inclusive : Bool) : Comparison :=
  match greater, inclusive with
  | true, false => .greaterThan
  | true, true => .greaterThanOrEqual
  | false, false => .lessThan
  | false, true => .lessThanOrEqual

def parseBound (field : Text) (comparison : Comparison) : Reading Expression
  | .number value :: rest => number (.numericRange field comparison) value rest
  | .minus :: rest => negativeNumber (.numericRange field comparison) rest
  | .phrase value :: rest => do
    validateRfc3339 value
    return (.dateRange field comparison value, rest)
  | _ => .error syntaxError

def parseRange (field : Text) (greater : Bool) : Reading Expression
  | .equal :: rest => parseBound field (comparison greater true) rest
  | rest => parseBound field (comparison greater false) rest

def parseFieldExpression (field : Text) : Reading Expression
  | .string value :: rest => word (some field) value rest
  | .number value :: rest => number (.numberExact (some field)) value rest
  | .minus :: rest => negativeNumber (.numberExact (some field)) rest
  | .phrase value :: rest => .ok (.phrase (some field) value, rest)
  | .greater :: rest => parseRange field true rest
  | .less :: rest => parseRange field false rest
  | _ => .error syntaxError

def parseExpression : Reading Expression
  | .string value :: .colon :: rest => parseFieldExpression value rest
  | .string value :: rest => word none value rest
  | .number value :: rest => number (.numberExact none) value rest
  | .phrase value :: rest => .ok (.phrase none value, rest)
  | _ => .error syntaxError

def parseOccur : List Token → Occur × List Token
  | .plus :: rest => (.must, rest)
  | .minus :: rest => (.mustNot, rest)
  | rest => (.should, rest)

def parseBoost : Reading (Option Text)
  | .boost value :: rest => do
    validateFloat value "invalid_query_boost"
    return (some value, rest)
  | rest => .ok (none, rest)

def parseClause : Reading Clause := fun tokens => do
  let (occur, tokens) := parseOccur tokens
  let (expression, tokens) ← parseExpression tokens
  let (boost, tokens) ← parseBoost tokens
  return (⟨occur, expression, boost⟩, tokens)

def parseClauses : Nat → List Token → Except DomainError (List Clause)
  | _, [] => .ok []
  | 0, _ :: _ => .error (failure .resourceExhausted "query_clause_limit_exceeded")
  | room + 1, tokens => do
    let (clause, rest) ← parseClause tokens
    let clauses ← parseClauses room rest
    return clause :: clauses

def parse (tokens : List Token) (limits : QueryLimits) : Except DomainError Query := do
  let clauses ← parseClauses limits.maxClauses tokens
  return .boolean clauses

def parseQuery (input : Text) (limits : QueryLimits) : Except Stop Query := do
  lift (require (byteLen input ≤ limits.maxQueryBytes)
    (failure .resourceExhausted "query_too_large"))
  if input = [] then return .matchNone
  else if input = ['*'] then return .matchAll
  else
    let tokens ← lex input limits
    lift (require (tokens ≠ []) syntaxError)
    lift (parse tokens limits)

end QueryCore
