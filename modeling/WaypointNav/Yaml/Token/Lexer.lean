import WaypointNav.Yaml.Token.Draft
import WaypointNav.Yaml.Token

/-! What a lexer knows between two characters. A key is only recognized at its colon, so the place of
every token that may turn out to be one is remembered, and the key is put in there later. -/
namespace WaypointNav.Yaml

structure KeyPlace where
  before : Nat
  required : Bool
  index : Nat
  line : Nat
  column : Nat

inductive Mode
  | gap
  | comment
  | plain (scalar : Draft)
  | quoted (quote : Char) (scalar : Draft)

structure Lexer where
  mode : Mode := .gap
  skip : Nat := 0
  /-- in bytes; columns are in characters -/
  index : Nat := 0
  line : Nat := 0
  column : Nat := 0
  indents : List Nat := []
  keyAllowed : Bool := true
  key : Option KeyPlace := none
  outerKeys : List (Option KeyPlace) := []
  tokens : List Token := []
  count : Nat := 0

namespace Lexer

def inFlow (s : Lexer) : Bool :=
  !s.outerKeys.isEmpty

def limit (s : Lexer) : Nat :=
  match s.indents with
  | [] => 0
  | indent :: _ => indent + 1

def advance (s : Lexer) (c : Char) : Lexer :=
  let s := { s with index := s.index + c.utf8Size }
  if isBreak c then { s with line := s.line + 1, column := 0 }
  else { s with column := s.column + 1 }

def emit (s : Lexer) (token : Token) : Lexer :=
  { s with tokens := token :: s.tokens, count := s.count + 1 }

def emitAt (s : Lexer) (before : Nat) (token : Token) : Lexer :=
  let later := s.count - before
  { s with tokens := s.tokens.take later ++ token :: s.tokens.drop later, count := s.count + 1 }

def indent (s : Lexer) (column before : Nat) (token : Token) : Lexer :=
  if s.inFlow || column < s.limit then s
  else { s.emitAt before token with indents := column :: s.indents }

def dedent (s : Lexer) (tooDeep : Nat → Bool) : Lexer :=
  if s.inFlow then s
  else
    let ended := (s.indents.takeWhile tooDeep).length
    { s with
      indents := s.indents.drop ended
      tokens := List.replicate ended .blockEnd ++ s.tokens
      count := s.count + ended }

def dropKey (s : Lexer) : Except Flaw Lexer :=
  if s.key.any (·.required) then .error .noColon else .ok { s with key := none }

def saveKey (s : Lexer) : Except Flaw Lexer := do
  if s.keyAllowed then
    let s ← s.dropKey
    let required := !s.inFlow && s.indents.head? == some s.column
    return { s with key := some ⟨s.count, required, s.index, s.line, s.column⟩ }
  else return s

/-- A key ends on its line, and within 1024 bytes. -/
def isStale (s : Lexer) (place : KeyPlace) : Bool :=
  place.line < s.line || place.index + 1024 < s.index

def expireKeys (s : Lexer) : Except Flaw Lexer :=
  if (s.key :: s.outerKeys).any (·.any fun place => place.required && s.isStale place) then
    .error .noColon
  else
    let keep := Option.filter fun place => !s.isStale place
    .ok { s with key := keep s.key, outerKeys := s.outerKeys.map keep }

end Lexer

end WaypointNav.Yaml
