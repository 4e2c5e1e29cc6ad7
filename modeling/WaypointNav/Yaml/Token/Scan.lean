import WaypointNav.Yaml.Token.Lexer

/-! From characters to tokens, one character at a time with a short look ahead. -/
namespace WaypointNav.Yaml

namespace Lexer

def document (s : Lexer) (token : Token) : Except Flaw Lexer := do
  let s ← (s.dedent fun _ => true).dropKey
  return { s.emit token with keyAllowed := false, skip := 2 }

def openFlow (s : Lexer) (token : Token) : Except Flaw Lexer := do
  let s ← s.saveKey
  return { s.emit token with keyAllowed := true, key := none, outerKeys := s.key :: s.outerKeys }

def closeFlow (s : Lexer) (token : Token) : Except Flaw Lexer := do
  let s ← s.dropKey
  let key := s.outerKeys.head?.join
  return { s.emit token with keyAllowed := false, key, outerKeys := s.outerKeys.drop 1 }

def comma (s : Lexer) : Except Flaw Lexer := do
  let s ← s.dropKey
  return { s.emit .comma with keyAllowed := true }

/-- Begins an item or an explicit key, which outside of flow needs a fresh start. -/
def introduce (s : Lexer) (collection : Token) (what : String) : Except Flaw Lexer :=
  if s.inFlow then .ok s
  else if s.keyAllowed then .ok (s.indent s.column s.count collection)
  else .error (.misplaced what)

def dash (s : Lexer) : Except Flaw Lexer := do
  let s ← s.introduce .blockList "block sequence entries"
  let s ← s.dropKey
  return { s.emit .dash with keyAllowed := true }

def explicitKey (s : Lexer) : Except Flaw Lexer := do
  let s ← s.introduce .blockMap "mapping keys"
  let s ← s.dropKey
  return { s.emit .key with keyAllowed := !s.inFlow }

def colon (s : Lexer) : Except Flaw Lexer :=
  match s.key with
  | some place =>
    let s := (s.emitAt place.before .key).indent place.column place.before .blockMap
    .ok { s.emit .value with key := none, keyAllowed := false }
  | none => do
    let s ← s.introduce .blockMap "mapping values"
    return { s.emit .value with keyAllowed := !s.inFlow }

def startScalar (s : Lexer) (mode : Mode) : Except Flaw Lexer := do
  let s ← s.saveKey
  return { s with keyAllowed := false, mode }

def startPlain (s : Lexer) (c : Char) : Except Flaw Lexer :=
  s.startScalar (.plain (Draft.add {} c))

def token (s : Lexer) (c : Char) (rest : List Char) : Except Flaw Lexer := do
  let s ← s.expireKeys
  let s := s.dedent (s.column < ·)
  if s.column = 0 && isMarker '-' c rest then s.document .documentStart
  else if s.column = 0 && isMarker '.' c rest then s.document .documentEnd
  else match c with
    | '[' => s.openFlow .flowList
    | '{' => s.openFlow .flowMap
    | ']' => s.closeFlow .flowListEnd
    | '}' => s.closeFlow .flowMapEnd
    | ',' => s.comma
    | '-' => if blankAhead rest then s.dash else s.startPlain c
    | '?' => if s.inFlow || blankAhead rest then s.explicitKey else s.startPlain c
    | ':' => if s.inFlow || blankAhead rest then s.colon else s.startPlain c
    | '\x22' | '\x27' => s.startScalar (.quoted c {})
    | '\t' => .error .tab
    | '&' | '*' | '!' | '|' | '>' | '%' | '@' | '\x60' => .error (.unsupported c)
    | _ => s.startPlain c

/-- What separates tokens. A byte order mark may begin any line, and takes a column. -/
def gap (s : Lexer) (c : Char) (rest : List Char) : Except Flaw Lexer :=
  if s.column = 0 && c == '\ufeff' then .ok s
  else if isBreak c then .ok { s with mode := .gap, keyAllowed := s.keyAllowed || !s.inFlow }
  else if c == ' ' || c == '\t' && (s.inFlow || !s.keyAllowed) then .ok s
  else if c == '#' then .ok { s with mode := .comment }
  else s.token c rest

def endsPlain (s : Lexer) (scalar : Draft) (c : Char) (rest : List Char) : Bool :=
  let outdented := !s.inFlow && s.column < s.limit
  let marker := s.column = 0 && (isMarker '-' c rest || isMarker '.' c rest)
  !scalar.held.isEmpty && (c == '#' || outdented || marker)
    || c == ':' && blankAhead rest || s.inFlow && isFlowIndicator c

def finishPlain (s : Lexer) (scalar : Draft) : Lexer :=
  { s.emit (.scalar true scalar.text) with
    mode := .gap
    keyAllowed := s.keyAllowed || scalar.held.isBroken }

def plain (s : Lexer) (scalar : Draft) (c : Char) (rest : List Char) : Except Flaw Lexer :=
  if c == '\t' && scalar.held.isBroken && s.column < s.limit then .error .tab
  else if isBlank c || isBreak c then .ok { s with mode := .plain (scalar.hold c) }
  else if s.endsPlain scalar c rest then (s.finishPlain scalar).gap c rest
  else if s.inFlow && c == ':' && rest.head?.any (fun d => d == '?' || isFlowIndicator d) then
    .error (.unsupported c)
  else .ok { s with mode := .plain (scalar.add c) }

def escape (s : Lexer) (quote : Char) (scalar : Draft) (rest : List Char) :
    Except Flaw Lexer := do
  if rest.head?.any isBreak then
    return { s with mode := .quoted quote scalar.escapeBreak, skip := 1 }
  let (c, skip) ← unescape rest
  return { s with mode := .quoted quote (scalar.add c), skip }

def quoted (s : Lexer) (quote : Char) (scalar : Draft) (c : Char) (rest : List Char) :
    Except Flaw Lexer :=
  if isBlank c || isBreak c then .ok { s with mode := .quoted quote (scalar.hold c) }
  else if s.column = 0 && (isMarker '-' c rest || isMarker '.' c rest) then .error .openQuote
  else if c == '\\' && quote == '\x22' then s.escape quote scalar rest
  else if c != quote then .ok { s with mode := .quoted quote (scalar.add c) }
  else if quote == '\x27' && rest.head? == some quote then
    .ok { s with mode := .quoted quote (scalar.add quote), skip := 1 }
  else .ok { s.emit (.scalar false scalar.settle.text) with mode := .gap }

def step (s : Lexer) (c : Char) (rest : List Char) : Except Flaw Lexer :=
  if s.skip > 0 then .ok { s with skip := s.skip - 1 }
  else match s.mode with
    | .gap => s.gap c rest
    | .comment => if isBreak c then s.gap c rest else .ok s
    | .plain scalar => s.plain scalar c rest
    | .quoted quote scalar => s.quoted quote scalar c rest

def finish (s : Lexer) : Except Flaw Lexer := do
  let s ← match s.mode with
    | .quoted .. => .error .openQuote
    | .plain scalar => pure (s.finishPlain scalar)
    | _ => pure s
  let s ← s.expireKeys
  (s.dedent fun _ => true).dropKey

def scan (s : Lexer) : List Char → Except Flaw Lexer
  | [] => s.finish
  | c :: rest => do
    let s ← s.step c rest
    (s.advance c).scan rest

end Lexer

def Token.ofText (text : String) : Except Flaw (List Token) := do
  if !text.toList.all allowed then throw .control
  let s ← Lexer.scan {} (normalize text.toList)
  return s.tokens.reverse

end WaypointNav.Yaml
