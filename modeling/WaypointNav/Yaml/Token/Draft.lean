import WaypointNav.Yaml.Characters
import WaypointNav.Yaml.Flaw

/-! The text of a scalar while it is read. Blanks and line breaks are held back until it is clear that
the scalar goes on after them; line breaks are then folded. Characters are kept latest first. -/
namespace WaypointNav.Yaml

inductive Held
  | blanks (cs : List Char)
  /-- line breaks, the first one apart; an escaped first break is nothing -/
  | breaks (first : Option Char) (more : List Char)

namespace Held

def isEmpty : Held → Bool
  | .blanks [] => true
  | _ => false

def isBroken : Held → Bool
  | .blanks _ => false
  | .breaks .. => true

/-- Blanks next to a line break are lost. -/
def push (held : Held) (c : Char) : Held :=
  match held, isBreak c with
  | .blanks cs, false => .blanks (c :: cs)
  | .blanks _, true => .breaks (some c) []
  | .breaks first more, false => .breaks first more
  | .breaks first more, true => .breaks first (c :: more)

/-- A single line feed is a space, and one before other breaks is dropped. -/
def fold : Held → List Char
  | .blanks cs => cs
  | .breaks none more => more
  | .breaks (some '\n') [] => [' ']
  | .breaks (some '\n') more => more
  | .breaks (some c) more => more ++ [c]

end Held

structure Draft where
  chars : List Char := []
  held : Held := .blanks []

namespace Draft

def settle (s : Draft) : Draft :=
  ⟨s.held.fold ++ s.chars, .blanks []⟩

def add (s : Draft) (c : Char) : Draft :=
  { s.settle with chars := c :: s.settle.chars }

def hold (s : Draft) (c : Char) : Draft :=
  { s with held := s.held.push c }

def escapeBreak (s : Draft) : Draft :=
  { s.settle with held := .breaks none [] }

def text (s : Draft) : String :=
  String.ofList s.chars.reverse

end Draft

def shortEscape : Char → Option Char
  | '0' => some '\x00'
  | 'a' => some '\x07'
  | 'b' => some '\x08'
  | 't' | '\t' => some '\t'
  | 'n' => some '\n'
  | 'v' => some '\x0b'
  | 'f' => some '\x0c'
  | 'r' => some '\r'
  | 'e' => some '\x1b'
  | ' ' => some ' '
  | '\x22' => some '\x22'
  | '/' => some '/'
  | '\\' => some '\\'
  | 'N' => some '\u0085'
  | '_' => some '\u00a0'
  | 'L' => some '\u2028'
  | 'P' => some '\u2029'
  | _ => none

def longEscape : Char → Option Nat
  | 'x' => some 2
  | 'u' => some 4
  | 'U' => some 8
  | _ => none

def hexDigit (c : Char) : Option Nat :=
  if c.isDigit then some (c.toNat - '0'.toNat)
  else if 'a' ≤ c && c ≤ 'f' then some (c.toNat - 'a'.toNat + 10)
  else if 'A' ≤ c && c ≤ 'F' then some (c.toNat - 'A'.toNat + 10)
  else none

/-- The character after a backslash, and how many characters its escape takes after the backslash. -/
def unescape : List Char → Except Flaw (Char × Nat)
  | [] => .error .escape
  | letter :: rest =>
    match shortEscape letter, longEscape letter with
    | some c, _ => .ok (c, 1)
    | none, none => .error .escape
    | none, some count =>
      match (rest.take count).mapM hexDigit with
      | none => .error .escape
      | some digits =>
        let code := digits.foldl (fun n d => 16 * n + d) 0
        if digits.length = count ∧ code.isValidChar then .ok (.ofNat code, count + 1)
        else .error .escape

end WaypointNav.Yaml
