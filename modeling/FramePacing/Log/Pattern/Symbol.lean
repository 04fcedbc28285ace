import FramePacing.Text.CharClass

/-!
# Symbols of patterns

A pattern is a regular expression. Its symbols are characters, classes named by one letter, and
edges; each is written as itself or behind a backslash.

Two things bound what can be used. Case and the classes of letters of all scripts are not known
here, only those of ASCII. And a pattern matches whole characters, so a class that has to do with
ASCII alone may not hold what lies beyond it.
-/

namespace FramePacing

/-! ### Modes -/

/-- How a pattern is read. A pattern can change its modes as it goes. -/
structure PatternModes where
  /-- Whether upper and lower case count as the same. -/
  ignoreCase : Bool := false
  /-- Whether classes and words are those of all scripts, not of ASCII alone. -/
  allScripts : Bool := true
  /-- Whether blanks and comments count for nothing. -/
  spaced : Bool := false

namespace PatternModes

/-- Skips blanks, and comments from `#` to the end of their line. -/
def skipBlanks (inComment : Bool) : List Char → List Char
  | [] => []
  | c :: cs =>
    if inComment then skipBlanks (c ≠ '\n') cs
    else if isBlank c then skipBlanks false cs
    else if c = '#' then skipBlanks true cs
    else c :: cs

/-- Skips what counts for nothing. -/
def skip (m : PatternModes) (cs : List Char) : List Char :=
  if m.spaced then skipBlanks false cs else cs

/-- The character that decides whether a dash before it makes a range: the next one, or the next one
that is no blank. The mark of a comment is passed over once, and its text is not. -/
def peek (m : PatternModes) (cs : List Char) : Option Char :=
  if m.spaced then
    match cs.dropWhile isBlank with
    | '#' :: cs => (cs.dropWhile isBlank).head?
    | cs => cs.head?
  else cs.head?

end PatternModes

/-! ### Symbols -/

/-- One symbol of a pattern. -/
inductive PatternSymbol where
  /-- A character. -/
  | char (c : Char)
  /-- A character that is given by two digits: where only ASCII counts they are those of a byte. -/
  | byte (c : Char)
  /-- The digits, the blanks or the characters of words, or else all others. -/
  | shorthand (negated : Bool)
  /-- An end of the text. -/
  | edge
  /-- An end of a word, or a place that is none. -/
  | wordEdge

namespace PatternSymbol

/-- The number of a character. -/
def code? : PatternSymbol → Option Nat
  | .char c | .byte c => some c.toNat
  | .shorthand _ | .edge | .wordEdge => none

/-- Whether a symbol can be used by itself. -/
def usable (m : PatternModes) : PatternSymbol → Bool
  | .char _ => !(m.allScripts && m.ignoreCase)
  | .byte c => if m.allScripts then !m.ignoreCase else c.toNat < 128
  | .shorthand negated => !m.allScripts && !negated
  | .edge | .wordEdge => true

/-- Whether a symbol can be used in brackets. -/
def usableInBrackets (m : PatternModes) : PatternSymbol → Bool
  | .char c | .byte c => if m.allScripts then !m.ignoreCase else c.toNat < 128
  | .shorthand negated => !m.allScripts && !negated
  | .edge | .wordEdge => false

/-! ### Reading a symbol -/

/-- The value of a hexadecimal digit. -/
def hexDigit? (c : Char) : Option Nat :=
  if c.isDigit then some (c.toNat - 48)
  else if 'a' ≤ c && c ≤ 'f' then some (c.toNat - 87)
  else if 'A' ≤ c && c ≤ 'F' then some (c.toNat - 55)
  else none

/-- Reads a character by as many further hexadecimal digits; `n` is the value of those before. -/
def readHex (m : PatternModes) : Nat → Nat → List Char → Option (Char × List Char)
  | 0, n, cs => if n.isValidChar then some (.ofNat n, cs) else none
  | count + 1, n, cs =>
    match m.skip cs with
    | [] => none
    | c :: cs =>
      match hexDigit? c with
      | some d => readHex m count (16 * n + d) cs
      | none => none

/-- The letters for control characters. -/
def controls : List (Char × Char) :=
  [('a', '\x07'), ('f', '\x0c'), ('t', '\t'), ('n', '\n'), ('r', '\r'), ('v', '\x0b')]

/-- Reads a symbol behind a backslash. A mark of ASCII stands for itself there; a letter or a digit
does so never. -/
def readEscape (m : PatternModes) : List Char → Option (PatternSymbol × List Char)
  | [] => none
  | c :: cs =>
    match c with
    | 'x' => (readHex m 2 0 cs).map fun (c, cs) => (.byte c, cs)
    | 'u' => (readHex m 4 0 cs).map fun (c, cs) => (.char c, cs)
    | 'U' => (readHex m 8 0 cs).map fun (c, cs) => (.char c, cs)
    | 'd' | 's' | 'w' => some (.shorthand false, cs)
    | 'D' | 'S' | 'W' => some (.shorthand true, cs)
    | 'A' | 'z' => some (.edge, cs)
    | 'b' | 'B' | '<' | '>' => some (.wordEdge, cs)
    | _ =>
      if c.toNat < 128 && !c.isAlphanum then some (.char c, cs)
      else (controls.lookup c).map fun c => (.char c, cs)

/-- Reads a symbol. -/
def read (m : PatternModes) : List Char → Option (PatternSymbol × List Char)
  | [] => none
  | '\\' :: cs => readEscape m cs
  | c :: cs => some (.char c, cs)

end PatternSymbol

end FramePacing
