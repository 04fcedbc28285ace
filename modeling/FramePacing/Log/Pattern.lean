import FramePacing.Log.Pattern.Bracket

/-!
# Patterns

A filter can ask for values that match a pattern. No value is matched against one here, for such a
directive applies inside of spans only; but a pattern that cannot be used spoils its directive. This
module decides which patterns can be used.

A pattern comes out of a filter's field, so it holds no comma, no equals sign and no closing brace.
That leaves no complete form with braces: an opening brace that would repeat a part is a fault, and
so are classes by the name of a property.

As filters do, patterns serve the sample session, and nothing is proved of them.
-/

namespace FramePacing

/-! ### Groups -/

/-- What an opening parenthesis begins. -/
inductive PatternOpening where
  /-- Nothing: it changes the modes of what follows in its group. -/
  | modes (m : PatternModes)
  /-- A group with its modes, and its name. -/
  | group (m : PatternModes) (name : Option String)

namespace PatternOpening

/-- The letters of modes, and the sign before those that are switched off. -/
def modeLetters : List Char := ['i', 'm', 's', 'U', 'u', 'R', 'x', '-']

/-- Applies letters of modes, of which none comes twice and the last is no sign. The letters that
are not looked at say what matches, not what can be used. -/
def applyModes (m : PatternModes) (letters : List Char) : Option PatternModes :=
  let on := letters.takeWhile (· ≠ '-')
  let off := letters.dropWhile (· ≠ '-')
  let mode (letter : Char) (before : Bool) : Bool :=
    on.contains letter || (before && !off.contains letter)
  if letters.all modeLetters.contains && letters.eraseDups.length = letters.length &&
      letters.getLast? ≠ some '-' then
    some ⟨mode 'i' m.ignoreCase, mode 'u' m.allScripts, mode 'x' m.spaced⟩
  else none

/-- Whether a text is the name of a group. -/
def isGroupName : List Char → Bool
  | [] => false
  | c :: cs =>
    (c = '_' || isLetter c) &&
      cs.all fun c => c = '_' || c = '.' || c = '[' || c = ']' || isLetterOrNumeral c

/-- Reads the name of a group up to its closing mark. -/
def readName (m : PatternModes) (cs : List Char) : Option (PatternOpening × List Char) :=
  let name := cs.takeWhile (· ≠ '>')
  match cs.dropWhile (· ≠ '>') with
  | _ :: rest => if isGroupName name then some (.group m (some (.ofList name)), rest) else none
  | [] => none

/-- Reads modes, up to the colon before a group or the parenthesis that closes them. -/
def readModes (m : PatternModes) (cs : List Char) : Option (PatternOpening × List Char) :=
  let inside (c : Char) : Bool := c ≠ ':' && c ≠ ')'
  let letters := cs.takeWhile inside
  match applyModes m letters, cs.dropWhile inside with
  | some changed, ':' :: rest => some (.group changed none, rest)
  | some changed, ')' :: rest => if letters.isEmpty then none else some (.modes changed, rest)
  | _, _ => none

/-- Reads what an opening parenthesis begins. -/
def read (m : PatternModes) (cs : List Char) : Option (PatternOpening × List Char) :=
  match m.skip cs with
  | '?' :: 'P' :: '<' :: cs | '?' :: '<' :: cs => readName m cs
  | '?' :: cs => readModes m cs
  | cs => some (.group m none, cs)

end PatternOpening

/-! ### Patterns -/

/-- A group, or a whole pattern, that is being read. -/
structure OpenGroup where
  /-- How what follows is read. -/
  modes : PatternModes := {}
  /-- The names of groups so far, in the whole pattern. -/
  names : List String := []
  /-- The alternatives before the one that is being read. -/
  alternatives : List PatternPart := []
  /-- The parts of this alternative, the last one first. -/
  parts : List PatternPart := []

namespace OpenGroup

/-- Adds a part. -/
def add (g : OpenGroup) (p : PatternPart) : OpenGroup := { g with parts := p :: g.parts }

/-- Begins another alternative. -/
def alternate (g : OpenGroup) : OpenGroup :=
  { g with alternatives := .joined g.parts :: g.alternatives, parts := [] }

/-- Repeats the last part, if it can be. -/
def repeatLast (g : OpenGroup) : Option OpenGroup :=
  match g.parts with
  | p :: parts => if p.repeatable then some { g with parts := .around [p] :: parts } else none
  | [] => none

/-- The group as one part. -/
def part (g : OpenGroup) : PatternPart :=
  match g.alternatives with
  | [] => .joined g.parts
  | alternatives => .around (.joined g.parts :: alternatives)

/-- Adds a symbol, if it can be used. -/
def addSymbol (g : OpenGroup) (s : PatternSymbol) : Option OpenGroup :=
  if s.usable g.modes then
    some <| g.add <| match s with
      | .wordEdge => { wordEdge := g.modes.allScripts }
      | .char _ | .byte _ | .shorthand _ | .edge => {}
  else none

/-- Reads up to a closing parenthesis or the end, and returns what follows: nothing, or a list that
begins with the parenthesis. Every turn reads a character at least, so a `fuel` beyond the number of
characters suffices. -/
def read : Nat → OpenGroup → List Char → Option (OpenGroup × List Char)
  | 0, _, _ => none
  | fuel + 1, g, cs =>
    match g.modes.skip cs with
    | [] => some (g, [])
    | ')' :: cs => some (g, ')' :: cs)
    | '|' :: cs => read fuel g.alternate cs
    | '(' :: cs =>
      match PatternOpening.read g.modes cs with
      | none => none
      | some (.modes m, cs) => read fuel { g.add { repeatable := false } with modes := m } cs
      | some (.group m name, cs) =>
        if name.any g.names.contains then none
        else
          match read fuel { modes := m, names := name.toList ++ g.names } cs with
          | some (inner, _ :: cs) =>
            read fuel { g.add (.around [inner.part]) with names := inner.names } cs
          | _ => none
    | '[' :: cs =>
      match readBrackets g.modes cs with
      | some (p, cs) => read fuel (g.add p) cs
      | none => none
    | '?' :: cs | '*' :: cs | '+' :: cs =>
      match g.repeatLast, cs with
      | some g, '?' :: cs => read fuel g cs
      | some g, cs => read fuel g cs
      | none, _ => none
    | '{' :: _ => none
    | '.' :: cs => if g.modes.allScripts then read fuel (g.add {}) cs else none
    | '^' :: cs | '$' :: cs => read fuel (g.add {}) cs
    | cs =>
      match PatternSymbol.read g.modes cs with
      | some (s, cs) =>
        match g.addSymbol s with
        | some g => read fuel g cs
        | none => none
      | none => none

end OpenGroup

/-! ### Faults -/

/-- Why a pattern cannot be used. -/
inductive PatternError where
  /-- It is not of the form of a pattern, is nested too deep, or has what is not known here. -/
  | unreadable
  /-- It has an edge of a word of any script. -/
  | wordEdge
  deriving DecidableEq

/-- The error's text. -/
def PatternError.message : PatternError → String
  | .unreadable => "error building NFA"
  | .wordEdge =>
    "unsupported regex feature for DFAs: cannot build DFAs for regexes with Unicode word " ++
      "boundaries; switch to ASCII word boundaries, or heuristically enable Unicode word " ++
      "boundaries or use a different regex engine"

/-- How deep parts can be nested. -/
def patternDepthLimit : Nat := 250

/-- Whether a pattern can be used, or else why not. -/
def checkPattern (pattern : String) : Except PatternError Unit :=
  let cs := pattern.toList
  match OpenGroup.read (cs.length + 1) {} cs with
  | some (g, []) =>
    if patternDepthLimit < g.part.depth then .error .unreadable
    else if g.part.wordEdge then .error .wordEdge
    else .ok ()
  | _ => .error .unreadable

end FramePacing
