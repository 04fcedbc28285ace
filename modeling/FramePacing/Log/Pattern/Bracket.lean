import FramePacing.Log.Pattern.Symbol

/-!
# Brackets in patterns

Brackets hold a set of characters: symbols, ranges, classes with a name such as `[:alpha:]`, and
further brackets. Between sets `&&` is the common part, `--` the difference and `~~` what is in one
of them only; they are taken from left to right.

A pattern is never matched here, so of a part that has been read only an outline is kept.
-/

namespace FramePacing

/-! ### Parts -/

/-- The outline of a part of a pattern. -/
structure PatternPart where
  /-- How deep parts are nested in it. -/
  depth : Nat := 0
  /-- Whether it has an edge of a word of any script. -/
  wordEdge : Bool := false
  /-- Whether it can be repeated; a change of modes cannot. -/
  repeatable : Bool := true

namespace PatternPart

/-- A part around other parts. -/
def around (parts : List PatternPart) : PatternPart :=
  { depth := parts.foldl (fun d p => max d p.depth) 0 + 1
    wordEdge := parts.any (·.wordEdge) }

/-- Parts side by side. One part alone is just that part. -/
def joined : List PatternPart → PatternPart
  | [] => {}
  | [p] => p
  | parts => around parts

end PatternPart

/-! ### Members -/

/-- The names of classes. -/
def classNames : List String :=
  ["alnum", "alpha", "ascii", "blank", "cntrl", "digit", "graph", "lower", "print", "punct",
   "space", "upper", "word", "xdigit"]

/-- Reads a class with a name, behind its first bracket, and whether it is negated. -/
def readNamedClass : List Char → Option (Bool × List Char)
  | ':' :: cs =>
    let negated := cs.head? = some '^'
    let cs := if negated then cs.tail else cs
    match cs.dropWhile (· ≠ ':') with
    | ':' :: ']' :: rest =>
      if classNames.contains (.ofList (cs.takeWhile (· ≠ ':'))) then some (negated, rest) else none
    | _ => none
  | _ => none

/-- Whether a class with a name can be used. -/
def namedClassUsable (m : PatternModes) (negated : Bool) : Bool :=
  if m.allScripts then !m.ignoreCase else !negated

/-- Reads a symbol or a range in brackets, and returns what follows it. A dash at the end of the
brackets or before another dash makes no range. -/
def readRange (m : PatternModes) (cs : List Char) : Option (List Char) := do
  let (first, cs) ← PatternSymbol.read m cs
  let cs := m.skip cs
  guard (first.usableInBrackets m)
  match cs with
  | '-' :: rest =>
    if m.peek rest = some ']' || m.peek rest = some '-' then return cs
    let (last, rest) ← PatternSymbol.read m (m.skip rest)
    guard (last.usableInBrackets m)
    guard ((← first.code?) ≤ (← last.code?))
    return rest
  | _ => return cs

/-! ### Brackets -/

/-- Brackets that are still open. -/
structure OpenBracket where
  /-- Whether only dashes have been read. -/
  opening : Bool := true
  /-- The set before the last operator. -/
  left : Option PatternPart := none
  /-- The members after it, the last one first. -/
  members : List PatternPart := []

namespace OpenBracket

/-- Adds a member. -/
def add (b : OpenBracket) (p : PatternPart) : OpenBracket :=
  { b with opening := false, members := p :: b.members }

/-- The set that has been read. -/
def contents (b : OpenBracket) : PatternPart :=
  match b.left with
  | none => .joined b.members
  | some left => .around [left, .joined b.members]

/-- Adds an operator. -/
def operate (b : OpenBracket) : OpenBracket := { opening := false, left := some b.contents }

/-- Reads up to the closing bracket. At the beginning a bracket that closes and dashes are members.
Every turn reads a character at least, so a `fuel` beyond the number of characters suffices. -/
def read (m : PatternModes) : Nat → OpenBracket → List Char → Option (PatternPart × List Char)
  | 0, _, _ => none
  | fuel + 1, b, cs =>
    match m.skip cs with
    | [] => none
    | c :: cs =>
      let plain := (PatternSymbol.char c).usableInBrackets m
      let next := cs.head?
      if b.opening && c = '-' then
        if plain then read m fuel { b.add {} with opening := true } cs else none
      else if c = ']' then
        if b.opening && b.members.isEmpty then
          if plain then read m fuel (b.add {}) cs else none
        else some (.around [b.contents], cs)
      else if (c = '&' || c = '-' || c = '~') && next = some c then
        read m fuel b.operate cs.tail
      else if c = '[' then
        match readNamedClass cs with
        | some (negated, cs) =>
          if namedClassUsable m negated then read m fuel (b.add {}) cs else none
        | none =>
          let cs := m.skip cs
          let negated := cs.head? = some '^'
          if negated && !m.allScripts then none
          else
            match read m fuel {} (if negated then cs.tail else cs) with
            | some (inner, cs) => read m fuel (b.add inner) cs
            | none => none
      else
        match readRange m (c :: cs) with
        | some cs => read m fuel (b.add {}) cs
        | none => none

end OpenBracket

/-- Reads brackets behind the first one. -/
def readBrackets (m : PatternModes) (cs : List Char) : Option (PatternPart × List Char) :=
  let cs := m.skip cs
  let negated := cs.head? = some '^'
  if negated && !m.allScripts then none
  else OpenBracket.read m (cs.length + 1) {} (if negated then cs.tail else cs)

end FramePacing
