import FramePacing.Log.Pattern
import FramePacing.Log.Record

/-!
# Log filters

A filter is a list of directives, separated by commas, each `target[span{field=value}]=level` with
most parts left out at will. A directive applies to the records whose target starts with its own and
that have its fields; of those that apply to a record the most specific one decides, and it lets the
record through if its level is verbose enough. A directive that names a span, or a value, applies
only inside of spans, and nothing in this library is. A value is a number or else a pattern.

A directive that cannot be read is left out, with a warning. A filter without directives shows
errors only.

Filters serve the sample session; nothing is proved of them.
-/

namespace FramePacing

/-! ### Directives -/

/-- One part of a filter. -/
structure Directive where
  /-- What targets start with; none for all of them. -/
  target : Option String := none
  /-- Names that a record must have among its values. -/
  fields : List String := []
  /-- Whether it applies inside of spans only. -/
  spansOnly : Bool := false
  /-- How verbose the records are that it lets through, nothing at zero. -/
  limit : Nat := LogLevel.trace.verbosity

/-- Why a directive cannot be read. -/
inductive DirectiveError where
  /-- It is not of the form of a directive. -/
  | malformed
  /-- Its level is none. -/
  | level
  /-- The value of a field is a pattern that cannot be used. -/
  | pattern (e : PatternError)
  deriving DecidableEq

/-- The error's text. -/
def DirectiveError.message : DirectiveError → String
  | .malformed => "invalid filter directive"
  | .level =>
    "error parsing level filter: expected one of \"off\", \"error\", \"warn\", \"info\", " ++
      "\"debug\", \"trace\", or a number 0-5"
  | .pattern e => "invalid field filter: " ++ e.message

/-- The number from zero to five that a text of digits stands for. -/
def limitNumber? (s : String) : Option Nat :=
  let digits := match s.toList with
    | '+' :: rest => rest
    | all => all
  if digits.isEmpty || !digits.all Char.isDigit then none
  else
    let n := digits.foldl (fun n c => 10 * n + (c.toNat - 48)) 0
    if n ≤ LogLevel.trace.verbosity then some n else none

/-- The words for levels. -/
def limitWords : List (String × Nat) :=
  [("", LogLevel.error.verbosity), ("off", 0), ("error", LogLevel.error.verbosity),
   ("warn", LogLevel.warn.verbosity), ("info", LogLevel.info.verbosity),
   ("debug", LogLevel.debug.verbosity), ("trace", LogLevel.trace.verbosity)]

/-- The level that a text names, by its number or by its word in upper or lower case. -/
def limit? (s : String) : Option Nat := limitNumber? s <|> limitWords.lookup s.toLower

/-! ### Reading a directive -/

/-- The part of a directive that is being read, with the position at which it starts. -/
inductive DirectivePart where
  /-- Nothing yet. -/
  | start
  /-- A level or a target. -/
  | word (begins : Nat)
  /-- The name of a span. -/
  | span (begins : Nat)
  /-- A field. -/
  | field (begins : Nat)
  /-- The fields have ended. -/
  | fieldsEnd
  /-- The span has ended. -/
  | spanEnd
  /-- A level. -/
  | level (begins : Nat)

/-- Whether a level or a target may start with a character. -/
def startsWord (c : Char) : Bool := c = '-' || c = ':' || c = '_' || isLetterOrNumeral c

/-- The text without blanks at its ends. -/
def trimBlanks (cs : List Char) : List Char :=
  ((cs.dropWhile isBlank).reverse.dropWhile isBlank).reverse

/-- The text behind its first `n` bytes. -/
def dropBytes (n : Nat) : List Char → List Char
  | [] => []
  | c :: cs => if n = 0 then c :: cs else dropBytes (n - c.utf8Size) cs

/-- The first `n` bytes of a text. -/
def takeBytes (n : Nat) : List Char → List Char
  | [] => []
  | c :: cs => if n = 0 then [] else c :: takeBytes (n - c.utf8Size) cs

/-- The text between two positions. -/
def cut (text : List Char) (begins ends : Nat) : String :=
  .ofList (takeBytes (ends - begins) (dropBytes begins text))

/-- The text from a position on. -/
def cutRest (text : List Char) (begins : Nat) : String := .ofList (dropBytes begins text)

/-- Whether a text is a number: digits with a point and an exponent if need be, infinity, or the
number that is none, each with a sign or without. -/
def isNumber (s : String) : Bool :=
  let unsigned : List Char → List Char
    | '+' :: cs | '-' :: cs => cs
    | cs => cs
  let cs := unsigned s.toList
  let whole := cs.takeWhile Char.isDigit
  let (fraction, rest) := match cs.dropWhile Char.isDigit with
    | '.' :: cs => (cs.takeWhile Char.isDigit, cs.dropWhile Char.isDigit)
    | cs => ([], cs)
  let exponent : Bool := match rest with
    | [] => true
    | e :: cs =>
      (e = 'e' || e = 'E') && !(unsigned cs).isEmpty && (unsigned cs).all Char.isDigit
  (!(whole ++ fraction).isEmpty && exponent) ||
    ["inf", "infinity", "nan"].contains (String.ofList cs).toLower

/-- Adds a field `name` or `name=value`. -/
def Directive.addField (d : Directive) (field : String) : Except DirectiveError Directive :=
  if field.isEmpty then .error .malformed
  else
    match field.splitOn "=" with
    | name :: value :: _ =>
      if isNumber value then .ok { d with fields := d.fields ++ [name], spansOnly := true }
      else
        match checkPattern value with
        | .ok () => .ok { d with fields := d.fields ++ [name], spansOnly := true }
        | .error e => .error (.pattern e)
    | names => .ok { d with fields := d.fields ++ names }

/-- Reads the character at position `i`, counted in bytes. Parts are cut out of the whole `text`. -/
def Directive.readChar (text : List Char) (i : Nat) (c : Char) (d : Directive) :
    DirectivePart → Except DirectiveError (DirectivePart × Directive)
  | .start =>
    if c = '[' then .ok (.span (i + 1), d)
    else if startsWord c then .ok (.word i, d)
    else .error .malformed
  | .word begins =>
    if c = '=' then .ok (.level (i + 1), { d with target := some (cut text begins i) })
    else if c = '[' then .ok (.span (i + 1), { d with target := some (cut text begins i) })
    else .ok (.word begins, d)
  | .span begins =>
    if c = ']' then .ok (.spanEnd, { d with spansOnly := true })
    else if c = '\x7b' then .ok (.field (i + 1), { d with spansOnly := cut text begins i ≠ "" })
    else .ok (.span begins, d)
  | .field begins => do
    if c = '\x7d' then return (.fieldsEnd, ← d.addField (cut text begins i))
    else return (.field begins, d)
  | .fieldsEnd => if c = ']' then .ok (.spanEnd, d) else .error .malformed
  | .spanEnd => if c = '=' then .ok (.level (i + 1), d) else .error .malformed
  | .level begins => .ok (.level begins, d)

/-- Reads characters from position `i` on. -/
def Directive.readChars (text : List Char) (i : Nat) :
    List Char → DirectivePart × Directive → Except DirectiveError (DirectivePart × Directive)
  | [], state => .ok state
  | c :: cs, (part, d) => do
    let state ← d.readChar text i c part
    Directive.readChars text (i + c.utf8Size) cs state

/-- Ends the part that was being read. -/
def Directive.close (text : List Char) (d : Directive) :
    DirectivePart → Except DirectiveError Directive
  | .word begins =>
    let word := cutRest text begins
    match limit? word with
    | some limit => .ok { d with limit }
    | none => .ok { d with target := some word }
  | .level begins =>
    match cutRest text begins with
    | "" => .ok d
    | word =>
      match limit? word with
      | some limit => .ok { d with limit }
      | none => .error .level
  | .spanEnd => .ok d
  | .start | .span _ | .field _ | .fieldsEnd => .error .malformed

/-- Reads a directive. Blanks at its ends are not read, though they count as part of the text that
its parts are cut from. -/
def Directive.read (s : String) : Except DirectiveError Directive := do
  let text := s.toList
  let (part, d) ← Directive.readChars text 0 (trimBlanks text) (.start, {})
  d.close text part

/-! ### Filters -/

/-- Which records are shown. -/
structure LogFilter where
  /-- The directives that apply outside of spans. -/
  directives : List Directive

namespace LogFilter

/-- Reads a filter. The warnings name the directives that were left out. -/
def read (s : String) : LogFilter × List String :=
  let texts := (s.splitOn ",").filter (· ≠ "")
  let results := texts.map fun t => (t, Directive.read t)
  let directives := results.filterMap fun (_, r) => r.toOption
  let warnings := results.filterMap fun (t, r) =>
    match r with
    | .ok _ => none
    | .error e => some ("ignoring \x60" ++ t ++ "\x60: " ++ e.message)
  let all := if directives.isEmpty then [{ limit := LogLevel.error.verbosity }] else directives
  (⟨all.filter fun d => !d.spansOnly⟩, warnings)

/-- Whether a directive applies to a record. -/
def applies (r : LogRecord) (d : Directive) : Bool :=
  (match d.target with
    | some target => r.target.startsWith target
    | none => true) &&
  d.fields.all fun f => f == "message" || r.fields.any fun (key, _) => key == f

/-- Whether one directive is at least as specific as another: by its target, longer ones first, then
by the number of its fields, then by their names. -/
def atLeastAsSpecific (a b : Directive) : Bool :=
  let weight (d : Directive) : Nat := match d.target with
    | some target => target.utf8ByteSize + 1
    | none => 0
  if weight a ≠ weight b then weight b < weight a
  else if a.fields.length ≠ b.fields.length then b.fields.length < a.fields.length
  else !decide (a.fields < b.fields)

/-- The directive that decides about a record. Of two that say the same the later one does. -/
def deciding? (f : LogFilter) (r : LogRecord) : Option Directive :=
  (f.directives.filter (applies r)).foldl (fun best d =>
    match best with
    | some b => if atLeastAsSpecific d b then some d else best
    | none => some d) none

/-- Whether a record is shown. -/
def shows (f : LogFilter) (r : LogRecord) : Bool :=
  match f.deciding? r with
  | some d => r.level.verbosity ≤ d.limit
  | none => false

end LogFilter

end FramePacing
