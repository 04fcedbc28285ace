import FramePacing.Decimal.Layout

/-!
# Indented JSON

The values that trace files are made of, and their text: two blanks for each level, one element or
member a line, and nothing between the brackets of an empty one.
-/

namespace FramePacing

/-- A JSON value. The members of an object stand in the order in which they are written. -/
inductive Json where
  /-- A string. -/
  | text (s : String)
  /-- An integer. -/
  | int (i : Int)
  /-- A float. -/
  | float (x : Float)
  /-- An array. -/
  | array (items : List Json)
  /-- An object. -/
  | object (members : List (String × Json))

namespace Json

/-- A character of a string. -/
def escape (c : Char) : String :=
  if c = '"' then "\\\""
  else if c = '\\' then "\\\\"
  else if c = '\n' then "\\n"
  else if c = '\r' then "\\r"
  else if c = '\t' then "\\t"
  else if c.toNat = 8 then "\\b"
  else if c.toNat = 12 then "\\f"
  else if c.toNat < 32 then
    "\\u00" ++ String.ofList [Nat.digitChar (c.toNat / 16), Nat.digitChar (c.toNat % 16)]
  else c.toString

/-- A string in quotes. -/
def quote (s : String) : String := "\"" ++ String.join (s.toList.map escape) ++ "\""

/-- The start of a line. -/
def indent (depth : Nat) : String := "\n" ++ String.ofList (List.replicate (2 * depth) ' ')

/-- A float; what is not a finite number has no JSON form but `null`. -/
def floatText (x : Float) : String :=
  match Binary.ofFloat x with
  | .finite _ _ _ => Layout.trace.float x
  | _ => "null"

mutual

/-- The text of a value inside `depth` brackets, in pieces. -/
def pieces (depth : Nat) : Json → List String
  | .text s => [quote s]
  | .int i => [toString i]
  | .float x => [floatText x]
  | .array [] => ["[]"]
  | .array (x :: xs) =>
    "[" :: indent (depth + 1) ::
      (x.pieces (depth + 1) ++ (elements depth xs ++ [indent depth, "]"]))
  | .object [] => ["\x7b\x7d"]
  | .object ((key, x) :: xs) =>
    "\x7b" :: indent (depth + 1) :: quote key :: ": " ::
      (x.pieces (depth + 1) ++ (members depth xs ++ [indent depth, "\x7d"]))

/-- The elements after the first one. -/
def elements (depth : Nat) : List Json → List String
  | [] => []
  | x :: xs => "," :: indent (depth + 1) :: (x.pieces (depth + 1) ++ elements depth xs)

/-- The members after the first one. -/
def members (depth : Nat) : List (String × Json) → List String
  | [] => []
  | (key, x) :: xs =>
    "," :: indent (depth + 1) :: quote key :: ": " ::
      (x.pieces (depth + 1) ++ members depth xs)

end

/-- The text of a value. -/
def render (j : Json) : String := String.join (j.pieces 0)

end Json

end FramePacing
