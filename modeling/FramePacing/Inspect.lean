/-!
# Diagnostic text

The written forms that diagnostics share: a record with named fields, a list, and a value that may
be absent. A type's own `inspect` builds on these.
-/

namespace FramePacing

/-- A value that may be absent. -/
def inspectOption {α : Type} (inspect : α → String) : Option α → String
  | none => "None"
  | some a => s!"Some({inspect a})"

/-- A list in brackets. -/
def inspectList {α : Type} (inspect : α → String) (xs : List α) : String :=
  "[" ++ ", ".intercalate (xs.map inspect) ++ "]"

/-- A record: its name and its fields in order. -/
def inspectRecord (name : String) (fields : List (String × String)) : String :=
  let items := fields.map fun (key, value) => s!"{key}: {value}"
  name ++ " \x7b " ++ ", ".intercalate items ++ " \x7d"

/-- A record that shows none of its fields. -/
def inspectClosed (name : String) : String := name ++ " \x7b .. \x7d"

end FramePacing
