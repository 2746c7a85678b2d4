/-!
# Diagnostic text of structured values

The four forms in which diagnostics write a structured value: a name with positional parts, a
name with named parts, the same with an ellipsis for parts that are not shown, and a list. All
stay on one line.
-/

namespace StyleChain.Text

/-- Parts with a comma and a blank between them. -/
def commaSeparated (parts : List String) : String := ", ".intercalate parts

/-- A text between quotation marks. Only texts without marks and line breaks are quoted. -/
def quoted (s : String) : String := "\"" ++ s ++ "\""

/-- Items between square brackets. -/
def list (items : List String) : String := "[" ++ commaSeparated items ++ "]"

/-- Parts between round brackets behind a name. -/
def tuple (name : String) (parts : List String) : String :=
  name ++ "(" ++ commaSeparated parts ++ ")"

/-- A named part. -/
def field (part : String × String) : String := part.1 ++ ": " ++ part.2

/-- Named parts between curly brackets behind a name. -/
def record (name : String) (parts : List (String × String)) : String :=
  name ++ " \x7b " ++ commaSeparated (parts.map field) ++ " \x7d"

/-- Named parts of which some are left out. -/
def openRecord (name : String) (parts : List (String × String)) : String :=
  name ++ " \x7b " ++ commaSeparated (parts.map field ++ [".."]) ++ " \x7d"

/-- A truth value. -/
def truth (b : Bool) : String := if b then "true" else "false"

/-- A value that may be missing. -/
def optional (value : Option String) : String :=
  match value with
  | none => "None"
  | some v => tuple "Some" [v]

end StyleChain.Text
