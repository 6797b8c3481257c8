import StoreTrial.Text.Quoted

/-! # Outlines of values

One-line texts that show the structure of a value: records with named fields,
tagged values, optional values and lists.
-/

namespace StoreTrial.Text

/-- A record with its fields in order, as in `Point \x7b x: 1, y: 2 \x7d`. -/
def outlineRecord (name : String) (fields : List (String × String)) : String :=
  let shown := fields.map fun (field, value) => field ++ ": " ++ value
  name ++ " \x7b " ++ ", ".intercalate shown ++ " \x7d"

/-- A tag applied to one value. -/
def outlineTagged (tag value : String) : String := tag ++ "(" ++ value ++ ")"

/-- An optional value, tagged `Some` when present. -/
def outlineOption : Option String → String
  | none => "None"
  | some value => outlineTagged "Some" value

/-- A list in brackets. -/
def outlineList (items : List String) : String := "[" ++ ", ".intercalate items ++ "]"

/-- A truth value in lower case. -/
def outlineBool : Bool → String
  | true => "true"
  | false => "false"

end StoreTrial.Text
