/-
Records, lists and maps as they are shown for inspection.
-/
import LiveMarkup.Text.Quoted

namespace LiveMarkup.Text.Record

/-- Items between brackets. -/
def list (items : List String) : String := "[" ++ String.intercalate ", " items ++ "]"

/-- A named field. -/
def field (name value : String) : String := name ++ ": " ++ value

/-- A record with all its fields. -/
def record (name : String) (fields : List String) : String :=
  name ++ " \x7b " ++ String.intercalate ", " fields ++ " \x7d"

/-- A record of which some fields are not shown. -/
def openRecord (name : String) (fields : List String) : String :=
  record name (fields ++ [".."])

/-- Entries of a map with quoted names. -/
def map (entries : List (String × String)) : String :=
  let entry := fun (e : String × String) => field (Quoted.encode e.1) e.2
  "\x7b" ++ String.intercalate ", " (entries.map entry) ++ "\x7d"

end LiveMarkup.Text.Record
