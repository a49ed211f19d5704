namespace TxClient.Text

/-- A record as a reader inspects it: its name, then each field with its value, in order. -/
def record (name : String) (fields : List (String × String)) : String :=
  name ++ " \x7b " ++ ", ".intercalate (fields.map fun (field, value) => field ++ ": " ++ value)
    ++ " \x7d"

def truth (b : Bool) : String :=
  if b then "true" else "false"

end TxClient.Text
