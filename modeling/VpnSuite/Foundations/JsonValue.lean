/-
Values as `json.loads` returns them, with the operations Python has on them.

A float, a list and a dict carry the text `str` gives for them, a float also what `int`
makes of it: the code that reads such values sees no more of them than that and their
truth.
-/

import VpnSuite.Foundations.PythonText

set_option autoImplicit false

namespace VpnSuite.Foundations

inductive Json where
  | null
  | bool (value : Bool)
  | int (value : Int)
  | float (shown : String) (truncated : Option Int) (zero : Bool)
  | str (text : String)
  | list (items : List Json) (shown : String)
  | dict (entries : List (String × Json)) (shown : String)
  deriving Repr

namespace Json

/-- `bool(value)`. -/
def truthy : Json → Bool
  | .null => false
  | .bool value => value
  | .int value => value ≠ 0
  | .float _ _ zero => !zero
  | .str text => text ≠ ""
  | .list items _ => !items.isEmpty
  | .dict entries _ => !entries.isEmpty

/-- The name of the value's class. -/
def typeName : Json → String
  | .null => "NoneType"
  | .bool _ => "bool"
  | .int _ => "int"
  | .float _ _ _ => "float"
  | .str _ => "str"
  | .list _ _ => "list"
  | .dict _ _ => "dict"

end Json

end VpnSuite.Foundations
