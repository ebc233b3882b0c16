/-! ## JSON values

The JSON documents this library writes: the syntax tree of a script and the settings. Object
fields keep the order in which they are given, since that order is part of the text.
-/

namespace LineScript

/-- A JSON value; objects keep their fields in the given order. -/
inductive Json where
  | null
  | bool (b : Bool)
  | str (s : String)
  | arr (items : List Json)
  | obj (fields : List (String × Json))
  deriving Repr

end LineScript
