import LineShell.Decimal.Binary64

/-!
Values of a TOML document. An inline table is kept as its pairs, in order. A date or a time is kept as it
is written.
-/

namespace LineShell.Toml

/-- A value. -/
inductive Value where
  | string (text : String)
  | integer (value : Int)
  | float (value : Decimal.Binary64)
  | boolean (value : Bool)
  | datetime (text : String)
  | array (items : List Value)
  | table (pairs : List (String × Value))
  deriving Repr

/-- Where something stands in a text, in characters from its start. -/
structure Span where
  start : Nat
  stop : Nat
  deriving DecidableEq, Repr

/-- A line of a document that says something: the header of a table or of one more element of an array
of tables, or a key and its value. -/
inductive Statement where
  | header (isElement : Bool) (path : List String) (span : Span)
  | entry (path : List String) (value : Value) (span : Span)
  deriving Repr

end LineShell.Toml
