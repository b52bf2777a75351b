import TokenForest.Double
import TokenForest.Excess
import TokenForest.Moment
import TokenForest.Text.Quoted

/-!
# Values

The values that a configuration document holds and that a handler answers: nothing, truth values,
whole numbers, binary fractions, dates and times, texts, lists and tables.  The keys of a table
stand in the order in which they were first written.  Every value has a one-line literal form, which
descriptions and messages show; only a whole number of too many digits is not written.
-/

namespace TokenForest

/-- A value of a configuration document, or an answer of a handler. -/
inductive Value where
  | null
  | bool (truth : Bool)
  | int (number : Int)
  | float (number : Double)
  | date (day : Date)
  | time (clock : TimeOfDay)
  | moment (instant : Moment)
  | text (content : String)
  | list (items : List Value)
  | table (entries : List (String × Value))
  deriving Inhabited, Repr

namespace Value

/-- The name of a value's kind. -/
def typeName : Value → String
  | .null => "NoneType"
  | .bool _ => "bool"
  | .int _ => "int"
  | .float _ => "float"
  | .date _ => "date"
  | .time _ => "time"
  | .moment _ => "datetime"
  | .text _ => "str"
  | .list _ => "list"
  | .table _ => "dict"

/-- Whether a value is the absent one. -/
def isNull : Value → Bool
  | .null => true
  | _ => false

mutual

/-- The literal form of a value. -/
def literal : Value → String
  | .null => "None"
  | .bool true => "True"
  | .bool false => "False"
  | .int number => toString number
  | .float number => number.text
  | .date day => day.text
  | .time clock => clock.text
  | .moment instant => instant.text
  | .text content => Text.Quoted.ofString content
  | .list items => "[" ++ ", ".intercalate (literals items) ++ "]"
  | .table entries => "\x7b" ++ ", ".intercalate (entryLiterals entries) ++ "\x7d"

/-- The literal forms of several values. -/
def literals : List Value → List String
  | [] => []
  | value :: rest => value.literal :: literals rest

/-- The literal forms of the entries of a table. -/
def entryLiterals : List (String × Value) → List String
  | [] => []
  | (key, value) :: rest =>
    (Text.Quoted.ofString key ++ ": " ++ value.literal) :: entryLiterals rest

end

mutual

/-- Whether every whole number in a value has few enough digits to be written. -/
def isWritable : Value → Bool
  | .int number => number.natAbs < Nat.pow 10 digitLimit
  | .list items => areWritable items
  | .table entries => entriesWritable entries
  | .null | .bool _ | .float _ | .date _ | .time _ | .moment _ | .text _ => true

/-- Whether every whole number in some values has few enough digits to be written. -/
def areWritable : List Value → Bool
  | [] => true
  | value :: rest => value.isWritable && areWritable rest

/-- Whether every whole number in the entries of a table has few enough digits to be written. -/
def entriesWritable : List (String × Value) → Bool
  | [] => true
  | (_, value) :: rest => value.isWritable && entriesWritable rest

end

end Value

end TokenForest
