import Confine.Double.Basic

/-!
# Settings trees

Settings arrive as a tree of values: from a JSON request, from configuration files,
or from environment variables. A number is an integer or a double, as the format that
wrote it decides.
-/

namespace Confine.Settings

/-- A settings value. Tables keep their entries in the order they were read. -/
inductive Value where
  | null
  | bool (b : Bool)
  | int (i : Int)
  | float (d : Double)
  | str (s : String)
  | list (items : List Value)
  | table (entries : List (String × Value))
  deriving Repr, Inhabited

namespace Value

/-- The entry of a table under a key, if there is one. -/
def lookup? : Value → String → Option Value
  | .table entries, key => (entries.find? (·.1 == key)).map (·.2)
  | _, _ => none

end Value

/-- The decimal digits of a natural number. -/
def natDigits (n : Nat) : String := String.ofList (Nat.toDigits 10 n)

/-- The decimal text of an integer, with a minus sign when negative. -/
def intText (i : Int) : String :=
  if i < 0 then "-" ++ natDigits i.natAbs else natDigits i.natAbs

end Confine.Settings
