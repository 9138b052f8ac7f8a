import Strata.Json.Numeral

/-!
# JSON values

The value a JSON text stands for. Members keep their order and may repeat a name, since both matter
to whoever reads them.
-/

namespace Strata

/-- A JSON value. -/
inductive Json where
  | null
  | bool (value : Bool)
  | num (value : Numeral)
  | str (value : String)
  | arr (items : List Json)
  | obj (members : List (String × Json))

namespace Json

/-- An integer as a value. -/
def int (i : Int) : Json := .num (.ofInt i)

/-- A list as a value, each element encoded by `encode`. -/
def list (encode : α → Json) (items : List α) : Json := .arr (items.map encode)

/-- A value that may be absent: null when it is. -/
def option (encode : α → Json) : Option α → Json
  | none => .null
  | some a => encode a

mutual

/-- How many arrays and objects are nested in each other at most. -/
def depth : Json → Nat
  | .arr items => depthItems items + 1
  | .obj members => depthMembers members + 1
  | _ => 0

/-- The depth of the deepest item. -/
def depthItems : List Json → Nat
  | [] => 0
  | item :: rest => max item.depth (depthItems rest)

/-- The depth of the deepest member. -/
def depthMembers : List (String × Json) → Nat
  | [] => 0
  | (_, value) :: rest => max value.depth (depthMembers rest)

end

end Json

end Strata
