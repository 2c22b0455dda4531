/-!
# JSON values

A JSON value keeps integers apart from other numbers, because many members of
a record take integers only.  Objects keep their members in the order in which
they were given, each name once.
-/

namespace WorkloadPolicy

/-- A JSON value. -/
inductive Json where
  | null
  | boolean (value : Bool)
  | integer (value : Int)
  | real (value : Float)
  | text (value : String)
  | list (items : List Json)
  | object (members : List (String × Json))
  deriving Inhabited

namespace Json

/-- The member of an object with a given name. -/
def member? (name : String) : Json → Option Json
  | .object members => members.lookup name
  | _ => none

/-- Put a member into a list of members; a later value of a name replaces the
earlier one. -/
def putMember
    (members : List (String × Json))
    (name : String)
    (value : Json) : List (String × Json) :=
  if members.any (·.1 == name) then
    members.map fun member => if member.1 == name then (name, value) else member
  else
    members ++ [(name, value)]

/-- A number; null stands for one that is not finite. -/
def ofNumber (number : Float) : Json :=
  if number.isFinite then .real number else .null

theorem ofNumber_of_isFinite {number : Float} (finite : number.isFinite = true) :
    ofNumber number = .real number :=
  if_pos finite

/-- A text or null. -/
def ofText? : Option String → Json
  | some value => .text value
  | none => .null

/-- A truth value or null. -/
def ofBoolean? : Option Bool → Json
  | some value => .boolean value
  | none => .null

/-- An integer or null. -/
def ofInteger? : Option Int → Json
  | some value => .integer value
  | none => .null

/-- A list of texts. -/
def ofTexts (values : List String) : Json :=
  .list (values.map .text)

/-- An object with text members. -/
def ofTextTable (entries : List (String × String)) : Json :=
  .object (entries.map fun entry => (entry.1, .text entry.2))

end Json
end WorkloadPolicy
