import ProgramModel.Json.Numeral

/-!
JSON values. Arrays and objects hold their members in lists; a value that was read
from a text has each key of an object once. `Child` is the relation that reading
by recursion descends along, and `height` counts nested containers.
-/

namespace ProgramModel

inductive Json where
  | null
  | bool (value : Bool)
  | num (value : Json.Numeral)
  | str (value : String)
  | arr (items : List Json)
  | obj (members : List (String × Json))
  deriving Inhabited

namespace Json

def ofInt (i : Int) : Json := num (.ofInt i)

/-- The member of an object under a key. Values that are no objects have none. -/
def member? (v : Json) (key : String) : Option Json :=
  match v with
  | obj members => (members.find? (·.1 == key)).map (·.2)
  | _ => none

/-- `put key v members` holds `v` under `key`, in the place of an earlier member if
there is one. -/
def put (key : String) (v : Json) : List (String × Json) → List (String × Json)
  | [] => [(key, v)]
  | m :: rest => if m.1 == key then (key, v) :: rest else m :: put key v rest

/-- The value with one member replaced or added. Only objects have members to change. -/
def withMember (v : Json) (key : String) (new : Json) : Json :=
  match v with
  | obj members => obj (put key new members)
  | other => other

/-- A direct member of an array or an object. -/
inductive Child : Json → Json → Prop where
  | item {items : List Json} {v : Json} (h : v ∈ items) : Child v (arr items)
  | member {members : List (String × Json)} {key : String} {v : Json}
      (h : (key, v) ∈ members) : Child v (obj members)

theorem child_of_member? {v w : Json} {key : String} (h : v.member? key = some w) :
    Child w v := by
  cases v with
  | obj members =>
    simp only [member?, Option.map_eq_some_iff] at h
    obtain ⟨m, found, rfl⟩ := h
    exact Child.member (show (m.1, m.2) ∈ members from List.mem_of_find?_eq_some found)
  | _ => simp [member?] at h

/-! ### Height -/

mutual
/-- Scalars and empty containers have height one; a container is one higher than
the highest of its members. -/
def height : Json → Nat
  | arr items => heightItems items + 1
  | obj members => heightMembers members + 1
  | _ => 1

/-- The greatest height among array items. -/
def heightItems : List Json → Nat
  | [] => 0
  | v :: rest => max (height v) (heightItems rest)

/-- The greatest height among object members. -/
def heightMembers : List (String × Json) → Nat
  | [] => 0
  | (_, v) :: rest => max (height v) (heightMembers rest)
end

private theorem height_le_items {v : Json} {items : List Json} (h : v ∈ items) :
    v.height ≤ heightItems items := by
  induction items with
  | nil => cases h
  | cons w rest ih =>
    simp only [heightItems]
    rcases List.mem_cons.1 h with rfl | h
    · omega
    · have := ih h; omega

private theorem height_le_members {v : Json} {key : String} {members : List (String × Json)}
    (h : (key, v) ∈ members) : v.height ≤ heightMembers members := by
  induction members with
  | nil => cases h
  | cons m rest ih =>
    obtain ⟨k, w⟩ := m
    simp only [heightMembers]
    rcases List.mem_cons.1 h with h | h
    · cases h; omega
    · have := ih h; omega

theorem Child.height_lt {v w : Json} (h : Child v w) : v.height < w.height := by
  cases h with
  | item h => have := height_le_items h; simp only [height]; omega
  | member h => have := height_le_members h; simp only [height]; omega

end Json
end ProgramModel
