namespace ContentPlayer

/-- A JSON value. Integers are those that fit 64 bits, signed or unsigned; objects hold each name
once, in the order of the names. -/
inductive Json where
  | null
  | bool (b : Bool)
  | int (n : Int)
  | float (x : Float)
  | string (s : String)
  | array (items : List Json)
  | object (members : List (String × Json))
  deriving Inhabited, BEq

namespace Json

/-- Puts a member in its place among ordered ones; an older value under the name is replaced. -/
def insertMember (name : String) (v : Json) : List (String × Json) → List (String × Json)
  | [] => [(name, v)]
  | (k, w) :: rest =>
    if name < k then (name, v) :: (k, w) :: rest
    else if name = k then (k, v) :: rest
    else (k, w) :: insertMember name v rest

/-- The object of some members; of several with one name the last counts. -/
def ofMembers (members : List (String × Json)) : Json :=
  .object (members.foldl (fun acc (k, v) => insertMember k v acc) [])

def field? (v : Json) (name : String) : Option Json :=
  match v with
  | .object members => members.lookup name
  | _ => none

end Json

end ContentPlayer
