import ContentPlayer.Json.Draft

namespace ContentPlayer.Toml

open ContentPlayer.Json (Draft)

/-- How a table came to be: by a header of its own, as a part of the path of another header, or by
the dots of a key. -/
inductive Origin where
  | header
  | path
  | dotted
  deriving DecidableEq, Repr

inductive Entry where
  | value (d : Draft)
  | table (origin : Origin) (members : List (String × Entry))
  /-- The tables of an array of tables, the latest first. -/
  | tables (latest : List (String × Entry)) (earlier : List (List (String × Entry)))
  deriving Inhabited

abbrev Members := List (String × Entry)

/-- Replaces the entry under a key, or adds it at the end. -/
def setEntry (key : String) (e : Entry) : Members → Members
  | [] => [(key, e)]
  | (k, f) :: rest => if k = key then (k, e) :: rest else (k, f) :: setEntry key e rest

/-- Changes the table at the end of a path from headers; tables that are not there yet are made. -/
def atHeader (change : Members → Option Members) : List String → Members → Option Members
  | [], members => change members
  | key :: path, members =>
    match members.lookup key with
    | none => do return setEntry key (.table .path (← atHeader change path [])) members
    | some (.table origin inner) => do
      return setEntry key (.table origin (← atHeader change path inner)) members
    | some (.tables latest earlier) => do
      return setEntry key (.tables (← atHeader change path latest) earlier) members
    | some (.value _) => none

/-- Puts a value under a dotted key. The last table on the way must have been made by dots, none of
them by a header of its own, and no key is given twice. -/
def putPair (value : Draft) : List String → Members → Option Members
  | [], _ => none
  | [key], members =>
    match members.lookup key with
    | none => some (members ++ [(key, .value value)])
    | some _ => none
  | key :: path, members =>
    match members.lookup key with
    | none => do return members ++ [(key, .table .dotted (← putPair value path []))]
    | some (.table .dotted inner) => do
      return setEntry key (.table .dotted (← putPair value path inner)) members
    | some (.table .path inner) =>
      if path.length = 1 then none
      else do return setEntry key (.table .path (← putPair value path inner)) members
    | some (.tables latest earlier) =>
      if path.length = 1 then none
      else do return setEntry key (.tables (← putPair value path latest) earlier) members
    | some (.table .header _) => none
    | some (.value _) => none

/-- Opens a table by its header, which may be given once. -/
def openTable (path : List String) (root : Members) : Option Members :=
  match path.getLast? with
  | none => none
  | some key =>
    atHeader (fun members =>
      match members.lookup key with
      | none => some (members ++ [(key, .table .header [])])
      | some (.table .path inner) => some (setEntry key (.table .header inner) members)
      | some _ => none) path.dropLast root

/-- Adds a table to an array of tables. -/
def openNext (path : List String) (root : Members) : Option Members :=
  match path.getLast? with
  | none => none
  | some key =>
    atHeader (fun members =>
      match members.lookup key with
      | none => some (members ++ [(key, .tables [] [])])
      | some (.tables latest earlier) =>
        some (setEntry key (.tables [] (latest :: earlier)) members)
      | some _ => none) path.dropLast root

mutual
def Entry.draft : Entry → Draft
  | .value d => d
  | .table _ members => .object (draftMembers members) none
  | .tables latest earlier =>
    .array (draftTables earlier ++ [.object (draftMembers latest) none]) none

def draftMembers : List (String × Entry) → List (Option String × Draft)
  | [] => []
  | (k, e) :: rest => (some k, e.draft) :: draftMembers rest

/-- The tables from the earliest on. -/
def draftTables : List (List (String × Entry)) → List Draft
  | [] => []
  | members :: rest => draftTables rest ++ [.object (draftMembers members) none]
end

end ContentPlayer.Toml
