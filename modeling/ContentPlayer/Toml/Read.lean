import ContentPlayer.Toml.Scalar
import ContentPlayer.Toml.String
import ContentPlayer.Toml.Table

namespace ContentPlayer.Toml

open ContentPlayer.Json (Draft)

/-- Passes over blanks, line ends and comments. -/
def skipTrivia (inComment : Bool) : List Char → Option (List Char)
  | [] => some []
  | '\n' :: rest => skipTrivia false rest
  | '\r' :: '\n' :: rest => skipTrivia false rest
  | c :: rest =>
    if inComment then if isPlain c then skipTrivia true rest else none
    else if isSpace c then skipTrivia false rest
    else if c = '#' then skipTrivia true rest
    else some (c :: rest)

/-- Passes over the rest of a line, which may only hold blanks and a comment. -/
def skipLine (cs : List Char) : Option (List Char) :=
  let afterComment := match cs.dropWhile isSpace with
    | '#' :: rest => rest.dropWhile isPlain
    | cs => cs
  match afterComment with
  | [] => some []
  | '\n' :: rest => some rest
  | '\r' :: '\n' :: rest => some rest
  | _ => none

def isBareKeyChar (c : Char) : Bool := c.isAlphanum || c = '_' || c = '-'

/-- One part of a key: bare or in quotes on one line. -/
def readKeyPart : List Char → Option (String × List Char)
  | '"' :: rest => (readBasic rest).map fun (s, tail) => (String.ofList s, tail)
  | '\'' :: rest => (readLiteral rest).map fun (s, tail) => (String.ofList s, tail)
  | cs =>
    let name := cs.takeWhile isBareKeyChar
    if name.isEmpty then none else some (String.ofList name, cs.dropWhile isBareKeyChar)

/-- Key parts joined by dots, with blanks around them. -/
def readKey : Nat → List Char → Option (List String × List Char)
  | 0, _ => none
  | fuel + 1, cs => do
    let (part, rest) ← readKeyPart (cs.dropWhile isSpace)
    match rest.dropWhile isSpace with
    | '.' :: rest => do
      let (parts, rest) ← readKey fuel rest
      return (part :: parts, rest)
    | rest => return ([part], rest)

def endsScalar (c : Char) : Bool := " \t\r\n,]\x7d#=[\x7b\"'".toList.contains c

/-- The characters of an unquoted value; a blank may part a date from a time. -/
def scalarChars (cs : List Char) : List Char × List Char :=
  let first := cs.takeWhile (!endsScalar ·)
  let rest := cs.drop first.length
  match readDate first, rest with
  | some [], ' ' :: d :: _ =>
    if d.isDigit then
      let second := rest.tail.takeWhile (!endsScalar ·)
      (first ++ ' ' :: second, rest.tail.drop second.length)
    else (first, rest)
  | _, _ => (first, rest)

mutual
/-- Reads a value inside which so many more arrays and inline tables may be opened. -/
def readValue : Nat → Nat → List Char → Option (Draft × List Char)
  | 0, _, _ => none
  | fuel + 1, room, cs =>
    match cs with
    | '"' :: _ => (readString cs).map fun (s, tail) => (.string (String.ofList s), tail)
    | '\'' :: _ => (readString cs).map fun (s, tail) => (.string (String.ofList s), tail)
    | '[' :: rest =>
      match room with
      | 0 => none
      | room + 1 => do
        let (items, tail) ← readItems fuel room rest
        return (.array items none, tail)
    | '\x7b' :: rest =>
      match room with
      | 0 => none
      | room + 1 => do
        let (members, tail) ← readInline fuel room rest []
        return (.object (draftMembers members) none, tail)
    | _ =>
      let (scalar, tail) := scalarChars cs
      (readScalar scalar).map (·, tail)

/-- Reads the items of an array to its closing bracket; a comma may stand before that. -/
def readItems : Nat → Nat → List Char → Option (List Draft × List Char)
  | 0, _, _ => none
  | fuel + 1, room, cs => do
    match ← skipTrivia false cs with
    | ']' :: tail => return ([], tail)
    | cs =>
      let (item, rest) ← readValue fuel room cs
      match ← skipTrivia false rest with
      | ']' :: tail => return ([item], tail)
      | ',' :: rest =>
        let (items, tail) ← readItems fuel room rest
        return (item :: items, tail)
      | _ => none

/-- Reads the pairs of an inline table to its closing brace; a comma may stand before that. -/
def readInline : Nat → Nat → List Char → Members → Option (Members × List Char)
  | 0, _, _, _ => none
  | fuel + 1, room, cs, members => do
    match ← skipTrivia false cs with
    | '\x7d' :: tail => return (members, tail)
    | cs =>
      let (key, rest) ← readKey (cs.length + 1) cs
      match rest with
      | '=' :: rest =>
        let (value, rest) ← readValue fuel room (rest.dropWhile isSpace)
        let members ← putPair value key members
        match ← skipTrivia false rest with
        | '\x7d' :: tail => return (members, tail)
        | ',' :: rest => readInline fuel room rest members
        | _ => none
      | _ => none
end

/-- How many arrays and inline tables may stand in one another. -/
def nesting : Nat := 80

/-- Reads what is left of a document; `path` is the header of the table that pairs go to. -/
def readLines : Nat → List Char → List String → Members → Option Members
  | 0, _, _, _ => none
  | fuel + 1, cs, path, root => do
    match ← skipTrivia false cs with
    | [] => return root
    | '[' :: '[' :: rest =>
      let (key, rest) ← readKey (rest.length + 1) rest
      match rest with
      | ']' :: ']' :: rest => readLines fuel (← skipLine rest) key (← openNext key root)
      | _ => none
    | '[' :: rest =>
      let (key, rest) ← readKey (rest.length + 1) rest
      match rest with
      | ']' :: rest => readLines fuel (← skipLine rest) key (← openTable key root)
      | _ => none
    | cs =>
      let (key, rest) ← readKey (cs.length + 1) cs
      match rest with
      | '=' :: rest =>
        let (value, rest) ← readValue (2 * rest.length + 2) nesting (rest.dropWhile isSpace)
        let root ← atHeader (putPair value key) path root
        readLines fuel (← skipLine rest) path root
      | _ => none

/-- Reads a document; a byte order mark before it is passed over. -/
def ofText (text : String) : Option Draft :=
  let cs := match text.toList with
    | '\uFEFF' :: rest => rest
    | cs => cs
  (readLines (cs.length + 1) cs [] []).map fun root => .object (draftMembers root) none

end ContentPlayer.Toml
