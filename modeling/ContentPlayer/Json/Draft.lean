import ContentPlayer.Json.Basic
import ContentPlayer.Json.Number
import ContentPlayer.Text.Surrogate

namespace ContentPlayer.Json

/-- What a text says as JSON, as far as it can be read. A fault of the text stands as a leaf in the
place where it is met, so that a reader that goes from left to right sees whichever comes first. -/
inductive Draft where
  | null
  | bool (b : Bool)
  | int (n : Int)
  | float (x : Float)
  /-- A number beyond the floats. -/
  | vast
  | string (s : String)
  /-- A string that holds half of a surrogate pair. -/
  | halved
  /-- The items; `stray` is what stands where a further item or the end should. -/
  | array (items : List Draft) (stray : Option Draft)
  /-- The members, without a name where that is halved. -/
  | object (members : List (Option String × Draft)) (stray : Option Draft)
  /-- Where the text stops being JSON. -/
  | broken
  deriving Inhabited

namespace Draft

mutual
/-- The text of a value is JSON throughout. -/
def whole : Draft → Bool
  | .array items stray => stray.isNone && wholeItems items
  | .object members stray => stray.isNone && wholeMembers members
  | .broken => false
  | _ => true

def wholeItems : List Draft → Bool
  | [] => true
  | d :: ds => d.whole && wholeItems ds

def wholeMembers : List (Option String × Draft) → Bool
  | [] => true
  | (_, d) :: ds => d.whole && wholeMembers ds
end

mutual
/-- How many arrays and objects stand in one another. -/
def depth : Draft → Nat
  | .array items _ => depthItems items + 1
  | .object members _ => depthMembers members + 1
  | _ => 0

def depthItems : List Draft → Nat
  | [] => 0
  | d :: ds => max d.depth (depthItems ds)

def depthMembers : List (Option String × Draft) → Nat
  | [] => 0
  | (_, d) :: ds => max d.depth (depthMembers ds)
end

end Draft

mutual
def draft : Json → Draft
  | .null => .null
  | .bool b => .bool b
  | .int n => .int n
  | .float x => .float x
  | .string s => .string s
  | .array items => .array (draftItems items) none
  | .object members => .object (draftMembers members) none

def draftItems : List Json → List Draft
  | [] => []
  | v :: vs => v.draft :: draftItems vs

def draftMembers : List (String × Json) → List (Option String × Draft)
  | [] => []
  | (k, v) :: rest => (some k, v.draft) :: draftMembers rest
end

def isSpace (c : Char) : Bool := c = ' ' || c = '\n' || c = '\t' || c = '\r'

def skipSpace (cs : List Char) : List Char := cs.dropWhile isSpace

/-- A string as scanned: its characters and whether every surrogate has its pair. -/
structure Scanned where
  chars : List Char
  paired : Bool

def Scanned.push (c : Char) (s : Scanned) : Scanned := { s with chars := c :: s.chars }

def Scanned.halve (s : Scanned) : Scanned := { s with paired := false }

def Scanned.text? (s : Scanned) : Option String :=
  if s.paired then some (String.ofList s.chars) else none

/-- The character behind a backslash, other than a numbered one. -/
def shortEscape (c : Char) : Option Char :=
  match c with
  | '"' => some '"'
  | '\\' => some '\\'
  | '/' => some '/'
  | 'b' => some '\x08'
  | 'f' => some '\x0c'
  | 'n' => some '\n'
  | 'r' => some '\r'
  | 't' => some '\t'
  | _ => none

/-- Reads a string behind its opening quote; none when it does not end or holds a control character
or an unknown escape. -/
def readString : List Char → Option (Scanned × List Char)
  | [] => none
  | '"' :: rest => some (⟨[], true⟩, rest)
  | '\\' :: 'u' :: a :: b :: c :: d :: rest => do
    let u ← Text.hexNumber [a, b, c, d]
    let alone := do
      let (s, tail) ← readString rest
      return (if Text.isHighSurrogate u || Text.isLowSurrogate u then s.halve
        else s.push (Char.ofNat u), tail)
    match rest with
    | '\\' :: 'u' :: e :: f :: g :: h :: rest =>
      match Text.hexNumber [e, f, g, h] with
      | some low =>
        if Text.isHighSurrogate u && Text.isLowSurrogate low then do
          let (s, tail) ← readString rest
          return (s.push (Text.pairedChar u low), tail)
        else alone
      | none => none
    | _ => alone
  | '\\' :: c :: rest => do
    let e ← shortEscape c
    let (s, tail) ← readString rest
    return (s.push e, tail)
  | c :: rest =>
    if c.toNat < 0x20 then none
    else do
      let (s, tail) ← readString rest
      return (s.push c, tail)

/-- What is left behind a word that the text starts with. -/
def afterWord (word : List Char) (cs : List Char) : Option (List Char) :=
  if word.isPrefixOf cs then some (cs.drop word.length) else none

def readWord (word : String) (d : Draft) (cs : List Char) : Draft × List Char :=
  match afterWord word.toList cs with
  | some rest => (d, rest)
  | none => (.broken, [])

def numberDraft : Numeral → Draft
  | .int n => .int n
  | .float x => .float x
  | .vast => .vast

mutual
/-- Reads a value at the front of a text, and gives what is left behind it. -/
def readValue : Nat → List Char → Draft × List Char
  | 0, _ => (.broken, [])
  | fuel + 1, cs =>
    match skipSpace cs with
    | [] => (.broken, [])
    | 'n' :: rest => readWord "ull" .null rest
    | 't' :: rest => readWord "rue" (.bool true) rest
    | 'f' :: rest => readWord "alse" (.bool false) rest
    | '"' :: rest =>
      match readString rest with
      | some (s, tail) => ((s.text?.map Draft.string).getD .halved, tail)
      | none => (.broken, [])
    | '[' :: rest =>
      match skipSpace rest with
      | ']' :: tail => (.array [] none, tail)
      | _ =>
        let (items, stray, tail) := readItems fuel rest
        (.array items stray, tail)
    | '{' :: rest =>
      match skipSpace rest with
      | '}' :: tail => (.object [] none, tail)
      | _ =>
        let (members, stray, tail) := readMembers fuel rest
        (.object members stray, tail)
    | cs =>
      match readNumber cs with
      | some (n, tail) => (numberDraft n, tail)
      | none => (.broken, [])

/-- Reads the items of an array from one that must be there to the closing bracket. -/
def readItems : Nat → List Char → List Draft × Option Draft × List Char
  | 0, _ => ([], some .broken, [])
  | fuel + 1, cs =>
    let (item, rest) := readValue fuel cs
    match skipSpace rest with
    | ']' :: tail => ([item], none, tail)
    | ',' :: tail =>
      let (items, stray, tail) := readItems fuel tail
      (item :: items, stray, tail)
    | _ => ([item], some .broken, [])

/-- Reads the members of an object from one that must be there to the closing brace. -/
def readMembers : Nat → List Char → List (Option String × Draft) × Option Draft × List Char
  | 0, _ => ([], some .broken, [])
  | fuel + 1, cs =>
    match skipSpace cs with
    | '"' :: rest =>
      match readString rest with
      | none => ([], some .broken, [])
      | some (name, rest) =>
        match skipSpace rest with
        | ':' :: rest =>
          let (value, rest) := readValue fuel rest
          match skipSpace rest with
          | '}' :: tail => ([(name.text?, value)], none, tail)
          | ',' :: tail =>
            let (members, stray, tail) := readMembers fuel tail
            ((name.text?, value) :: members, stray, tail)
          | _ => ([(name.text?, value)], some .broken, [])
        | _ => ([(name.text?, .broken)], some .broken, [])
    | cs => ([], some (readValue fuel cs).1, [])
end

/-- A whole text: its value, and whether nothing but space follows. -/
structure Document where
  value : Draft
  ends : Bool

def Document.ofText (text : String) : Document :=
  let cs := text.toList
  let (value, rest) := readValue (2 * cs.length + 2) cs
  ⟨value, (skipSpace rest).isEmpty⟩

end ContentPlayer.Json
