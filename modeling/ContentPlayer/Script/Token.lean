import ContentPlayer.Script.Number
import ContentPlayer.Script.Units
import ContentPlayer.Text.Blank

namespace ContentPlayer.Script

inductive Token where
  | name (s : String)
  | number (x : Float)
  | text (s : Units)
  | mark (c : Char)
  deriving BEq

/-- A token, and whether a line ends before it. -/
structure Placed where
  token : Token
  onNewLine : Bool

def isLineEnd (c : Char) : Bool := c = '\n' || c = '\r' || c = '\u2028' || c = '\u2029'

def isSpace (c : Char) : Bool := c = '\uFEFF' || (Text.isBlank c && c ≠ '\x85')

def isNameStart (c : Char) : Bool :=
  c.isAlpha || c = '_' || c = '$' || (c.toNat ≥ 0xAA && !isSpace c)

def isNameChar (c : Char) : Bool := isNameStart c || c.isDigit

def isMark (c : Char) : Bool := ";,()=+-".toList.contains c

/-- The character behind a backslash that stands for another one. -/
def escaped (c : Char) : Char :=
  match c with
  | 'b' => '\x08'
  | 't' => '\t'
  | 'n' => '\n'
  | 'v' => '\x0b'
  | 'f' => '\x0c'
  | 'r' => '\r'
  | '0' => '\x00'
  | c => c

/-- The character of the number in braces, behind the opening one. -/
def takeNumbered (cs : List Char) : Option (Units × List Char) := do
  let digits := cs.takeWhile (· != '\x7d')
  let n ← Text.hexNumber digits
  if digits.isEmpty || n ≥ 0x110000 then none
  let units := if n < 0x10000 then [n.toUInt16] else unitsOfChar (Char.ofNat n)
  match cs.drop digits.length with
  | _ :: rest => return (units, rest)
  | [] => none

/-- What an escape stands for, behind its backslash. -/
def takeEscape : List Char → Option (Units × List Char)
  | 'x' :: a :: b :: rest => do return ([(← Text.hexNumber [a, b]).toUInt16], rest)
  | 'u' :: '\x7b' :: rest => takeNumbered rest
  | 'u' :: a :: b :: c :: d :: rest => do
    return ([(← Text.hexNumber [a, b, c, d]).toUInt16], rest)
  | '\r' :: '\n' :: rest => some ([], rest)
  | c :: rest =>
    if isLineEnd c then some ([], rest)
    else if c = 'x' || c = 'u' then none
    else if c.isDigit && (c ≠ '0' || (rest.head?.map Char.isDigit).getD false) then none
    else some (unitsOfChar (escaped c), rest)
  | [] => none

/-- Takes a string up to its closing quote. Every step takes a character, so that the length of the
text is fuel enough. -/
def takeText (quote : Char) : Nat → List Char → Option (Units × List Char)
  | 0, _ => none
  | _, [] => none
  | fuel + 1, '\\' :: rest => do
    let (units, rest) ← takeEscape rest
    let (s, tail) ← takeText quote fuel rest
    return (units ++ s, tail)
  | fuel + 1, c :: rest =>
    if c = quote then some ([], rest)
    else if c = '\n' || c = '\r' then none
    else do
      let (s, tail) ← takeText quote fuel rest
      return (unitsOfChar c ++ s, tail)

/-- Takes one token; none where no token begins. -/
def takeToken (cs : List Char) : Option (Token × List Char) :=
  match cs with
  | [] => none
  | '+' :: '+' :: _ => none
  | '-' :: '-' :: _ => none
  | c :: rest =>
    if c = '"' || c = '\'' then
      (takeText c rest.length rest).map fun (s, tail) => (.text s, tail)
    else if c.isDigit || c = '.' then do
      let (x, tail) ← takeNumber cs
      if (tail.head?.map isNameChar).getD false then none else some (.number x, tail)
    else if isNameStart c then
      some (.name (String.ofList (cs.takeWhile isNameChar)), cs.dropWhile isNameChar)
    else if isMark c then some (.mark c, rest)
    else none

/-- The tokens of a script, none when it does not consist of tokens. -/
def tokensFrom : Nat → Bool → List Char → Option (List Placed)
  | _, _, [] => some []
  | 0, _, _ :: _ => none
  | fuel + 1, onNewLine, c :: rest =>
    if isLineEnd c then tokensFrom fuel true rest
    else if isSpace c then tokensFrom fuel onNewLine rest
    else do
      let (token, tail) ← takeToken (c :: rest)
      return ⟨token, onNewLine⟩ :: (← tokensFrom fuel false tail)

def tokens (source : String) : Option (List Placed) :=
  tokensFrom source.length false source.toList

end ContentPlayer.Script
