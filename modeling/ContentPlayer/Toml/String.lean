import ContentPlayer.Text.Surrogate

namespace ContentPlayer.Toml

def isSpace (c : Char) : Bool := c = ' ' || c = '\t'

/-- Characters that may stand in strings and comments: no control character but the tab. -/
def isPlain (c : Char) : Bool := c = '\t' || (0x20 ≤ c.toNat && c.toNat ≠ 0x7F)

/-- The character behind a backslash, other than a numbered one. -/
def shortEscape (c : Char) : Option Char :=
  match c with
  | '"' => some '"'
  | '\\' => some '\\'
  | 'b' => some '\x08'
  | 'e' => some '\x1b'
  | 'f' => some '\x0c'
  | 'n' => some '\n'
  | 'r' => some '\r'
  | 't' => some '\t'
  | _ => none

/-- The character of a number, none for surrogates and numbers beyond the last character. -/
def numbered (digits : List Char) : Option Char := do
  let n ← Text.hexNumber digits
  if n < 0xD800 || (0xE000 ≤ n && n < 0x110000) then some (Char.ofNat n) else none

/-- Reads a basic string behind its opening quote. -/
def readBasic : List Char → Option (List Char × List Char)
  | [] => none
  | '"' :: rest => some ([], rest)
  | '\\' :: 'x' :: a :: b :: rest => do
    let c ← numbered [a, b]
    let (s, tail) ← readBasic rest
    return (c :: s, tail)
  | '\\' :: 'u' :: a :: b :: c :: d :: rest => do
    let c ← numbered [a, b, c, d]
    let (s, tail) ← readBasic rest
    return (c :: s, tail)
  | '\\' :: 'U' :: a :: b :: c :: d :: e :: f :: g :: h :: rest => do
    let c ← numbered [a, b, c, d, e, f, g, h]
    let (s, tail) ← readBasic rest
    return (c :: s, tail)
  | '\\' :: c :: rest => do
    let c ← shortEscape c
    let (s, tail) ← readBasic rest
    return (c :: s, tail)
  | c :: rest =>
    if isPlain c then do
      let (s, tail) ← readBasic rest
      return (c :: s, tail)
    else none

/-- Reads a literal string behind its opening apostrophe. -/
def readLiteral : List Char → Option (List Char × List Char)
  | [] => none
  | '\'' :: rest => some ([], rest)
  | c :: rest =>
    if isPlain c then do
      let (s, tail) ← readLiteral rest
      return (c :: s, tail)
    else none

/-- Up to two more quotes before the closing three belong to the string. -/
def closeMultiline (quote : Char) : List Char → List Char × List Char
  | a :: b :: rest =>
    if a = quote && b = quote then ([quote, quote], rest)
    else if a = quote then ([quote], b :: rest)
    else ([], a :: b :: rest)
  | [a] => if a = quote then ([quote], []) else ([], [a])
  | [] => ([], [])

/-- A backslash may end a line; blanks may stand between the two. -/
def endsLine (cs : List Char) : Bool :=
  match cs.dropWhile isSpace with
  | '\n' :: _ => true
  | '\r' :: '\n' :: _ => true
  | _ => false

/-- Reads a multi-line basic string behind its opening quotes; `skipping` passes over the space that
follows a line's ending backslash. -/
def readMultiBasic (skipping : Bool) : List Char → Option (List Char × List Char)
  | [] => none
  | '"' :: '"' :: '"' :: rest => some (closeMultiline '"' rest)
  | '\n' :: rest =>
    if skipping then readMultiBasic true rest
    else do
      let (s, tail) ← readMultiBasic false rest
      return ('\n' :: s, tail)
  | '\r' :: '\n' :: rest =>
    if skipping then readMultiBasic true rest
    else do
      let (s, tail) ← readMultiBasic false rest
      return ('\r' :: '\n' :: s, tail)
  | '\\' :: 'x' :: a :: b :: rest => do
    let c ← numbered [a, b]
    let (s, tail) ← readMultiBasic false rest
    return (c :: s, tail)
  | '\\' :: 'u' :: a :: b :: c :: d :: rest => do
    let c ← numbered [a, b, c, d]
    let (s, tail) ← readMultiBasic false rest
    return (c :: s, tail)
  | '\\' :: 'U' :: a :: b :: c :: d :: e :: f :: g :: h :: rest => do
    let c ← numbered [a, b, c, d, e, f, g, h]
    let (s, tail) ← readMultiBasic false rest
    return (c :: s, tail)
  | '\\' :: c :: rest =>
    match shortEscape c with
    | some c => do
      let (s, tail) ← readMultiBasic false rest
      return (c :: s, tail)
    | none =>
      if c = '\n' || (isSpace c && endsLine rest) || (c = '\r' && rest.head? = some '\n') then
        readMultiBasic true rest
      else none
  | c :: rest =>
    if skipping && isSpace c then readMultiBasic true rest
    else if isPlain c then do
      let (s, tail) ← readMultiBasic false rest
      return (c :: s, tail)
    else none

/-- Reads a multi-line literal string behind its opening apostrophes. -/
def readMultiLiteral : List Char → Option (List Char × List Char)
  | [] => none
  | '\'' :: '\'' :: '\'' :: rest => some (closeMultiline '\'' rest)
  | '\r' :: '\n' :: rest => do
    let (s, tail) ← readMultiLiteral rest
    return ('\r' :: '\n' :: s, tail)
  | c :: rest =>
    if isPlain c || c = '\n' then do
      let (s, tail) ← readMultiLiteral rest
      return (c :: s, tail)
    else none

/-- A line end right behind opening quotes is not part of the string. -/
def dropFirstLineEnd : List Char → List Char
  | '\n' :: rest => rest
  | '\r' :: '\n' :: rest => rest
  | cs => cs

/-- Reads a string of any of the four forms; none where no quote stands. -/
def readString : List Char → Option (List Char × List Char)
  | '"' :: '"' :: '"' :: rest => readMultiBasic false (dropFirstLineEnd rest)
  | '"' :: rest => readBasic rest
  | '\'' :: '\'' :: '\'' :: rest => readMultiLiteral (dropFirstLineEnd rest)
  | '\'' :: rest => readLiteral rest
  | _ => none

end ContentPlayer.Toml
