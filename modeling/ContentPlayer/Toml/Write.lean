import ContentPlayer.Text.Surrogate

namespace ContentPlayer.Toml

/-- Control characters, with the delete character; a line end is none of them here. -/
def isControl (c : Char) : Bool := (c.toNat < 0x20 && c ≠ '\n') || c.toNat = 0x7F

def longestRun (q : Char) (cs : List Char) : Nat :=
  (cs.foldl (fun (best, run) c =>
    let run := if c = q then run + 1 else 0
    (max best run, run)) (0, 0)).1

def hexDigit (n : Nat) : Char := if n < 10 then Char.ofNat (48 + n) else Char.ofNat (55 + n)

/-- A character inside an escaped string, other than quotes and line ends. -/
def escapeChar (c : Char) : List Char :=
  if c = '\x08' then ['\\', 'b']
  else if c = '\t' then ['\\', 't']
  else if c = '\x0c' then ['\\', 'f']
  else if c = '\r' then ['\\', 'r']
  else if c = '\\' then ['\\', '\\']
  else if isControl c then
    ['\\', 'u', '0', '0', hexDigit (c.toNat / 16), hexDigit (c.toNat % 16)]
  else [c]

def escapeLine : List Char → List Char
  | [] => []
  | '"' :: cs => '\\' :: '"' :: escapeLine cs
  | '\n' :: cs => '\\' :: 'n' :: escapeLine cs
  | c :: cs => escapeChar c ++ escapeLine cs

/-- The escaped form over several lines; every third quote of a run is escaped. -/
def escapeLines (quotes : Nat) : List Char → List Char
  | [] => []
  | '"' :: cs =>
    if quotes = 2 then '\\' :: '"' :: escapeLines 0 cs else '"' :: escapeLines (quotes + 1) cs
  | '\n' :: cs => '\n' :: escapeLines 0 cs
  | c :: cs => escapeChar c ++ escapeLines 0 cs

def tripleQuote : List Char := ['"', '"', '"']

def tripleApostrophe : List Char := ['\'', '\'', '\'']

/-- A line end behind the opening quotes where the string has one of its own. -/
def openingLine (cs : List Char) : List Char := if cs.contains '\n' then ['\n'] else []

/-- A string in the first form that fits it: basic, literal, their multi-line forms, escaped. -/
def writeString (cs : List Char) : List Char :=
  let newline := cs.contains '\n'
  let control := cs.any isControl
  if !newline && !control && !cs.contains '"' && !cs.contains '\\' then '"' :: cs ++ ['"']
  else if !newline && !control && !cs.contains '\'' then '\'' :: cs ++ ['\'']
  else if !control && !cs.contains '\\' && longestRun '"' cs < 3 then
    tripleQuote ++ openingLine cs ++ cs ++ tripleQuote
  else if !control && longestRun '\'' cs < 3 then
    tripleApostrophe ++ openingLine cs ++ cs ++ tripleApostrophe
  else if newline then tripleQuote ++ openingLine cs ++ escapeLines 0 cs ++ tripleQuote
  else '"' :: escapeLine cs ++ ['"']

/-- A header, a pair, and lines of them. -/
def writeHeader (name : String) : List Char := '[' :: name.toList ++ [']', '\n']

def writePair (key : String) (value : List Char) : List Char :=
  key.toList ++ " = ".toList ++ value ++ ['\n']

end ContentPlayer.Toml
