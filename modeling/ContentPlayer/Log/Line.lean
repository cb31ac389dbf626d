import ContentPlayer.Config.Basic
import ContentPlayer.Text.Split
import ContentPlayer.Text.Surrogate

namespace ContentPlayer

/-- A line of the log: how much it matters, the part of the player that it comes from, and what is
said. -/
structure LogLine where
  level : LogLevel
  target : String
  message : String
  deriving DecidableEq, Repr

namespace LogLine

def levelName : LogLevel → String
  | .trace => "TRACE"
  | .debug => "DEBUG"
  | .info => "INFO"
  | .warn => "WARN"
  | .error => "ERROR"

/-- Characters that would steer a terminal are written as numbers. -/
def visible (c : Char) : String :=
  if c = '\x07' then "\\x07"
  else if c = '\x08' then "\\x08"
  else if c = '\x0c' then "\\x0c"
  else if c = '\x1b' then "\\x1b"
  else if c = '\x7f' then "\\x7f"
  else if 0x80 ≤ c.toNat && c.toNat < 0xA0 then
    "\\u\x7b" ++ Text.hexText c.toNat ++ "\x7d"
  else c.toString

def text (l : LogLine) : String :=
  levelName l.level ++ " " ++ l.target ++ ": " ++ String.join (l.message.toList.map visible)

def rows (l : LogLine) : List String :=
  (Text.splitAt '\n' l.text.toList).map String.ofList

end LogLine

end ContentPlayer
