import ContentPlayer.Text.Standalone
import ContentPlayer.Text.Surrogate

namespace ContentPlayer.Text

/-- One character between quotes: the usual short escapes, itself if it shows on its own, else its
number. -/
def quotedChar (quotes : List Char) (c : Char) : String :=
  if c = '\x00' then "\\0"
  else if c = '\t' then "\\t"
  else if c = '\r' then "\\r"
  else if c = '\n' then "\\n"
  else if c = '\\' || quotes.contains c then String.ofList ['\\', c]
  else if isStandalone c then c.toString
  else "\\u\x7b" ++ hexText c.toNat ++ "\x7d"

def quotedWith (quotes : List Char) (s : String) : String :=
  "\"" ++ String.join (s.toList.map (quotedChar quotes)) ++ "\""

/-- A text between double quotes, every character of it visible. -/
def quoted (s : String) : String := quotedWith ['"'] s

/-- A path between double quotes; apostrophes are escaped as well. -/
def quotedPath (s : String) : String := quotedWith ['"', '\''] s

end ContentPlayer.Text
