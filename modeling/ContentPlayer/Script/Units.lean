import ContentPlayer.Text.Surrogate

namespace ContentPlayer.Script

/-- A script's text: code units of 16 bits, in which surrogates need not be paired. -/
abbrev Units := List UInt16

def unitsOfChar (c : Char) : Units :=
  if c.toNat < 0x10000 then [c.toNat.toUInt16]
  else
    let n := c.toNat - 0x10000
    [(0xD800 + n / 0x400).toUInt16, (0xDC00 + n % 0x400).toUInt16]

def unitsOf (s : String) : Units := s.toList.flatMap unitsOfChar

/-- The characters of some code units, none when a surrogate is not paired. -/
def charsOf? : Units → Option (List Char)
  | [] => some []
  | u :: rest =>
    if Text.isHighSurrogate u.toNat then
      match rest with
      | v :: rest =>
        if Text.isLowSurrogate v.toNat then
          (charsOf? rest).map (Text.pairedChar u.toNat v.toNat :: ·)
        else none
      | [] => none
    else if Text.isLowSurrogate u.toNat then none
    else (charsOf? rest).map (Char.ofNat u.toNat :: ·)

end ContentPlayer.Script
