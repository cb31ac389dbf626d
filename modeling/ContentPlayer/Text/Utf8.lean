namespace ContentPlayer

/-- Raw bytes, as files and resources hold them. -/
abbrev Bytes := List UInt8

namespace Text

/-- Where bytes stop being UTF-8: the index of the first bad sequence, and its length unless the
bytes merely end inside a sequence that was good so far. -/
structure Utf8Fault where
  index : Nat
  length : Option Nat
  deriving DecidableEq, Repr

def Utf8Fault.message (e : Utf8Fault) : String :=
  match e.length with
  | some n => s!"invalid utf-8 sequence of {n} bytes from index {e.index}"
  | none => s!"incomplete utf-8 byte sequence from index {e.index}"

/-- The bytes that may follow the first byte of a sequence; only the second one depends on it. -/
def isSecond (first second : UInt8) : Bool :=
  let low := if first = 0xE0 then 0xA0 else if first = 0xF0 then 0x90 else 0x80
  let high := if first = 0xED then 0x9F else if first = 0xF4 then 0x8F else 0xBF
  low ≤ second && second ≤ high

def isTail (b : UInt8) : Bool := 0x80 ≤ b && b ≤ 0xBF

/-- How many bytes a sequence that starts with this byte has; none for a byte that starts none. -/
def sequenceLength (first : UInt8) : Option Nat :=
  if first < 0x80 then some 1
  else if first < 0xC2 then none
  else if first < 0xE0 then some 2
  else if first < 0xF0 then some 3
  else if first < 0xF5 then some 4
  else none

def tailBits (b : UInt8) : Nat := b.toNat % 64

/-- The character of a two, three or four byte sequence. -/
def joined (first : UInt8) (tails : List UInt8) : Char :=
  let lead := match tails.length with
    | 1 => first.toNat % 32
    | 2 => first.toNat % 16
    | _ => first.toNat % 8
  Char.ofNat (tails.foldl (fun n b => n * 64 + tailBits b) lead)

/-- Reads UTF-8 from the given index on, and stops at the first bad sequence. -/
def decodeFrom (index : Nat) : Bytes → Except Utf8Fault (List Char)
  | [] => .ok []
  | a :: rest =>
    match sequenceLength a with
    | none => .error ⟨index, some 1⟩
    | some 1 => do return Char.ofNat a.toNat :: (← decodeFrom (index + 1) rest)
    | some n =>
      match rest with
      | [] => .error ⟨index, none⟩
      | b :: rest =>
        if !isSecond a b then .error ⟨index, some 1⟩
        else if n = 2 then do return joined a [b] :: (← decodeFrom (index + 2) rest)
        else match rest with
          | [] => .error ⟨index, none⟩
          | c :: rest =>
            if !isTail c then .error ⟨index, some 2⟩
            else if n = 3 then do return joined a [b, c] :: (← decodeFrom (index + 3) rest)
            else match rest with
              | [] => .error ⟨index, none⟩
              | d :: rest =>
                if !isTail d then .error ⟨index, some 3⟩
                else do return joined a [b, c, d] :: (← decodeFrom (index + 4) rest)

def decode (bytes : Bytes) : Except Utf8Fault String :=
  (decodeFrom 0 bytes).map String.ofList

def encode (s : String) : Bytes := s.toUTF8.toList

end Text

end ContentPlayer
