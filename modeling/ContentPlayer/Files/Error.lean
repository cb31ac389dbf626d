import ContentPlayer.Text.Utf8

namespace ContentPlayer

inductive FileError where
  | notFound
  | notFolder
  | isFolder
  | nameTooLong
  /-- The path holds the character zero. -/
  | zeroInPath
  | notText
  /-- Whatever else the machine reports. -/
  | other (reason : String)
  deriving DecidableEq, Repr

namespace FileError

def message : FileError → String
  | .notFound => "No such file or directory (os error 2)"
  | .notFolder => "Not a directory (os error 20)"
  | .isFolder => "Is a directory (os error 21)"
  | .nameTooLong => "File name too long (os error 36)"
  | .zeroInPath => "file name contained an unexpected NUL byte"
  | .notText => "stream did not contain valid UTF-8"
  | .other reason => reason

end FileError

def fileText (read : Except FileError Bytes) : Except FileError String := do
  let bytes ← read
  (Text.decode bytes).mapError fun _ => .notText

end ContentPlayer
