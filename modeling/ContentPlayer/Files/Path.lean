import ContentPlayer.Files.Error
import ContentPlayer.Text.Split

namespace ContentPlayer.Path

/-- A path below another; one that begins with a slash stands for itself. -/
def join (folder path : String) : String :=
  match path.toList with
  | '/' :: _ => path
  | _ => if folder = "" || folder.toList.getLast? = some '/' then folder ++ path
    else folder ++ "/" ++ path

def isAbsolute (path : String) : Bool := path.toList.head? = some '/'

def parts (path : String) : List String := (Text.splitAt '/' path.toList).map String.ofList

/-- The longest name and the longest path, in bytes. -/
def longestName : Nat := 255

def longestPath : Nat := 4095

end ContentPlayer.Path
