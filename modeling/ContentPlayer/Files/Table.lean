import ContentPlayer.Files.Path

namespace ContentPlayer

/-- Where names are looked up from: the working folder or one so many levels above it, or the top of
all folders. -/
inductive Base where
  | above (levels : Nat)
  | top
  deriving DecidableEq, Repr

structure Place where
  base : Base
  names : List String
  deriving DecidableEq, Repr

namespace Place

def here : Place := ⟨.above 0, []⟩

def up (p : Place) : Place :=
  match p.names, p.base with
  | [], .above n => ⟨.above (n + 1), []⟩
  | [], .top => p
  | names, base => ⟨base, names.dropLast⟩

def down (p : Place) (name : String) : Place := ⟨p.base, p.names ++ [name]⟩

end Place

inductive FileEntry where
  | folder
  | file (bytes : Bytes)
  deriving DecidableEq, Repr

/-- The files and folders that can be reached from a working folder. -/
structure FileTable where
  entries : List (Place × FileEntry) := []

namespace FileTable

def entry? (t : FileTable) (p : Place) : Option FileEntry :=
  if p.names.isEmpty then some .folder else t.entries.lookup p

def step (t : FileTable) (p : Place) (part : String) : Except FileError Place :=
  match t.entry? p with
  | none => .error .notFound
  | some (.file _) => .error .notFolder
  | some .folder =>
    if part = "" || part = "." then .ok p
    else if part = ".." then .ok p.up
    else if (Text.encode part).length > Path.longestName then .error .nameTooLong
    else .ok (p.down part)

def walk (t : FileTable) : Place → List String → Except FileError Place
  | p, [] => .ok p
  | p, part :: rest => do t.walk (← t.step p part) rest

def start (path : String) : Place := if Path.isAbsolute path then ⟨.top, []⟩ else .here

/-- No path is empty, too long, or holds the character zero. -/
def checkPath (path : String) : Except FileError Unit :=
  if path.toList.contains '\x00' then .error .zeroInPath
  else if (Text.encode path).length > Path.longestPath then .error .nameTooLong
  else if path = "" then .error .notFound
  else .ok ()

def read (t : FileTable) (path : String) : Except FileError Bytes := do
  checkPath path
  let p ← t.walk (start path) (Path.parts path)
  match t.entry? p with
  | none => .error .notFound
  | some .folder => .error .isFolder
  | some (.file bytes) => .ok bytes

/-- Writes a file into a folder that exists. What ends in a slash is taken for a folder. -/
def write (t : FileTable) (path : String) (bytes : Bytes) : Except FileError FileTable := do
  checkPath path
  let name := (Path.parts path).reverse.dropWhile (· = "")
  if (Path.parts path).getLast? = some "" then
    let p ← t.walk (start path) name.tail.reverse
    let _ ← t.step p "."
    throw .isFolder
  let p ← t.walk (start path) (Path.parts path)
  match t.entry? p with
  | some .folder => .error .isFolder
  | _ => .ok ⟨(p, .file bytes) :: t.entries⟩

/-- Makes a folder and those it is in. -/
def makeFolder (t : FileTable) (names : List String) : FileTable :=
  (List.range names.length).foldl (fun t n =>
    let p : Place := ⟨.above 0, names.take (n + 1)⟩
    if (t.entry? p).isSome then t else ⟨(p, .folder) :: t.entries⟩) t

/-- Puts a file in the working folder, with the folders it is in; a path that ends in a slash is
that of a folder. -/
def put (t : FileTable) (path : String) (bytes : Bytes) : FileTable :=
  let names := (Path.parts path).filter fun part => part ≠ "" && part ≠ "."
  if path.toList.getLast? = some '/' then t.makeFolder names
  else
    let t := t.makeFolder names.dropLast
    ⟨(⟨.above 0, names⟩, .file bytes) :: t.entries⟩

def ofFiles (files : List (String × Bytes)) : FileTable :=
  files.foldl (fun t (path, bytes) => t.put path bytes) {}

end FileTable

end ContentPlayer
