import ContentPlayer.Shape.Read
import ContentPlayer.Text.Utf8

namespace ContentPlayer

/-- A module packed into a catalog: its place among the bytes, and the definitions it brings. -/
structure CatalogEntry where
  name : String
  offset : Nat
  length : Nat
  defs : List String
  deriving DecidableEq, Repr

def CatalogEntry.stop (e : CatalogEntry) : Nat := e.offset + e.length

inductive CatalogError where
  | invalidIndex (reason : String)
  | outOfBounds (name : String) (offset length size : Nat)
  deriving DecidableEq, Repr

def CatalogError.message : CatalogError → String
  | .invalidIndex reason => s!"Invalid catalog index: {reason}"
  | .outOfBounds name offset length size =>
    s!"Catalog entry {name} [{offset}..{offset}+{length}] exceeds catalog size {size}"

/-- Modules packed together; every entry lies within the bytes. -/
structure Catalog where
  bytes : Bytes
  entries : List CatalogEntry
  within : ∀ e ∈ entries, e.stop ≤ bytes.length
  deriving Repr

namespace Catalog

/-- The first entry that reaches beyond the bytes is refused. -/
def ofEntries (bytes : Bytes) (entries : List CatalogEntry) : Except CatalogError Catalog :=
  match h : entries.find? fun e => bytes.length < e.stop with
  | some e => .error (.outOfBounds e.name e.offset e.length bytes.length)
  | none => .ok ⟨bytes, entries, by simpa using h⟩

def size (c : Catalog) : Nat := c.entries.length

/-- The first entry that brings a definition. -/
def indexOf (c : Catalog) (definition : String) : Option Nat :=
  c.entries.findIdx? (·.defs.contains definition)

def entry? (c : Catalog) (index : Nat) : Option CatalogEntry := c.entries[index]?

def code? (c : Catalog) (index : Nat) : Option Bytes :=
  (c.entry? index).map fun e => (c.bytes.drop e.offset).take e.length

/-- An entry as far as it has been read. -/
structure EntryFields where
  name : Option String := none
  offset : Option Nat := none
  length : Option Nat := none
  defs : Option (List String) := none

def entryForm : Shape.Form EntryFields CatalogEntry where
  name := "struct CatalogEntry"
  slots := [
    ⟨"name", (·.name.isSome),
      fun _ d s => do return { s with name := some (← Shape.readText "a string" d) }⟩,
    ⟨"offset", (·.offset.isSome),
      fun _ d s => do return { s with offset := some (← Shape.readNatural UInt64.size "usize" d) }⟩,
    ⟨"length", (·.length.isSome),
      fun _ d s => do return { s with length := some (← Shape.readNatural UInt64.size "usize" d) }⟩,
    ⟨"defs", (·.defs.isSome), fun room d s => do
      let names ← Shape.readList (fun _ => Shape.readText "a string") room d
      return { s with defs := some names }⟩]
  start := {}
  finish := fun s => do
    return ⟨← Shape.required "name" s.name, ← Shape.required "offset" s.offset,
      ← Shape.required "length" s.length, s.defs.getD []⟩

def readIndex : Shape.Reader (List CatalogEntry) := Shape.readList (entryForm.read .value)

def ofJson (bytes : Bytes) (index : Json) : Except CatalogError Catalog := do
  let entries ← (Shape.ofValue readIndex index).mapError fun e => .invalidIndex e.message
  ofEntries bytes entries

end Catalog

end ContentPlayer
