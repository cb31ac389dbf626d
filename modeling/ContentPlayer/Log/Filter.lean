import ContentPlayer.Log.Line

namespace ContentPlayer

/-- Down to which level lines are shown; none is nothing at all. -/
abbrev Threshold := Option LogLevel

/-- How much is shown of what comes from some part of the player, or from all of it. -/
structure LogDirective where
  target : Option String
  threshold : Threshold
  deriving DecidableEq, Repr

namespace LogLevel

/-- How much a level matters; the least is the greatest number. -/
def verbosity : LogLevel → Nat
  | .error => 1
  | .warn => 2
  | .info => 3
  | .debug => 4
  | .trace => 5

end LogLevel

/-- A threshold by its name in any case or its number. Nothing is errors only. -/
def thresholdOfName? (s : String) : Option Threshold :=
  let digits := match s.toList with
    | '+' :: rest => rest
    | cs => cs
  if !digits.isEmpty && digits.all Char.isDigit then
    match digits.foldl (fun n c => n * 10 + (c.toNat - '0'.toNat)) 0 with
    | 0 => some none
    | 1 => some (some .error)
    | 2 => some (some .warn)
    | 3 => some (some .info)
    | 4 => some (some .debug)
    | 5 => some (some .trace)
    | _ => none
  else match LogLevel.lowered s with
    | "" => some (some .error)
    | "off" => some none
    | "error" => some (some .error)
    | "warn" => some (some .warn)
    | "info" => some (some .info)
    | "debug" => some (some .debug)
    | "trace" => some (some .trace)
    | _ => none

/-- A directive without a level shows everything. -/
def directiveOfWord (s : String) : LogDirective :=
  match thresholdOfName? s with
  | some t => ⟨none, t⟩
  | none => ⟨some s, some .trace⟩

inductive DirectiveState where
  | start
  | word
  | level (start : Nat)
  | span
  | fields
  | afterFields
  | afterSpan

/-- A directive as far as it has been read; one that names spans applies to no line. -/
structure DirectiveReading where
  state : DirectiveState := .start
  target : Option String := none
  ofSpan : Bool := false

def isDirectiveStart (c : Char) : Bool :=
  c = '-' || c = ':' || c = '_' || c.isAlphanum || 0xC0 ≤ c.toNat

/-- Reads one character, with its place in the text and the text before it. -/
def DirectiveReading.step (r : DirectiveReading) (index : Nat) (before : String) (c : Char) :
    Option DirectiveReading :=
  match r.state with
  | .start =>
    if c = '[' then some { r with state := .span, ofSpan := true }
    else if isDirectiveStart c then some { r with state := .word }
    else none
  | .word =>
    if c = '=' then some { r with state := .level (index + 1), target := some before }
    else if c = '[' then some { r with state := .span, target := some before, ofSpan := true }
    else some r
  | .level _ => some r
  | .span =>
    if c = ']' then some { r with state := .afterSpan }
    else if c = '\x7b' then some { r with state := .fields }
    else some r
  | .fields => if c = '\x7d' then some { r with state := .afterFields } else some r
  | .afterFields => if c = ']' then some { r with state := .afterSpan } else none
  | .afterSpan => if c = '=' then some { r with state := .level (index + 1) } else none

def isFilterBlank (c : Char) : Bool := Text.isBlank c

def trimmedChars (cs : List Char) : List Char :=
  ((cs.dropWhile isFilterBlank).reverse.dropWhile isFilterBlank).reverse

/-- Reads the characters from the given place on; `all` is the text that parts are taken from. -/
def DirectiveReading.run (all : List Char) :
    DirectiveReading → Nat → List Char → Option DirectiveReading
  | r, _, [] => some r
  | r, n, c :: rest => do
    let r ← r.step n (String.ofList (all.take n)) c
    DirectiveReading.run all r (n + 1) rest

/-- A directive: a level, a target, or a target with its level. None when it does not read; no
directive when it names spans. -/
def readDirective (s : String) : Option (Option LogDirective) := do
  let all := s.toList
  let r ← DirectiveReading.run all {} 0 (trimmedChars all)
  let directive ← match r.state with
    | .word => some (directiveOfWord s)
    | .level n =>
      let name := String.ofList (all.drop n)
      let threshold ← if name = "" then some (some .trace) else thresholdOfName? name
      some ⟨r.target, threshold⟩
    | .afterSpan => some ⟨r.target, some .trace⟩
    | _ => none
  return if r.ofSpan then none else some directive

structure LogFilter where
  directives : List LogDirective
  deriving DecidableEq, Repr

namespace LogFilter

def ofLevel (level : LogLevel) : LogFilter := ⟨[⟨none, some level⟩]⟩

/-- Directives with commas between them; without any, errors are shown. -/
def ofText (s : String) : Option LogFilter := do
  let words := ((Text.splitAt ',' s.toList).filter (!·.isEmpty)).map String.ofList
  let directives ← words.mapM readDirective
  if words.isEmpty then return ofLevel .error
  return ⟨directives.filterMap id⟩

/-- How closely a directive fits a target, if at all. -/
def fit? (d : LogDirective) (target : String) : Option Nat :=
  match d.target with
  | none => some 0
  | some t => if t.toList.isPrefixOf target.toList then some (t.length + 1) else none

/-- The threshold for a target: that of the directive that fits it most closely, the last of equal
ones. -/
def threshold (f : LogFilter) (target : String) : Threshold :=
  (f.directives.foldl (fun (best : Nat × Threshold) d =>
    match fit? d target with
    | some n => if best.1 ≤ n + 1 then (n + 1, d.threshold) else best
    | none => best) (0, none)).2

def shows (f : LogFilter) (l : LogLine) : Bool :=
  (f.threshold l.target).any fun level => l.level.verbosity ≤ level.verbosity

end LogFilter

/-- The filter that a player logs with: that of the environment if it reads, else that of its
configuration; none when it does not log. -/
def LoggingConfig.filter? (c : LoggingConfig) (asked : Option String) : Option LogFilter :=
  if c.toConsole then some ((asked.bind LogFilter.ofText).getD (.ofLevel c.level)) else none

end ContentPlayer
