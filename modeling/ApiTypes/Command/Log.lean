import ApiTypes.Event
import ApiTypes.Text.Alphanumeric
import ApiTypes.Text.Blank
import ApiTypes.Text.Natural
import ApiTypes.Text.Quoted
import ApiTypes.Text.Split

/-!
# The log

`Event.line?` is the line of the log for an event, with its `Level` and the part of the
program that it comes from.  A `LogFilter` says which lines pass, by a `Directive` for every
part of the program: `LogFilter.ofText?` reads it from the setting of a user.
-/

namespace ApiTypes

/-- The levels of the log, from the gravest on. -/
inductive Level where
  | error
  | warn
  | info
  | debug
  | trace
deriving DecidableEq

namespace Level

/-- The levels, from the gravest on. -/
def all : List Level :=
  [error, warn, info, debug, trace]

/-- The name of a level in the log. -/
def text : Level → String
  | error => "ERROR"
  | warn => "WARN"
  | info => "INFO"
  | debug => "DEBUG"
  | trace => "TRACE"

/-- The rank of a level, from 1 for the gravest on. -/
def rank : Level → Nat
  | error => 1
  | warn => 2
  | info => 3
  | debug => 4
  | trace => 5

end Level

/-- The least grave level that passes, if any does. -/
abbrev Threshold := Option Level

namespace Threshold

/-- The test for a level that passes. -/
def passes (threshold : Threshold) (level : Level) : Bool :=
  threshold.any fun least => level.rank ≤ least.rank

/-- The threshold of a text: the name of a level in any case or its rank, or `off` or 0 for
silence. -/
def ofText? (s : List Char) : Option Threshold :=
  match Text.natural? s with
  | some 0 => some none
  | some n => (Level.all.find? (·.rank == n)).map some
  | none =>
    let name := s.map Char.toUpper
    if name = "OFF".toList then some none
    else (Level.all.find? (·.text.toList == name)).map some

end Threshold

/-! ### Filters -/

/-- The threshold for the lines that come from the parts of the program whose names start
with a target. -/
structure Directive where
  target : List Char
  threshold : Threshold
deriving DecidableEq

namespace Directive

/-- The test for a character that a directive may start with.  A bracket starts the name of
a span, which no line comes from. -/
def isStart (c : Char) : Bool :=
  Text.isAlphanumeric c || c ∈ ['-', ':', '_', '[']

/-- The directive of a text: a target and a threshold with an equals sign between them, a
threshold alone for every part of the program, or a target alone for all its lines.  Blanks
count as part of either. -/
def ofText? (s : List Char) : Option Directive :=
  if !(s.dropWhile Text.isBlank).head?.any isStart then none
  else
    match s.dropWhile (· ≠ '=') with
    | [] =>
      match Threshold.ofText? s with
      | some threshold => some ⟨[], threshold⟩
      | none => some ⟨s, some .trace⟩
    | _ :: level =>
      let target := s.takeWhile (· ≠ '=')
      if target.head?.any Text.isBlank then none
      else if level.isEmpty then some ⟨target, some .trace⟩
      else (Threshold.ofText? level).map (⟨target, ·⟩)

/-- The test for a directive about a part of the program. -/
def appliesTo (directive : Directive) (origin : String) : Bool :=
  directive.target.isPrefixOf origin.toList

/-- The one of two directives about a part of the program that decides: the one with the
longer target, or the second when the targets are the same. -/
def prefer (first second : Directive) : Directive :=
  if second.target.length < first.target.length then first else second

end Directive

/-- The directives that decide which lines pass. -/
abbrev LogFilter := List Directive

namespace LogFilter

/-- The filter of a setting, whose directives have commas between them.  Only errors pass
under the empty setting. -/
def ofText? (setting : String) : Option LogFilter :=
  if setting = "" then some [⟨[], some .error⟩]
  else (Text.splitAt ',' setting.toList).mapM Directive.ofText?

/-- The directive that decides on the lines from a part of the program, if there is one. -/
def decisive? (filter : LogFilter) (origin : String) : Option Directive :=
  match filter.filter (·.appliesTo origin) with
  | [] => none
  | first :: rest => some (rest.foldl Directive.prefer first)

/-- The test for a level that passes in the lines from a part of the program. -/
def passes (filter : LogFilter) (origin : String) (level : Level) : Bool :=
  (filter.decisive? origin).any fun directive => directive.threshold.passes level

end LogFilter

/-! ### Lines -/

/-- The name of a part of the program in the log. -/
def originOf (part : String) : String :=
  "swagger_typespec::" ++ part

/-- A line of the log: its level, the part of the program that it comes from, and its words. -/
structure LogLine where
  level : Level
  origin : String
  words : String

/-- The text of a line of the log. -/
def LogLine.text (line : LogLine) : String :=
  line.level.text ++ " " ++ line.origin ++ ": " ++ line.words

/-- A text as the value of a field of a line. -/
def fieldText (name value : String) : String :=
  " " ++ name ++ "=" ++ Text.quoted value

/-- The line of the log for an event. -/
def Event.line? : Event → Option LogLine
  | .entered _ _ => none
  | .classified label depth =>
    some ⟨.trace, originOf "resolver", "classified schema node" ++ fieldText "shape" label ++
      " depth=" ++ Nat.repr depth⟩
  | .nothingMerged name =>
    some ⟨.warn, originOf "resolver", "allOf reference matches no definition; nothing merged" ++
      fieldText "definition" name⟩
  | .resolving name =>
    some ⟨.trace, originOf "document", "resolving definition definition=" ++ name⟩
  | .buildingMethod operation =>
    some ⟨.debug, originOf "document", "building method operation=" ++ operation⟩
  | .excluded operation name =>
    some ⟨.debug, originOf "document", "parameter excluded from bindings" ++
      fieldText "operation" operation ++ " parameter=" ++ (match name with
        | some name => "Some(" ++ Text.quoted name ++ ")"
        | none => "None")⟩
  | .unknownParameter operation reference =>
    some ⟨.warn, originOf "document", "unknown parameter reference; skipped" ++
      fieldText "operation" operation ++ fieldText "parameter" reference⟩
  | .built definitions methods =>
    some ⟨.debug, originOf "document", "built document model definitions=" ++
      Nat.repr definitions ++ " methods=" ++ Nat.repr methods⟩
  | .wrote path =>
    some ⟨.debug, originOf "cli", "wrote model path=" ++ path⟩

/-- The lines of the log for events, as far as they pass. -/
def logLines (filter : LogFilter) (events : List Event) : List String :=
  ((events.filterMap Event.line?).filter fun line =>
    filter.passes line.origin line.level).map LogLine.text

end ApiTypes
