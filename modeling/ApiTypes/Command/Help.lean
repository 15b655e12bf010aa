import ApiTypes.Resolver

/-!
# Help

A `Topic` is what the program explains when it is asked for help, and `Topic.text` is the
explanation: what the topic is about, how it is used, and tables of what belongs to it.
-/

namespace ApiTypes

/-- What the program explains. -/
inductive Topic where
  | program
  | model
  | definition
  | help
deriving DecidableEq

namespace Topic

/-- The topic of words after the word `help`. -/
def ofWords? : List String → Option Topic
  | [] => some program
  | ["model"] => some model
  | ["definition"] => some definition
  | ["help"] => some help
  | _ => none

/-- What a topic is about. -/
def about : Topic → String
  | program => "turn Swagger 2.0 schemas into the flat type model TypeScript templates consume"
  | model => "build the full document model (definitions + methods)"
  | definition => "resolve a single named definition"
  | help => "Print this message or the help of the given subcommand(s)"

/-- The form of a command line. -/
def usage : Topic → String
  | program => "swagger-typespec [OPTIONS] <COMMAND>"
  | model => "swagger-typespec model [OPTIONS] --input <INPUT>..."
  | definition => "swagger-typespec definition [OPTIONS] --input <INPUT> --name <NAME>"
  | help => "swagger-typespec help [COMMAND]..."

/-! ### Tables -/

/-- A table of forms and what they mean. -/
structure Table where
  heading : String
  rows : List (String × String)

/-- The row of the option for more lines in the log. -/
def verboseRow : String × String :=
  ("-v, --verbose", "log at debug level (overridden by SWAGGER_TYPESPEC_LOG)")

/-- The row of the option for fewer lines in the log. -/
def quietRow : String × String :=
  ("-q, --quiet", "only log errors (overridden by SWAGGER_TYPESPEC_LOG)")

/-- The row of the option for the depth. -/
def maxDepthRow : String × String :=
  ("    --max-depth <MAX_DEPTH>",
    "deepest schema nesting accepted before giving up " ++
      "[default: " ++ Nat.repr defaultMaxDepth ++ "]")

/-- The row of the option for the file that the answer is written to. -/
def outRow : String × String :=
  ("-o, --out <OUT>", "output .json file (stdout if omitted)")

/-- The row of the option for help. -/
def helpRow : String × String :=
  ("-h, --help", "Print help")

/-- The tables of what belongs to a topic. -/
def tables : Topic → List Table
  | program => [
    ⟨"Commands", [
      ("model", model.about),
      ("definition", definition.about),
      ("help", help.about)]⟩,
    ⟨"Options", [verboseRow, quietRow, helpRow]⟩]
  | model => [
    ⟨"Options", [
      ("-i, --input <INPUT>...",
        "One or more inputs. May be literal paths or quoted glob patterns"),
      verboseRow,
      maxDepthRow,
      quietRow,
      ("    --include-excluded", "keep parameters marked `x-exclude-from-bindings`"),
      outRow,
      helpRow]⟩]
  | definition => [
    ⟨"Options", [
      ("-i, --input <INPUT>", "swagger document"),
      verboseRow,
      ("    --name <NAME>", "definition name, as it appears under `definitions`"),
      quietRow,
      maxDepthRow,
      outRow,
      helpRow]⟩]
  | help => [
    ⟨"Arguments", [("[COMMAND]...", "Print help for the subcommand(s)")]⟩]

/-- The length of the longest form of a table. -/
def Table.width (table : Table) : Nat :=
  table.rows.foldl (fun width row => max width row.1.length) 0

/-- The lines of a table, with what the forms mean in a column of its own. -/
def Table.lines (table : Table) : List String :=
  (table.heading ++ ":") :: table.rows.map fun (form, meaning) =>
    "  " ++ form.pushn ' ' (table.width + 2 - form.length) ++ meaning

/-- The explanation of a topic. -/
def text (topic : Topic) : String :=
  let parts := [topic.about] :: ["Usage: " ++ topic.usage] :: topic.tables.map Table.lines
  String.intercalate "\n\n" (parts.map (String.intercalate "\n")) ++ "\n"

end Topic

end ApiTypes
