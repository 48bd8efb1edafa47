import Shapewright.Command.Arguments

/-!
# Commands

The commands, their options, and the pages that explain them.
-/
namespace Shapewright.Command

inductive Subcommand where
  | render
  | config
  | version
  deriving DecidableEq, Repr

namespace Subcommand

def all : List Subcommand := [.config, .render, .version]

def name : Subcommand → String
  | .render => "render"
  | .config => "config"
  | .version => "version"

def ofName? (name : String) : Option Subcommand := all.find? fun c => c.name == name

def summary : Subcommand → String
  | .render => "Render C# types and converters for an IR document (use '-' to read STDIN)."
  | .config => "Show the effective configuration as TOML."
  | .version => "Show the current version of SharpShape."

end Subcommand

inductive GroupOption where
  | verbose
  | quiet
  | help
  deriving DecidableEq, Repr

inductive RenderOption where
  | output
  | namespaceName
  | indentWidth
  | lineEnd
  | header
  | noHeader
  | config
  | help
  deriving DecidableEq, Repr

inductive ConfigOption where
  | config
  | help
  deriving DecidableEq, Repr

inductive VersionOption where
  | json
  | help
  deriving DecidableEq, Repr

def helpForm {α : Type} (option : α) : OptionForm α :=
  { option, long := "help", short := some 'h', help := "Show this message and exit." }

def configForm {α : Type} (option : α) : OptionForm α :=
  { option, long := "config", metavar := some "FILE",
    help := "Extra TOML config file, applied over pyproject.toml / sharpshape.toml." }

def groupForms : List (OptionForm GroupOption) := [
  { option := .quiet, long := "quiet", short := some 'q',
    help := "Suppress diagnostics except errors." },
  { option := .verbose, long := "verbose", short := some 'v',
    help := "Increase verbosity. Specify up to three times for more detail." },
  helpForm .help]

def renderForms : List (OptionForm RenderOption) := [
  { option := .output, long := "output", short := some 'o', metavar := some "FILE",
    help := "Write the generated source to this file instead of STDOUT." },
  { option := .namespaceName, long := "namespace", metavar := some "TEXT",
    help := "C# namespace of the generated code." },
  { option := .indentWidth, long := "indent-width", metavar := some "INTEGER RANGE",
    help := "Spaces per indentation level." },
  { option := .lineEnd, long := "newline", metavar := some "[lf|crlf]",
    help := "Line terminator of the generated source." },
  { option := .header, long := "header",
    help := "Emit the usage comment at the top of the output." },
  { option := .noHeader, long := "no-header",
    help := "Omit the usage comment at the top of the output." },
  configForm .config,
  helpForm .help]

def configForms : List (OptionForm ConfigOption) := [configForm .config, helpForm .help]

def versionForms : List (OptionForm VersionOption) := [
  { option := .json, long := "json", help := "Print the version as a JSON object." },
  helpForm .help]

/-- What is explained: a command, or all of them. -/
abbrev Topic := Option Subcommand

def usageLine : Topic → String
  | none => "Usage: cli [OPTIONS] [COMMAND] [ARGS]..."
  | some .render => "Usage: cli render [OPTIONS] IR_FILE"
  | some .config => "Usage: cli config [OPTIONS]"
  | some .version => "Usage: cli version [OPTIONS]"

def padded (width : Nat) (text : String) : String :=
  text ++ String.ofList (List.replicate (width - text.length) ' ')

/-- Two columns, the second one aligned. -/
def table (rows : List (String × String)) : List String :=
  let width := rows.foldl (fun w row => max w row.1.length) 0
  rows.map fun row => "  " ++ padded width row.1 ++ "  " ++ row.2

def OptionForm.spelling {α : Type} (f : OptionForm α) : String :=
  (match f.short with
    | some c => String.ofList ['-', c] ++ ", "
    | none => "") ++
  "--" ++ f.long ++
  match f.metavar with
  | some name => " " ++ name
  | none => ""

def optionTable {α : Type} (forms : List (OptionForm α)) : List String :=
  "Options:" :: table (forms.map fun f => (f.spelling, f.help))

def explanation : Topic → List String
  | none =>
    ["  SharpShape CLI: render C# types and JSON converters from IR documents.", ""] ++
      optionTable groupForms ++ ["", "Commands:"] ++
      table (Subcommand.all.map fun c => (c.name, c.summary))
  | some .render => ["  " ++ Subcommand.render.summary, ""] ++ optionTable renderForms
  | some .config => ["  " ++ Subcommand.config.summary, ""] ++ optionTable configForms
  | some .version => ["  " ++ Subcommand.version.summary, ""] ++ optionTable versionForms

def helpPage (topic : Topic) : String :=
  "\n".intercalate (usageLine topic :: "" :: explanation topic)

end Shapewright.Command
