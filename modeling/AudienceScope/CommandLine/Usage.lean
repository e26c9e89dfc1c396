import AudienceScope.CommandLine.Arguments

/-!
What the program says about itself: its version, and how it is used.
-/

set_option autoImplicit false

namespace AudienceScope.CommandLine

def programName : String := "sdkscope"

def versionLine : String := programName ++ " 0.1.0"

namespace Usage

private def outputLine (width : String) : String :=
  "      --output <OUTPUT>" ++ width ++
    "Output format (text or json) [default: text] [possible values: text, json]"

private def quietLine (width : String) : String :=
  "      --quiet" ++ width ++ "Suppress non-essential output"

private def verboseLine (width : String) : String :=
  "  -v, --verbose" ++ width ++ "Emit debug logs to stderr"

private def helpLine (width : String) : String := "  -h, --help" ++ width ++ "Print help"

private def blanks (count : Nat) : String := String.ofList (List.replicate count ' ')

private def program : List String :=
  ["Compute which IR declarations an SDK must contain for a set of audiences",
    "",
    "Usage: sdkscope [OPTIONS] <COMMAND>",
    "",
    "Commands:",
    "  filter      Report the declarations retained for the requested audiences",
    "  prune       Write the IR restricted to the retained declarations",
    "  generators  List the known generator names",
    "  help        Print this message or the help of the given subcommand(s)",
    "",
    "Options:",
    outputLine (blanks 2),
    quietLine (blanks 12),
    verboseLine (blanks 10),
    helpLine (blanks 13),
    "  -V, --version" ++ blanks 10 ++ "Print version"]

private def audienceLine (width : String) : String :=
  "  -a, --audience <AUDIENCES>" ++ width ++
    "Audience to generate for (repeatable; none means all)"

private def configLine (width : String) : String :=
  "      --config <CONFIG>" ++ width ++ "Config file (defaults to ./sdkscope.toml when present)"

private def command : CommandName → List String
  | .filter =>
    ["Report the declarations retained for the requested audiences",
      "",
      "Usage: sdkscope filter [OPTIONS] <IR>",
      "",
      "Arguments:",
      "  <IR>  Path to the IR JSON file",
      "",
      "Options:",
      audienceLine (blanks 3),
      outputLine (blanks 8),
      configLine (blanks 8),
      quietLine (blanks 18),
      "      --generator <GENERATOR>" ++ blanks 2 ++ "Generator the run is for",
      verboseLine (blanks 16),
      helpLine (blanks 19)]
  | .prune =>
    ["Write the IR restricted to the retained declarations",
      "",
      "Usage: sdkscope prune [OPTIONS] <IR>",
      "",
      "Arguments:",
      "  <IR>  Path to the IR JSON file",
      "",
      "Options:",
      audienceLine (blanks 2),
      outputLine (blanks 7),
      configLine (blanks 7),
      quietLine (blanks 17),
      "      --out <OUT>" ++ blanks 13 ++ "Output file (stdout when absent)",
      verboseLine (blanks 15),
      helpLine (blanks 18)]
  | .generators =>
    ["List the known generator names",
      "",
      "Usage: sdkscope generators [OPTIONS]",
      "",
      "Options:",
      outputLine (blanks 2),
      quietLine (blanks 12),
      verboseLine (blanks 10),
      helpLine (blanks 13)]

def lines : Option CommandName → List String
  | none => program
  | some name => command name

def helpLines : List String :=
  ["Print this message or the help of the given subcommand(s)",
    "",
    "Usage: sdkscope help [COMMAND]...",
    "",
    "Arguments:",
    "  [COMMAND]...  Print help for the subcommand(s)"]

end Usage

end AudienceScope.CommandLine
