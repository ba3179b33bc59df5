import Stencil.CommandLine.Request

/-!
# Help

What the program tells about itself and about a command line that it cannot read.
-/
namespace Stencil.CommandLine

def versionText : String := "tag-filters 0.1.0\n"

def columns (entries : List (String × String)) : String :=
  let width := (entries.map (·.1.length)).foldl max 0
  String.join (entries.map fun (left, right) =>
    "  " ++ left ++ String.ofList (List.replicate (width + 2 - left.length) ' ') ++ right ++ "\n")

def Verb.summary : Verb → String
  | render => "Expand every tag in a template"
  | parse => "Show how a tag reference is parsed"
  | filter => "Apply a filter chain to a literal input"
  | filters => "List the stock filter names"
  | help => "Print this message or the help of the given subcommand(s)"

namespace Switch

def valueName : Switch → String
  | set => "KEY=VALUE"
  | includes => "NAME=PATH"
  | s => String.ofList (s.long.toList.map Char.toUpper)

def summary : Switch → String
  | config => "Engine configuration file (TOML) [env: " ++ Request.configVariable ++ "]"
  | verbose => "Increase log verbosity (-v info, -vv debug, -vvv trace)"
  | help => "Print help"
  | version => "Print version"
  | template => "Template text"
  | file => "Read the template from a file"
  | data => "JSON or JSON5 file with the values tags resolve against"
  | set => "Set a value, key=value; dotted keys nest"
  | includes => "Named template for include tags, name=path"
  | chain => "Filter chain, e.g. \"trim|upper\""
  | input => "Input value; omitted means null"

def shape (s : Switch) : String :=
  (match s.short? with
    | some c => "-" ++ String.singleton c ++ ", "
    | none => "    ")
    ++ "--" ++ s.long
    ++ (if s.valueKind? = none then "" else " <" ++ s.valueName ++ ">")

end Switch

def usageOf : Option Verb → String
  | none => "tagfilter [OPTIONS] <COMMAND>"
  | some .render => "tagfilter render [OPTIONS]"
  | some .parse => "tagfilter parse [OPTIONS] <TAG>"
  | some .filter => "tagfilter filter [OPTIONS] --chain <CHAIN>"
  | some .filters => "tagfilter filters [OPTIONS]"
  | some .help => "tagfilter help [COMMAND]"

def helpText (topic : Option Verb) : String :=
  let heading := match topic with
    | none => "Render text templates and try out tag filter chains"
    | some verb => verb.summary
  let verbs := match topic with
    | none => "\nCommands:\n" ++ columns (Verb.all.map fun v => (v.name, v.summary))
    | some _ => ""
  let switches := match switchesOf topic with
    | [] => ""
    | ss => "\nOptions:\n" ++ columns (ss.map fun s => (s.shape, s.summary))
  heading ++ "\n\nUsage: " ++ usageOf topic ++ "\n" ++ verbs ++ switches

def UsageFault.message : UsageFault → String
  | unknownWord word => "unexpected argument '" ++ word ++ "' found"
  | unknownVerb word => "unrecognized subcommand '" ++ word ++ "'"
  | valueMissing s => "a value is required for '" ++ s.shape ++ "' but none was supplied"
  | valueUnexpected s => "unexpected value for '--" ++ s.long ++ "' found; no more were expected"
  | emptyPath s => "a value is required for '" ++ s.shape ++ "' but none was supplied"
  | repeated s => "the argument '" ++ s.shape ++ "' cannot be used multiple times"
  | verbMissing => "a subcommand is required"
  | switchMissing s => "the following required arguments were not provided:\n  " ++ s.shape
  | operandMissing => "the following required arguments were not provided:\n  <TAG>"
  | conflict s t => "the argument '" ++ s.shape ++ "' cannot be used with '" ++ t.shape ++ "'"

end Stencil.CommandLine
