import QueryTree.CommandLine.Arguments

/-!
# Help
-/
namespace QueryTree

def versionText : String := "sqlnode 0.1.0\n"

def lines (ls : List String) : String := String.join (ls.map (· ++ "\n"))

/-- What is said about a topic. The help on compiling shows the environment
variable that can give the schema, with its value. -/
def Topic.helpText (schema : Option String) : Topic → String
  | .program => lines
    ["Compile SQL operation-node trees",
     "",
     "Usage: sqlnode [OPTIONS] <COMMAND>",
     "",
     "Commands:",
     "  compile  Compile a JSON operation-node tree",
     "  raw      Wrap literal SQL in a compiled query",
     "  kinds    List node kinds",
     "  help     Print this message or the help of the given subcommand(s)",
     "",
     "Options:",
     "  -v, --verbose  Verbose output",
     "  -h, --help     Print help",
     "  -V, --version  Print version",
     "",
     "EXAMPLES:",
     "    sqlnode compile query.json --schema app",
     "    sqlnode compile - --dialect sqlite --format json < query.json",
     "    sqlnode raw 'select now()'"]
  | .compile => lines
    ["Compile a JSON operation-node tree",
     "",
     "Usage: sqlnode compile [OPTIONS] <FILE>",
     "",
     "Arguments:",
     "  <FILE>  Path to the JSON tree, or `-` for stdin",
     "",
     "Options:",
     "  -s, --schema <SCHEMA>    Qualify unqualified tables with this schema [env: SQLNODE_SCHEMA=" ++
       schema.getD "" ++ "]",
     "  -v, --verbose            Verbose output",
     "  -d, --dialect <DIALECT>  SQL dialect (postgres, sqlite)",
     "  -f, --format <FORMAT>    Output format [default: text] [possible values: text, json]",
     "  -h, --help               Print help"]
  | .raw => lines
    ["Wrap literal SQL in a compiled query",
     "",
     "Usage: sqlnode raw [OPTIONS] <SQL>",
     "",
     "Arguments:",
     "  <SQL>  ",
     "",
     "Options:",
     "  -f, --format <FORMAT>  [default: text] [possible values: text, json]",
     "  -v, --verbose          Verbose output",
     "  -h, --help             Print help"]
  | .kinds => lines
    ["List node kinds",
     "",
     "Usage: sqlnode kinds [OPTIONS]",
     "",
     "Options:",
     "  -v, --verbose  Verbose output",
     "  -h, --help     Print help"]
  | .help => lines
    ["Print this message or the help of the given subcommand(s)",
     "",
     "Usage: sqlnode help [COMMAND]...",
     "",
     "Arguments:",
     "  [COMMAND]...  Print help for the subcommand(s)"]

end QueryTree
