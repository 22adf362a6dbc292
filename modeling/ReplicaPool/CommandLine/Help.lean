import ReplicaPool.CommandLine.Arguments

/-!
# Help

The texts that the program shows about itself.
-/

namespace ReplicaPool

def programName : String := "tntpool"

def programVersion : String := "0.1.0"

def programAbout : String := "A role-aware connection pool for master/replica clusters"

def linesText (lines : List String) : String :=
  String.join (lines.map (· ++ "\n"))

def Topic.text : Topic → String
  | .program => linesText
      [ programAbout
      , ""
      , "Usage: tntpool <COMMAND>"
      , ""
      , "Commands:"
      , "  simulate  Run the pool against an in-memory cluster with random failovers"
      , "  config    Generate example configuration files"
      , "  validate  Validate configuration file"
      , "  version   Show version information"
      , "  help      Print this message or the help of the given subcommand(s)"
      , ""
      , "Options:"
      , "  -h, --help     Print help"
      , "  -V, --version  Print version" ]
  | .simulate => linesText
      [ "Run the pool against an in-memory cluster with random failovers"
      , ""
      , "Usage: tntpool simulate [OPTIONS]"
      , ""
      , "Options:"
      , "  -c, --config <CONFIG>      Path to configuration file [default: config/dev.toml]"
      , "      --replicas <REPLICAS>  Number of replicas among the configured addresses"
      , "      --rounds <ROUNDS>      Number of failover rounds [default: 5]"
      , "  -h, --help                 Print help" ]
  | .config => linesText
      [ "Generate example configuration files"
      , ""
      , "Usage: tntpool config --profile <PROFILE> --output <OUTPUT>"
      , ""
      , "Options:"
      , "  -p, --profile <PROFILE>  Configuration profile (standalone or cluster)"
      , "  -o, --output <OUTPUT>    Output file path"
      , "  -h, --help               Print help" ]
  | .validate => linesText
      [ "Validate configuration file"
      , ""
      , "Usage: tntpool validate --config <CONFIG>"
      , ""
      , "Options:"
      , "  -c, --config <CONFIG>  Path to configuration file to validate"
      , "  -h, --help             Print help" ]
  | .version => linesText
      [ "Show version information"
      , ""
      , "Usage: tntpool version"
      , ""
      , "Options:"
      , "  -h, --help  Print help" ]
  | .help => linesText
      [ "Print this message or the help of the given subcommand(s)"
      , ""
      , "Usage: tntpool help [COMMAND]..."
      , ""
      , "Arguments:"
      , "  [COMMAND]...  Print help for the subcommand(s)" ]

def versionText (architecture : String) : String :=
  linesText
    [ programName ++ " v" ++ programVersion
    , programAbout
    , ""
    , "Built with Rust "
    , "Target: " ++ architecture
    , ""
    , "Features:"
    , "  • Request routing by mode: rw, prefer_rw, prefer_ro"
    , "  • Automatic master/replica re-classification"
    , "  • Reconnection and topology discovery in the background" ]

end ReplicaPool
