/-! # Help texts

  What the program says of itself when it is asked for help or for its version.
-/

namespace DocSync.Command

inductive Topic where
  | program
  | serve
  | help
  deriving DecidableEq, Repr

namespace Topic

def programText : String :=
  "The main CLI structure that defines the command-line interface\n\n" ++
  "Usage: gls [OPTIONS] <COMMAND>\n\n" ++
  "Commands:\n" ++
  "  serve  Start the language server on stdio\n" ++
  "  help   Print this message or the help of the given subcommand(s)\n\n" ++
  "Options:\n" ++
  "  -q, --quiet       Only log errors\n" ++
  "  -v, --verbose...  Use verbose output\n" ++
  "  -h, --help        Print help\n" ++
  "  -V, --version     Print version\n"

def serveText : String :=
  "Start the language server on stdio\n\n" ++
  "Usage: gls serve [OPTIONS]\n\n" ++
  "Options:\n" ++
  "      --log-level <LOG_LEVEL>        Log level for the server log, overriding configuration" ++
  " [possible values: debug, info, warning, error]\n" ++
  "      --project-root <PROJECT_ROOT>  Project root used to find configuration and the logs" ++
  " directory. Defaults to the current directory\n" ++
  "  -q, --quiet                        Only log errors\n" ++
  "  -v, --verbose...                   Use verbose output\n" ++
  "  -h, --help                         Print help\n"

def helpText : String :=
  "Print this message or the help of the given subcommand(s)\n\n" ++
  "Usage: gls help [COMMAND]...\n\n" ++
  "Arguments:\n" ++
  "  [COMMAND]...  Print help for the subcommand(s)\n"

def text : Topic → String
  | .program => programText
  | .serve => serveText
  | .help => helpText

end Topic

def versionText : String := "gls 0.1.0\n"

end DocSync.Command
