import Formulary.Text.CodePoint

namespace Formulary.CommandLine

def usage : List Text :=
  ["usage: texmath [-h] [--input INPUT] [--notation NOTATION] [--show-scope]",
   "               [--verbose]",
   "               [expressions ...]"]

def description : List Text :=
  ["",
   "Translate Python expressions into LaTeX math markup.",
   "",
   "positional arguments:",
   "  expressions          Python expressions to translate. Use '-' to read one",
   "                       expression per line from standard input.",
   "",
   "options:",
   "  -h, --help           show this help message and exit",
   "  --input INPUT        Read one expression per line from this file",
   "  --notation NOTATION  JSON file with extra symbols and functions layered over",
   "                       the defaults",
   "  --show-scope         Print the scope chain built for each expression",
   "  --verbose, -v        Enable debug logging"]

def help : List Text := usage ++ description

end Formulary.CommandLine
