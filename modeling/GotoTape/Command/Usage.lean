/-!
# The help text

What the command prints on `--help` and after a usage fault: how to call it, its options, the
language in brief and where settings come from.
-/

namespace GotoTape
namespace Command

/-- The help text for the command named `program`, ending in a blank line. -/
def usageText (program : String) : String :=
  let p := program
  String.intercalate "\n" [
    "Usage:",
    s!"  {p} [OPTIONS] <token> [<token> ...]   # Run the program formed by joining tokens with spaces",
    s!"  {p} [OPTIONS] -f <PATH>               # Run the program loaded from PATH",
    s!"  {p} [OPTIONS] -i [--bare|--editor]    # Interactive mode",
    "",
    "Options:",
    "  --file, -f <PATH>      Read the program from PATH instead of positional tokens",
    "  --interactive, -i      Start interactive mode (editor on a TTY, otherwise read stdin once)",
    "  --bare                 With -i: force non-interactive bare mode",
    "  --editor               With -i: force the line editor (errors if stdin is not a TTY)",
    "  --input <TEXT>         Stage TEXT as the program's input bytes",
    "  --input-file <PATH>    Stage the contents of PATH as input bytes",
    "  --max-steps <N>        Abort after N instructions (fallback GBF_MAX_STEPS; default unlimited)",
    "  --eof <zero|unchanged> What ',' does once input is exhausted (default zero)",
    "  --debug, -d            Print a step-by-step table of the run",
    "  --help, -h             Show this help",
    "",
    "Language:",
    "  > <      move the tape pointer (errors at either end of the tape)",
    "  + -      increment / decrement the current cell (wrapping)",
    "  . ,      emit the current cell / read the next input byte",
    "  [ ]      loop while the current cell is non-zero",
    "  ^x       define label x (any single character)",
    "  vx       jump to label x",
    "  # ... #  comment",
    "  Any other character is ignored.",
    "",
    "Configuration:",
    "  $XDG_CONFIG_HOME/gbf.toml (or the file named by GBF_CONFIG) may set",
    "  [interpreter] tape_cells, buffer_capacity, label_capacity, program_capacity,",
    "  max_steps, eof and [colors] for the interactive highlighter.",
    "  Set RUST_LOG=debug for diagnostic logging on stderr.",
    "", ""]

end Command
end GotoTape
