import HtmlTemplate.Command.Arguments

/-!
# Explanations

What the program says about itself and about the words it understands.
-/

namespace HtmlTemplate.Command

/-- The name and the version of the program. -/
def versionLine : String := "htm 0.1.0"

/-- How the words of a command line are put together at a place. -/
def Level.usage : Level → String
  | .program => "Usage: htm [OPTIONS] <COMMAND>"
  | .render => "Usage: htm render [OPTIONS] <FILE>"
  | .test => "Usage: htm test [OPTIONS] <PATH>"
  | .help => "Usage: htm help [COMMAND]"

/-- The lines that explain what stands at a place. -/
def Level.explanation : Level → List String
  | .program =>
    ["Render HTML templates with interpolations",
      "",
      Level.usage .program,
      "",
      "Commands:",
      "  render  Render a template file to HTML",
      "  test    Run .test.md fixtures",
      "  help    Print this message or the help of the given subcommand(s)",
      "",
      "Options:",
      "      --no-color  Disable colored output",
      "  -v, --verbose   Log builder and resolver activity",
      "  -h, --help      Print help",
      "  -V, --version   Print version"]
  | .render =>
    ["Render a template file to HTML",
      "",
      Level.usage .render,
      "",
      "Arguments:",
      "  <FILE>  Template file using `\x7bname\x7d` interpolations",
      "",
      "Options:",
      "  -c, --context <CONTEXT>  TOML file providing template variables",
      "      --no-color           Disable colored output",
      "  -s, --set <KEY=VALUE>    Set a variable, e.g. `--set name=World`. Repeatable",
      "  -v, --verbose            Log builder and resolver activity",
      "      --check              Build the tree only, don't resolve (exit 0 if valid)",
      "      --ast                Dump the unresolved tree",
      "      --dom                Dump the resolved node instead of HTML",
      "      --call-site-wins     Let call-site attributes override those of a substituted " ++
        "component",
      "  -h, --help               Print help"]
  | .test =>
    ["Run .test.md fixtures",
      "",
      Level.usage .test,
      "",
      "Arguments:",
      "  <PATH>  Path to a .test.md file or a directory containing them",
      "",
      "Options:",
      "  -c, --category <CATEGORY>  Run only these categories (subfolder names). Repeatable",
      "      --no-color             Disable colored output",
      "      --list-categories      List available categories and exit",
      "  -v, --verbose              Log builder and resolver activity",
      "  -h, --help                 Print help"]
  | .help =>
    ["Print this message or the help of the given subcommand(s)",
      "",
      Level.usage .help,
      "",
      "Commands:",
      "  render  Render a template file to HTML",
      "  test    Run .test.md fixtures",
      "  help    Print this message or the help of the given subcommand(s)"]

end HtmlTemplate.Command
