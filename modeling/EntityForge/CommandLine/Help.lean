import EntityForge.Text.Basic

/-!
# Help

What the program says about its own use.
-/

namespace EntityForge.CommandLine

/-- The name under which the program speaks. -/
def programName : Text := "entitygen"

/-- The version of the program. -/
def versionText : Text := programName ++ " v0.1.0"

/-- The flags at a glance. -/
def usage : Text :=
  Text.intercalate "\n"
    [ "usage: entitygen [-h] [--version] -m PATH [-o DIR] [--validate-only]",
      "                 [--dry-run] [--document] [--nullable]",
      "                 [--file-scoped-namespace] [--indent-size N] [--strict]",
      "                 [--fail-on-warnings] [-v] [-q]" ]

/-- The flags one by one. -/
def help : Text :=
  usage ++ String.intercalate "\n"
    [ "",
      "",
      "entitygen — C# entity class generator.",
      "",
      "Turns an entity model (JSON/YAML) into JsonApiDotNetCore resource classes, " ++
        "one file per entity.",
      "",
      "options:",
      "  -h, --help            show this help message and exit",
      "  --version             show program's version number and exit",
      "  -m PATH, --model PATH",
      "                        Path to the entity model file (JSON or YAML).",
      "  -o DIR, --output DIR  Output directory for the generated classes. Required",
      "                        unless --validate-only or --dry-run is set.",
      "",
      "operation modes:",
      "  --validate-only       Only validate the model without generating code.",
      "  --dry-run             Generate and print the code to stdout; write nothing.",
      "",
      "generator options:",
      "  --document            Emit XML documentation comments.",
      "  --nullable            Target project uses nullable reference types.",
      "  --file-scoped-namespace",
      "                        Use 'namespace X;' instead of a braced namespace",
      "                        block.",
      "  --indent-size N       Spaces per indentation level (default 4).",
      "",
      "behaviour flags:",
      "  --strict              Abort the whole run if any entity fails validation.",
      "  --fail-on-warnings    Treat validation warnings as errors.",
      "",
      "verbosity:",
      "  -v, --verbose         Increase verbosity (-v for INFO, -vv for DEBUG).",
      "  -q, --quiet           Suppress all output except errors.",
      "",
      "Examples:",
      "  entitygen -m model.yaml -o ./Data/Entities",
      "  entitygen -m model.json -o ./out --nullable --document",
      "  entitygen -m model.yaml --validate-only" ]

end EntityForge.CommandLine
