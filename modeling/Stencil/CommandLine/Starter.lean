/-! The configuration document that a project starts with. -/
namespace Stencil
namespace CommandLine

def starterName : String := "etch.config.yml"

def starterLines : List String := [
  "# etch configuration",
  "# Files named like `README.etch.md` render to `README.md` with this context.",
  "",
  "context:",
  "  # Static values are used as-is.",
  "  project: my-project",
  "  # Read from an environment variable, falling back to a default.",
  "  # user:",
  "  #   type: env",
  "  #   value: USER",
  "  #   default: someone",
  "  # Capture the trimmed output of a shell command.",
  "  # commit:",
  "  #   type: shell",
  "  #   value: git rev-parse --short HEAD",
  "  # Convert the value with `as`: str, int, float, bool or json.",
  "  # debug:",
  "  #   type: env",
  "  #   value: DEBUG",
  "  #   default: \"false\"",
  "  #   as: bool",
  "",
  "# Gitignore-style patterns skipped while walking the tree.",
  "exclude:",
  "  - .git/",
  "  - target/",
  "  - node_modules/",
  "",
  "# Ignore files whose patterns are also applied, relative to the root.",
  "# ignore_files:",
  "#   - .gitignore",
  "",
  "# engine:",
  "#   kind: jinja",
  "#   keep_trailing_newline: true",
  "",
  "# template_matcher: etch",
  "# child_flag: \"!etch:child\"",
  "",
  "# Shell commands run once before the context is resolved.",
  "# setup:",
  "#   - ./scripts/prepare.sh",
  ""]

def starter : String := String.intercalate "\n" starterLines

end CommandLine
end Stencil
