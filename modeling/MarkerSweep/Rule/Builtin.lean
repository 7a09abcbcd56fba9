import MarkerSweep.Rule.Basic
/-!
# The built-in rules

Five rules remove markers together with the blanks before them; the last one collapses the runs of
blank lines that this leaves and must stay last. Every marker rule starts at the start of a line and
ends at the end of one. All but the rule for debugging statements take the line break after the marker
with them.
-/

set_option autoImplicit false

namespace MarkerSweep.RuleTable

def lineCommentMarker : Rule where
  name := "line_comment_marker"
  description := "Line comments starting with an MF_REPORT_<NAME> marker, through end of line."
  pattern := "^\\s*//\\s*MF_REPORT_[A-Z0-9_]+.*$\\n?"

def blockCommentMarker : Rule where
  name := "block_comment_marker"
  description := "Lines holding only a \x7b /* MF_REPORT_<NAME> ... */ \x7d expression comment."
  pattern := "^\\s*\\\x7b\\s*/\\*\\s*MF_REPORT_[A-Z0-9_]+.*?\\*/\\s*\\\x7d\\s*$\\n?"

def dunderMarker : Rule where
  name := "dunder_marker"
  description := "Lines holding only a // __MF_REPORT_<NAME>__ comment."
  pattern := "^\\s*//\\s*__MF_REPORT_[A-Z0-9_]+__\\s*$\\n?"

def debugWarnStatement : Rule where
  name := "debug_warn_statement"
  description := "console.warn(\"MF_REPORT_DEBUG: ...\"); statements. The line break is kept."
  pattern := "^\\s*console\\.warn\\(\\s*[\"']MF_REPORT_DEBUG:.*?;\\s*$"

def eslintNoConsole : Rule where
  name := "eslint_no_console"
  description := "Lines holding only an eslint-disable-next-line no-console directive."
  pattern := "^\\s*//\\s*eslint-disable-next-line\\s+no-console\\s*$\\n?"

def collapseBlankLines : Rule where
  name := "collapse_blank_lines"
  description := "Runs of three or more newlines collapse to a single blank line."
  pattern := "\\n\x7b3,\x7d"
  replaceWith := "\n\n"
  multiline := false

/-- The built-in table. -/
def builtin : RuleTable where
  rules := [lineCommentMarker, blockCommentMarker, dunderMarker, debugWarnStatement,
    eslintNoConsole, collapseBlankLines]

end MarkerSweep.RuleTable
