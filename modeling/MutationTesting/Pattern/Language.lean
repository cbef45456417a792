import MutationTesting.Pattern.Reader
import MutationTesting.Discovery.PathFilter

/-!
# The language of path patterns

The patterns of path filters are those of this library; a pattern matches a path if it matches
somewhere in it.
-/

namespace MutationTesting.Pattern

/-- Patterns as the language of path filters. -/
def language : PatternLanguage Pattern :=
  { compile? := ofText?
    isMatch := isMatch }

end MutationTesting.Pattern
