import Conform.Languages
import Conform.Pattern.Reader
import Conform.Pattern.Search
import Conform.Yaml.Json

/-! The languages of the command line. -/

namespace Conform

/-- The patterns that the pattern reader reads. -/
def Pattern.language : PatternLanguage where
  accepts written := (read? written).isSome
  occurs written text := (read? written).any fun pattern => pattern.occursIn text

/-- The patterns and the YAML of this library. -/
def Languages.standard : Languages where
  patterns := Pattern.language
  yaml? := Yaml.readJson?

end Conform
