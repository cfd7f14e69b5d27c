import Conform.Json.Basic

/-! Languages that are read elsewhere: that of patterns, and YAML. -/

namespace Conform

/-- A language of patterns. -/
structure PatternLanguage where
  /-- Whether what is written is a pattern. -/
  accepts : String → Bool
  /-- Whether the pattern that is written occurs in a text. -/
  occurs : String → String → Bool

/-- The languages that files are written in besides JSON. -/
structure Languages where
  patterns : PatternLanguage
  /-- The document that a YAML text writes, if it writes one. -/
  yaml? : String → Option Json

end Conform
