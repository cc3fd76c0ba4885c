/-! The braces around bodies and objects, as texts. -/

namespace SchemaBeans.Text

/-- The text `{`. -/
def openBrace : String := "\x7b"

/-- The text `}`. -/
def closeBrace : String := "\x7d"

end SchemaBeans.Text
