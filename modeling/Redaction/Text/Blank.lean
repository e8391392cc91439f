/-
  Blank characters: space, tab, line ends, the separators of records, and the spaces of other
  scripts. `CodePoint.isBlank` is the class.
-/
import Redaction.Text.Ranges

namespace Redaction

namespace Ranges

/-- The blank characters of Unicode 14. -/
def blank : Ranges :=
   [(0x9, 0xD), (0x1C, 0x20), (0x85, 0x85), (0xA0, 0xA0), (0x1680, 0x1680), (0x2000, 0x200A),
    (0x2028, 0x2029), (0x202F, 0x202F), (0x205F, 0x205F), (0x3000, 0x3000)]

end Ranges

namespace CodePoint

/-- White space in any script, with the four separators of records. -/
def isBlank (c : CodePoint) : Bool := Ranges.blank.contains c.val

end CodePoint

end Redaction
