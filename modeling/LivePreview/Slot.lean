import LivePreview.Json.Value
import LivePreview.Text.Utf8
import LivePreview.Text.Word
/-!
# LivePreview.Slot

Loaded modules wait in **slots** of the environment object until the component binds their
exports. The slot of a specifier spells it in letters, digits and underscores: ASCII letters and
digits stand for themselves, every other byte is an underscore and two hexadecimal digits. As the
underscore itself is spelled out, too, the specifier can be read back from its slot.
-/

namespace LivePreview

open Text

namespace Slot

/-- One byte of a specifier. -/
def spellByte (b : Nat) : List Char :=
  if (48 ≤ b && b ≤ 57) || (65 ≤ b && b ≤ 90) || (97 ≤ b && b ≤ 122) then [Char.ofNat b]
  else ['_', Json.hexDigit (b / 16), Json.hexDigit (b % 16)]

/-- The slot of a specifier. -/
def ofSpecifier (specifier : String) : String :=
  "__dep_" ++ String.ofList ((encode specifier.toList).flatMap spellByte)

end Slot

end LivePreview
