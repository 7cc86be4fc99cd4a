/-!
# LivePreview.Text.Join

Texts that are written down line by line.
-/

namespace LivePreview.Text

/-- The lines with a line feed between them. -/
def joinLines (lines : List String) : String :=
  "\n".intercalate lines

end LivePreview.Text
