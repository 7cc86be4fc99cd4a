import LivePreview.Text.Range
/-!
# LivePreview.Text.Blank

**Blank** characters are those with the Unicode property White_Space; the no-break space and
the ideographic space are blank, the byte order mark and the zero width space are not.
Trimming, splitting into words and collapsing runs of blanks all use this one class.
-/

namespace LivePreview.Text

/-- The code points with the property White_Space. -/
def blankRanges : Ranges :=
  [(0x9, 0xD), (0x20, 0x20), (0x85, 0x85), (0xA0, 0xA0), (0x1680, 0x1680), (0x2000, 0x200A),
   (0x2028, 0x2029), (0x202F, 0x202F), (0x205F, 0x205F), (0x3000, 0x3000)]

/-- Is `c` a blank? -/
def isBlank (c : Char) : Bool :=
  blankRanges.has c.toNat

/-- Is `c` a blank of ASCII: space, tab, line feed, form feed or carriage return? -/
def isAsciiBlank (c : Char) : Bool :=
  c == ' ' || c == '\t' || c == '\n' || c == '\x0c' || c == '\r'

/-- Is `c` a space or a tab? -/
def isSpaceOrTab (c : Char) : Bool :=
  c == ' ' || c == '\t'

/-! ### Trimming -/

/-- The text without the characters of a class at its end. -/
def dropEndWhile (p : Char → Bool) (text : List Char) : List Char :=
  (text.reverse.dropWhile p).reverse

/-- The text without the characters of a class at either end. -/
def stripWhile (p : Char → Bool) (text : List Char) : List Char :=
  dropEndWhile p (text.dropWhile p)

/-- The text without leading blanks. -/
def trimStart (text : List Char) : List Char :=
  text.dropWhile isBlank

/-- The text without trailing blanks. -/
def trimEnd (text : List Char) : List Char :=
  dropEndWhile isBlank text

/-- The text without blanks at either end. -/
def trim (text : List Char) : List Char :=
  trimEnd (trimStart text)

/-- Is every character of the text blank? -/
def allBlank (text : List Char) : Bool :=
  text.all isBlank

/-! ### Words and runs -/

/-- Every run of blanks becomes one space. -/
def collapseBlanks : List Char → List Char
  | [] => []
  | c :: rest =>
    if isBlank c then
      match rest with
      | [] => [' ']
      | d :: _ => if isBlank d then collapseBlanks rest else ' ' :: collapseBlanks rest
    else c :: collapseBlanks rest

/-- The maximal runs without blanks, in order. -/
def words (text : List Char) : List (List Char) :=
  go text []
where
  /-- Collects the current word backwards in `word`. -/
  go : List Char → List Char → List (List Char)
    | [], [] => []
    | [], word => [word.reverse]
    | c :: rest, word =>
      if isBlank c then
        match word with
        | [] => go rest []
        | _ :: _ => word.reverse :: go rest []
      else go rest (c :: word)

/-! ### Lemmas -/

/-- Cutting the end leaves a beginning of the text. -/
theorem dropEndWhile_append (p : Char → Bool) (text : List Char) :
    dropEndWhile p text ++ (text.reverse.takeWhile p).reverse = text := by
  rw [dropEndWhile, ← List.reverse_append, List.takeWhile_append_dropWhile, List.reverse_reverse]

/-- A text without blanks stays as it is. -/
theorem collapseBlanks_of_all {text : List Char} (h : ∀ c ∈ text, isBlank c = false) :
    collapseBlanks text = text := by
  induction text with
  | nil => rfl
  | cons c rest ih =>
    have hc : isBlank c = false := h c (by simp)
    have hr : ∀ d ∈ rest, isBlank d = false := fun d hd => h d (by simp [hd])
    simp [collapseBlanks, hc, ih hr]

end LivePreview.Text
