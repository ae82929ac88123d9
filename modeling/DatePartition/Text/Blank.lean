/-!
# Blank characters

The blank characters are those with the Unicode property `White_Space`: eleven code points and
ranges, listed in `isBlank`. The information separators U+001C to U+001F, the Mongolian vowel
separator, the zero width space and the byte order mark are not among them.

- `isBlank c`: the property itself.
- `trim cs`: the text between the first and the last character that is not blank.
-/

namespace DatePartition.Text

/-- The characters with the Unicode property `White_Space`. -/
def isBlank (c : Char) : Bool :=
  let n := c.toNat
  (0x09 ≤ n && n ≤ 0x0D) || n == 0x20 || n == 0x85 || n == 0xA0 || n == 0x1680
    || (0x2000 ≤ n && n ≤ 0x200A) || n == 0x2028 || n == 0x2029 || n == 0x202F
    || n == 0x205F || n == 0x3000

/-- The text without the blank characters at its start. -/
def trimStart (cs : List Char) : List Char := cs.dropWhile isBlank

/-- The text without the blank characters at its end. -/
def trimEnd (cs : List Char) : List Char := (trimStart cs.reverse).reverse

/-- The text without the blank characters at both ends. -/
def trim (cs : List Char) : List Char := trimEnd (trimStart cs)

/-- A text whose first character is no blank loses nothing at its start. -/
theorem trimStart_cons {c : Char} (cs : List Char) (h : isBlank c = false) :
    trimStart (c :: cs) = c :: cs := by
  simp [trimStart, h]

/-- A text that holds no blank at all is its own trimmed form. -/
theorem trim_eq_self {cs : List Char} (h : ∀ c ∈ cs, isBlank c = false) : trim cs = cs := by
  have start : ∀ ds : List Char, (∀ c ∈ ds, isBlank c = false) → trimStart ds = ds := by
    intro ds hd
    cases ds with
    | nil => rfl
    | cons c ds => exact trimStart_cons ds (hd c (by simp))
  rw [trim, trimEnd, start cs h, start cs.reverse (by simpa using h), List.reverse_reverse]

end DatePartition.Text
