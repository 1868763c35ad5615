import Mathlib.Data.List.Infix

/-!
# File name patterns

Patterns in which a star stands for any characters and every other character for itself. A name
fits a pattern that starts with a star if one of its ends fits the rest; a part without stars in
the middle of a pattern is found inside of the name.
-/

namespace Glob

/-- The star. -/
def star : Char := '*'

/-- Whether a name fits a pattern. -/
def fits : List Char → List Char → Bool
  | [], name => name.isEmpty
  | char :: pattern, name =>
    if char = star then name.tails.any (fits pattern)
    else match name with
      | [] => false
      | first :: rest => first == char && fits pattern rest

variable {literal pattern name suffix : List Char}

end Glob
