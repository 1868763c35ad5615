import Mathlib.Data.List.Basic

/-!
# Texts with quoted literals

A literal runs from a single quote to the next quote that is not followed by another one; two
quotes in a row inside a literal are an escaped quote. The scanner reads a text character by
character. A text can stand between quotes, whatever follows the second one, exactly if all
its quotes are doubled.
-/

namespace Quoting

/-- The single quote. -/
def quote : Char := Char.ofNat 39

/-- What a text is made of. -/
inductive Token where
  /-- A character outside of literals. -/
  | char (char : Char)
  /-- A literal, with the characters between its quotes as they are written. -/
  | literal (content : List Char)
  /-- A literal whose end is missing. -/
  | unclosed (content : List Char)
  deriving DecidableEq

/-- Where the scanner is. -/
inductive Mode where
  /-- Outside of literals. -/
  | outside
  /-- In a literal that started with these characters. -/
  | inside (content : List Char)
  /-- After a quote that ends this literal, unless another quote follows. -/
  | pending (content : List Char)
  deriving DecidableEq

/-- What a character completes, and where the scanner is after it. -/
def next (mode : Mode) (char : Char) : List Token × Mode :=
  match mode with
  | .outside => if char = quote then ([], .inside []) else ([.char char], .outside)
  | .inside content =>
    if char = quote then ([], .pending content) else ([], .inside (content ++ [char]))
  | .pending content =>
    if char = quote then ([], .inside (content ++ [quote, quote]))
    else ([.literal content, .char char], .outside)

/-- The tokens that a text completes, and where the scanner is after it. -/
def scan (mode : Mode) : List Char → List Token × Mode
  | [] => ([], mode)
  | char :: text =>
    let (first, mode) := next mode char
    let (rest, mode) := scan mode text
    (first ++ rest, mode)

/-- What is left at the end of a text. -/
def finish : Mode → List Token
  | .outside => []
  | .inside content => [.unclosed content]
  | .pending content => [.literal content]

/-- The tokens of a text, from where the scanner is. -/
def lexFrom (mode : Mode) (text : List Char) : List Token :=
  (scan mode text).1 ++ finish (scan mode text).2

/-- The tokens of a text. -/
def lex (text : List Char) : List Token := lexFrom .outside text

/-- A token without the content of its literal. -/
def Token.shape : Token → Token
  | .char value => .char value
  | .literal _ => .literal []
  | .unclosed _ => .unclosed []

/-- Every quote of the text is doubled. -/
def doubled : List Char → Bool
  | [] => true
  | [char] => char != quote
  | char :: following :: text =>
    if char = quote then following == quote && doubled text else doubled (following :: text)

@[simp]
theorem scan_nil (mode : Mode) : scan mode [] = ([], mode) := rfl

theorem scan_cons (mode : Mode) (char : Char) (text : List Char) :
    scan mode (char :: text) =
      ((next mode char).1 ++ (scan (next mode char).2 text).1,
        (scan (next mode char).2 text).2) := rfl

/-- A text without quotes has every quote doubled. -/
theorem doubled_of_plain {text : List Char} (unquoted : quote ∉ text) : doubled text = true := by
  induction text using doubled.induct with
  | case1 => rfl
  | case2 char =>
    have other : char ≠ quote := fun same => unquoted (same ▸ List.mem_cons_self)
    simpa [doubled] using other
  | case3 following text ih => exact absurd List.mem_cons_self unquoted
  | case4 char following text other ih =>
    rw [doubled, if_neg other]
    exact ih fun later => unquoted (List.mem_cons_of_mem _ later)

/-- Two texts in a row are scanned one after the other. -/
theorem scan_append (mode : Mode) (left right : List Char) :
    scan mode (left ++ right) =
      ((scan mode left).1 ++ (scan (scan mode left).2 right).1,
        (scan (scan mode left).2 right).2) := by
  induction left generalizing mode with
  | nil => rfl
  | cons char left ih => simp only [List.cons_append, scan_cons, ih, List.append_assoc]

/-- Outside of literals, a text without quotes stays there. -/
theorem scan_outside {text : List Char} (plain : quote ∉ text) :
    scan .outside text = (text.map .char, .outside) := by
  induction text with
  | nil => rfl
  | cons char text ih =>
    have other : char ≠ quote := fun same => plain (same ▸ List.mem_cons_self)
    have rest := ih fun later => plain (List.mem_cons_of_mem _ later)
    rw [scan_cons, next, if_neg other, rest]
    rfl

/-- A quote in a literal ends it if no quote follows. -/
theorem scan_closing (content : List Char) {char : Char} (other : char ≠ quote)
    (text : List Char) :
    scan (.inside content) (quote :: char :: text) =
      (.literal content :: .char char :: (scan .outside text).1, (scan .outside text).2) := by
  rw [scan_cons, next, if_pos rfl, scan_cons, next, if_neg other]
  rfl

/-- In a literal, a text whose quotes are doubled stays there. -/
theorem scan_inside (content : List Char) {text : List Char} (paired : doubled text = true) :
    scan (.inside content) text = ([], .inside (content ++ text)) := by
  induction text using doubled.induct generalizing content with
  | case1 => simp
  | case2 char =>
    have other : char ≠ quote := by simpa [doubled] using paired
    rw [scan_cons, next, if_neg other]
    rfl
  | case3 following text ih =>
    rw [doubled, if_pos rfl, Bool.and_eq_true, beq_iff_eq] at paired
    rw [scan_cons, next, if_pos rfl, scan_cons, next, paired.1, if_pos rfl, ih _ paired.2]
    simp
  | case4 char following text other ih =>
    rw [doubled, if_neg other] at paired
    rw [scan_cons, next, if_neg other, ih _ paired]
    simp

/-- A text that completes nothing in a literal, and leaves the scanner in it, has all its quotes
doubled. -/
theorem doubled_of_scan {content result text : List Char}
    (scanned : scan (.inside content) text = ([], .inside result)) : doubled text = true := by
  induction text using doubled.induct generalizing content with
  | case1 => rfl
  | case2 char =>
    by_cases same : char = quote
    · rw [scan_cons, next, if_pos same] at scanned
      cases scanned
    · simpa [doubled] using same
  | case3 following text ih =>
    by_cases same : following = quote
    · subst same
      rw [scan_cons, next, if_pos rfl, scan_cons, next, if_pos rfl] at scanned
      have rest := ih scanned
      simp [doubled, rest]
    · rw [scan_closing content same] at scanned
      cases scanned
  | case4 char following text other ih =>
    rw [scan_cons, next, if_neg other] at scanned
    have rest := ih scanned
    rw [doubled, if_neg other]
    exact rest

/-- Texts whose quotes are doubled make up one. -/
theorem doubled_append {left right : List Char} (first : doubled left = true)
    (second : doubled right = true) : doubled (left ++ right) = true := by
  have whole : scan (.inside []) (left ++ right) = ([], .inside (left ++ right)) := by
    rw [scan_append, scan_inside [] first, scan_inside _ second]
    rfl
  exact doubled_of_scan whole

/-- The quotes in the literal that the scanner is in are doubled. -/
def Mode.Paired : Mode → Prop
  | .outside => True
  | .inside content | .pending content => doubled content = true

/-- A literal has its quotes doubled, if the one that the scanner is in has. -/
theorem next_paired {mode : Mode} (paired : mode.Paired) (char : Char) :
    (∀ content, .literal content ∈ (next mode char).1 → doubled content = true) ∧
      (next mode char).2.Paired := by
  cases mode with
  | outside =>
    rw [next]
    split
    · exact ⟨by simp, rfl⟩
    · exact ⟨by simp, trivial⟩
  | inside content =>
    rw [next]
    split
    · exact ⟨by simp, paired⟩
    · rename_i other
      exact ⟨by simp, doubled_append paired (by simpa [doubled] using other)⟩
  | pending content =>
    rw [next]
    split
    · exact ⟨by simp, doubled_append paired rfl⟩
    · refine ⟨fun found member => ?_, trivial⟩
      have same : found = content := by simpa using member
      rw [same]
      exact paired

/-- Literals have their quotes doubled, if the one that the scanner is in has. -/
theorem scan_paired {mode : Mode} (paired : mode.Paired) (text : List Char) :
    (∀ content, .literal content ∈ (scan mode text).1 → doubled content = true) ∧
      (scan mode text).2.Paired := by
  induction text generalizing mode with
  | nil => exact ⟨by simp, paired⟩
  | cons char text ih =>
    have first := next_paired paired char
    have rest := ih first.2
    refine ⟨fun content member => ?_, rest.2⟩
    rcases List.mem_append.mp member with now | later
    · exact first.1 content now
    · exact rest.1 content later

/-- Every literal has its quotes doubled. -/
theorem doubled_of_literal {text content : List Char} (member : .literal content ∈ lex text) :
    doubled content = true := by
  have paired := @scan_paired .outside trivial text
  rcases List.mem_append.mp member with inside | last
  · exact paired.1 content inside
  · cases ended : (scan .outside text).2 with
    | outside =>
      rw [ended] at last
      cases last
    | inside rest =>
      rw [ended, finish] at last
      simp at last
    | pending rest =>
      have same : content = rest := by simpa [ended, finish] using last
      have whole := paired.2
      rw [ended] at whole
      rw [same]
      exact whole

/-- The tokens of two texts in a row. -/
theorem lexFrom_append (mode : Mode) (left right : List Char) :
    lexFrom mode (left ++ right) =
      (scan mode left).1 ++ lexFrom (scan mode left).2 right := by
  simp only [lexFrom, scan_append, List.append_assoc]

/-- A text without quotes stands for itself. -/
theorem lexFrom_plain {plain : List Char} (unquoted : quote ∉ plain) (rest : List Char) :
    lexFrom .outside (plain ++ rest) = plain.map .char ++ lexFrom .outside rest := by
  rw [lexFrom_append, scan_outside unquoted]

/-- A quote outside of literals starts one. -/
theorem lexFrom_opening (text : List Char) :
    lexFrom .outside (quote :: text) = lexFrom (.inside []) text := rfl

/-- A quote in a literal ends it if no quote follows. -/
theorem lexFrom_closing (content : List Char) {rest : List Char}
    (ends : rest.head? ≠ some quote) :
    lexFrom (.inside content) (quote :: rest) = .literal content :: lexFrom .outside rest := by
  cases rest with
  | nil => rfl
  | cons char rest =>
    have other : char ≠ quote := by simpa using ends
    rw [lexFrom, scan_closing content other, lexFrom, scan_cons, next, if_neg other]
    rfl

/-- A text whose quotes are doubled makes a literal between two quotes. -/
theorem lexFrom_literal {content rest : List Char} (paired : doubled content = true)
    (ends : rest.head? ≠ some quote) :
    lexFrom .outside (quote :: (content ++ quote :: rest)) =
      .literal content :: lexFrom .outside rest := by
  rw [lexFrom_opening, lexFrom_append, scan_inside [] paired]
  exact lexFrom_closing content ends

/-- Any text between two quotes either ends in the literal that the second quote closes, or the
second quote starts or continues a literal. -/
theorem lexFrom_hole (text : List Char) {rest : List Char} (ends : rest.head? ≠ some quote) :
    (∃ content, (scan (.inside []) text).2 = .inside content ∧
        lexFrom (.inside []) (text ++ quote :: rest) =
          (scan (.inside []) text).1 ++ .literal content :: lexFrom .outside rest) ∨
      ∃ content, lexFrom (.inside []) (text ++ quote :: rest) =
        (scan (.inside []) text).1 ++ lexFrom (.inside content) rest := by
  rw [lexFrom_append]
  cases ended : (scan (.inside []) text).2 with
  | inside content => exact .inl ⟨content, rfl, by rw [lexFrom_closing content ends]⟩
  | outside => exact .inr ⟨[], rfl⟩
  | pending content => exact .inr ⟨content ++ [quote, quote], rfl⟩

/-- A literal that is not closed by a text without quotes is the last token. -/
theorem lexFrom_unclosed (content : List Char) {plain : List Char} (unquoted : quote ∉ plain) :
    lexFrom (.inside content) plain = [.unclosed (content ++ plain)] := by
  induction plain generalizing content with
  | nil => simp [lexFrom, finish]
  | cons char plain ih =>
    have other : char ≠ quote := fun same => unquoted (same ▸ List.mem_cons_self)
    have rest := ih (content ++ [char]) fun later => unquoted (List.mem_cons_of_mem _ later)
    have first : lexFrom (.inside content) (char :: plain) =
        lexFrom (.inside (content ++ [char])) plain := by
      rw [lexFrom, scan_cons, next, if_neg other]
      rfl
    rw [first, rest, List.append_assoc]
    rfl

end Quoting
