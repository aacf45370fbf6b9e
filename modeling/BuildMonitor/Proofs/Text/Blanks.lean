import BuildMonitor.Text.Blank

/-!
# Trimming

Blanks around a text make no difference to what is left when it is trimmed, and what is taken away
is nothing but blanks: `trimBlanks_append`, `exists_blanks_append`. So a text without blanks in it
is what is left of another just if the other is the text with blanks around it:
`trimBlanks_eq_iff`.

Main definition: `AllBlank`.
-/

namespace BuildMonitor.Text

/-- White space and nothing else. -/
def AllBlank (characters : List Char) : Prop := ∀ character ∈ characters, isBlank character = true

instance (characters : List Char) : Decidable (AllBlank characters) :=
  List.decidableBAll (isBlank · = true) characters

/-- No white space anywhere. -/
def NoBlank (characters : List Char) : Prop := ∀ character ∈ characters, isBlank character = false

variable {before body after characters : List Char}

/-- White space is white space from either end. -/
theorem AllBlank.reverse (blank : AllBlank characters) : AllBlank characters.reverse :=
  fun character member => blank character (List.mem_reverse.mp member)

/-- What has no white space has none from either end. -/
theorem NoBlank.reverse (solid : NoBlank characters) : NoBlank characters.reverse :=
  fun character member => solid character (List.mem_reverse.mp member)

/-- Where there is no white space none is dropped. -/
theorem NoBlank.dropWhile_eq (solid : NoBlank characters) :
    characters.dropWhile isBlank = characters := by
  cases characters with
  | nil => rfl
  | cons first rest =>
    rw [List.dropWhile_cons, solid first List.mem_cons_self, if_neg (by decide)]

/-- The white space in front is white space. -/
theorem allBlank_takeWhile (characters : List Char) : AllBlank (characters.takeWhile isBlank) :=
  List.all_eq_true.mp List.all_takeWhile

/-! ## Trimming at one side -/

/-- White space in front is trimmed. -/
theorem trimBlanksLeft_append (blank : AllBlank before) (characters : List Char) :
    trimBlanksLeft (before ++ characters) = trimBlanksLeft characters :=
  List.dropWhile_append_of_pos blank

/-- White space behind is trimmed. -/
theorem trimBlanksRight_append (blank : AllBlank after) (characters : List Char) :
    trimBlanksRight (characters ++ after) = trimBlanksRight characters := by
  rw [trimBlanksRight, List.reverse_append, List.dropWhile_append_of_pos blank.reverse,
    trimBlanksRight]

/-! ## Trimming -/

/-- Blanks around a text make no difference. -/
theorem trimBlanks_append (blankBefore : AllBlank before) (blankAfter : AllBlank after)
    (characters : List Char) :
    trimBlanks (before ++ characters ++ after) = trimBlanks characters := by
  rw [List.append_assoc, trimBlanks, trimBlanksLeft_append blankBefore, trimBlanks, trimBlanksLeft,
    List.dropWhile_append]
  split
  · next nothing =>
    have left : trimBlanksLeft characters = [] := List.isEmpty_iff.mp nothing
    have right := trimBlanksLeft_append blankAfter []
    rw [List.append_nil] at right
    rw [left, show after.dropWhile isBlank = [] from right]
  · exact trimBlanksRight_append blankAfter _

/-- What is taken away is white space. -/
theorem exists_blanks_append (characters : List Char) :
    ∃ before after, AllBlank before ∧ AllBlank after ∧
      characters = before ++ trimBlanks characters ++ after := by
  refine ⟨characters.takeWhile isBlank,
    ((trimBlanksLeft characters).reverse.takeWhile isBlank).reverse, allBlank_takeWhile _,
    (allBlank_takeWhile _).reverse, ?_⟩
  have right : trimBlanks characters ++
      ((trimBlanksLeft characters).reverse.takeWhile isBlank).reverse =
        trimBlanksLeft characters := by
    rw [trimBlanks, trimBlanksRight, ← List.reverse_append, List.takeWhile_append_dropWhile,
      List.reverse_reverse]
  rw [List.append_assoc, right, trimBlanksLeft, List.takeWhile_append_dropWhile]

/-- Without blanks there is nothing to trim. -/
theorem trimBlanks_eq_self (solid : NoBlank characters) : trimBlanks characters = characters := by
  rw [trimBlanks, trimBlanksLeft, solid.dropWhile_eq, trimBlanksRight, solid.reverse.dropWhile_eq,
    List.reverse_reverse]

/-- A text without blanks is left just of itself with blanks around it. -/
theorem trimBlanks_eq_iff (solid : NoBlank body) : trimBlanks characters = body ↔
    ∃ before after, AllBlank before ∧ AllBlank after ∧ characters = before ++ body ++ after := by
  constructor
  · rintro rfl
    exact exists_blanks_append characters
  · rintro ⟨before, after, blankBefore, blankAfter, rfl⟩
    rw [trimBlanks_append blankBefore blankAfter, trimBlanks_eq_self solid]

end BuildMonitor.Text
