import Mathlib.Tactic.IntervalCases
import BuildMonitor.Json.Printer
import BuildMonitor.Json.Token
import BuildMonitor.Proofs.Text.Numerals

/-!
# Tokens of what was printed

What is printed of a value, on one line or over several, is cut into its tokens again:
`tokens?_compactChars`, `tokens?_prettyChars`. A text is escaped character by character and read
back character by character; the digits of a number are read to the last as long as nothing follows
that could belong to a number.

Numbers that are not integers of 64 bits are left out: what is printed of them is another matter.

Main definitions: `Value.Fits`, `Value.tokens`, `Lexes`, `Spells`.
-/

namespace BuildMonitor.Json

open BuildMonitor.Text

/-! ## Values and their tokens -/

/-- The number is an integer of 64 bits, signed or not. -/
def Number.IsWhole : Number → Prop
  | .natural value => value ≤ wordLimit
  | .negative value => 0 < value ∧ value ≤ 1 <<< 63
  | .floating _ => False

namespace Value

mutual

/-- Containers are nested no deeper than the room, and all numbers are integers of 64 bits. -/
def Fits (room : Nat) : Value → Prop
  | .null => True
  | .boolean _ => True
  | .number value => value.IsWhole
  | .text _ => True
  | .array items => 0 < room ∧ FitItems (room - 1) items
  | .object members => 0 < room ∧ FitMembers (room - 1) members

/-- Each item fits. -/
def FitItems (room : Nat) : List Value → Prop
  | [] => True
  | item :: rest => item.Fits room ∧ FitItems room rest

/-- The value of each member fits. -/
def FitMembers (room : Nat) : List (String × Value) → Prop
  | [] => True
  | (_, value) :: rest => value.Fits room ∧ FitMembers room rest

end

mutual

/-- The tokens of a value. -/
def tokens : Value → List Token
  | .null => [.null]
  | .boolean value => [.boolean value]
  | .number value => [.number value]
  | .text value => [.text value]
  | .array items => .openArray :: joinWith [.comma] (itemTokens items) ++ [.closeArray]
  | .object members => .openObject :: joinWith [.comma] (memberTokens members) ++ [.closeObject]

/-- The tokens of each item. -/
def itemTokens : List Value → List (List Token)
  | [] => []
  | item :: rest => item.tokens :: itemTokens rest

/-- The tokens of each member. -/
def memberTokens : List (String × Value) → List (List Token)
  | [] => []
  | (name, value) :: rest => (.text name :: .colon :: value.tokens) :: memberTokens rest

end

end Value

/-- The characters are cut into the tokens. -/
def Lexes (characters : List Char) (tokens : List Token) : Prop :=
  ∀ soFar fuel, characters.length ≤ fuel →
    readTokens? soFar fuel characters = some (soFar.reverse ++ tokens)

variable {character : Char} {characters rest after : List Char} {token : Token}
  {tokens : List Token}

/-- Nothing is cut into no tokens. -/
theorem lexes_nil : Lexes [] [] := by
  intro soFar fuel _
  rw [readTokens?, List.append_nil]

/-- A token is read and what is left is cut, as long as something was passed over. -/
theorem Lexes.cons (lexes : Lexes after tokens) (solid : isJsonBlank character = false)
    (read : readToken? (character :: rest) = some (token, after))
    (shorter : after.length ≤ rest.length) : Lexes (character :: rest) (token :: tokens) := by
  intro soFar fuel enough
  obtain ⟨left, rfl⟩ : ∃ left, fuel = left + 1 :=
    Nat.exists_eq_add_one.mpr (Nat.lt_of_lt_of_le (Nat.succ_pos _) enough)
  have remains : after.length ≤ left :=
    Nat.le_trans shorter (Nat.le_of_succ_le_succ enough)
  rw [readTokens?, solid, if_neg Bool.false_ne_true, read]
  exact (lexes (token :: soFar) left remains).trans (by simp)

/-- Blanks between tokens are left out. -/
theorem Lexes.blanks {blanks : List Char} (lexes : Lexes rest tokens)
    (blank : ∀ character ∈ blanks, isJsonBlank character = true) :
    Lexes (blanks ++ rest) tokens := by
  induction blanks with
  | nil => exact lexes
  | cons first others inductionHypothesis =>
    obtain ⟨firstBlank, othersBlank⟩ := List.forall_mem_cons.mp blank
    intro soFar fuel enough
    obtain ⟨left, rfl⟩ : ∃ left, fuel = left + 1 :=
      Nat.exists_eq_add_one.mpr (Nat.lt_of_lt_of_le (Nat.succ_pos _) enough)
    rw [List.cons_append, readTokens?, firstBlank, if_pos rfl]
    exact inductionHypothesis othersBlank soFar left (Nat.le_of_succ_le_succ enough)

/-- Punctuation is a token by itself. -/
theorem Lexes.punctuation (lexes : Lexes rest tokens) (mark : punctuation? character = some token) :
    Lexes (character :: rest) (token :: tokens) := by
  have solid : isJsonBlank character = false := by
    unfold punctuation? at mark
    split at mark <;> first | rfl | cases mark
  have read : readToken? (character :: rest) = some (token, rest) := by
    unfold punctuation? at mark
    split at mark <;> cases mark <;> rfl
  exact lexes.cons solid read (Nat.le_refl _)

/-! ## Texts -/

/-- A control character is written in a form that stands for it. -/
private theorem readTextCharacter?_control (rest : List Char) :
    ∀ code < 0x20, readTextCharacter? (escapeCharacter (Char.ofNat code) ++ rest) =
      some (Char.ofNat code, rest) := by
  intro code small
  interval_cases code <;> rfl

/-- An escaped character is read back. -/
theorem readTextCharacter?_escapeCharacter (character : Char) (rest : List Char) :
    readTextCharacter? (escapeCharacter character ++ rest) = some (character, rest) := by
  by_cases control : character.toNat < 0x20
  · have read := readTextCharacter?_control rest character.toNat control
    rwa [Char.ofNat_toNat] at read
  by_cases quote : character = '"'
  · subst quote
    rfl
  by_cases backslash : character = '\\'
  · subst backslash
    rfl
  have printable {other : Char} (small : other.toNat < 0x20) : character ≠ other :=
    fun same => control (same ▸ small)
  have plain : escapeCharacter character = [character] := by
    have large : ¬ character.toNat < 0x10 := fun small => control (by omega)
    rw [escapeCharacter, if_neg quote, if_neg backslash, if_neg (printable (by decide)),
      if_neg (printable (by decide)), if_neg (printable (by decide)),
      if_neg (printable (by decide)), if_neg (printable (by decide)), if_neg large, if_neg control]
  rw [plain, List.singleton_append]
  unfold readTextCharacter?
  split
  · next same => exact absurd (List.cons.inj same).1 backslash
  · next same => exact absurd (List.cons.inj same).1 backslash
  · next same =>
    obtain ⟨rfl, rfl⟩ := List.cons.inj same
    rw [if_neg (by simp [control, backslash])]
  · next same => cases same

private theorem escapeCharacter_ne_nil (character : Char) : escapeCharacter character ≠ [] := by
  unfold escapeCharacter
  repeat' split
  all_goals simp

/-- No escaped character begins with a quote. -/
private theorem escapeCharacter_head (character : Char) (rest : List Char) :
    ∀ after, escapeCharacter character ++ rest ≠ '"' :: after := by
  intro after
  unfold escapeCharacter
  repeat' split
  all_goals simp [*]

private theorem readTextFrom?_escaped (soFar characters rest : List Char) (fuel : Nat)
    (enough : characters.length < fuel) :
    readTextFrom? soFar fuel (characters.flatMap escapeCharacter ++ '"' :: rest) =
      some (soFar.reverse ++ characters, rest) := by
  induction characters generalizing soFar fuel with
  | nil =>
    obtain ⟨left, rfl⟩ := Nat.exists_eq_add_one.mpr enough
    simp [readTextFrom?]
  | cons character others inductionHypothesis =>
    obtain ⟨left, rfl⟩ : ∃ left, fuel = left + 1 :=
      Nat.exists_eq_add_one.mpr (Nat.lt_of_le_of_lt (Nat.zero_le _) enough)
    have remains : others.length < left := Nat.lt_of_succ_lt_succ enough
    rw [List.flatMap_cons, List.append_assoc, readTextFrom?, readTextCharacter?_escapeCharacter]
    · exact (inductionHypothesis (character :: soFar) left remains).trans (by simp)
    · exact escapeCharacter_head character _

/-- What was printed of a text is read back up to its closing quote. -/
theorem readText?_escaped (characters rest : List Char) :
    readText? (characters.flatMap escapeCharacter ++ '"' :: rest) = some (characters, rest) := by
  have longer : characters.length ≤ (characters.flatMap escapeCharacter).length := by
    induction characters with
    | nil => exact Nat.le_refl _
    | cons character others inductionHypothesis =>
      have some := List.length_pos_iff.mpr (escapeCharacter_ne_nil character)
      rw [List.flatMap_cons, List.length_append, List.length_cons]
      omega
  refine readTextFrom?_escaped [] characters rest _ ?_
  rw [List.length_append]
  omega

/-- A text is cut off as it is printed. -/
theorem Lexes.text (lexes : Lexes rest tokens) (text : String) :
    Lexes (printText text ++ rest) (.text text :: tokens) := by
  have printed : printText text ++ rest =
      '"' :: (text.toList.flatMap escapeCharacter ++ '"' :: rest) := by
    simp [printText]
  have read : readToken? ('"' :: (text.toList.flatMap escapeCharacter ++ '"' :: rest)) =
      some (.text text, rest) := by
    rw [readToken?, readText?_escaped, Option.map_some, String.ofList_toList]
  rw [printed]
  refine lexes.cons rfl read ?_
  rw [List.length_append, List.length_cons]
  omega

/-! ## Numbers -/

/-- The digits of a natural number. -/
def decimalDigits (value : Nat) : List Nat :=
  (Nat.toDigits 10 value).map fun character => character.toNat - '0'.toNat

/-- What follows cannot belong to a number. -/
def EndsNumber (rest : List Char) : Prop :=
  ∀ character ∈ rest.head?, character.isDigit = false ∧ character ≠ '.' ∧ character ≠ 'e' ∧
    character ≠ 'E'

/-- A positive number is printed with no zero in front. -/
private theorem decimalDigits_eq_cons (value : Nat) (positive : 0 < value) :
    ∃ first others, decimalDigits value = first :: others ∧ first ≠ 0 := by
  induction value using Nat.strongRecOn with
  | _ value inductionHypothesis =>
    rw [decimalDigits]
    by_cases small : value < 10
    · refine ⟨value, [], ?_, by omega⟩
      rw [Nat.toDigits_of_lt_base small]
      interval_cases value <;> rfl
    · obtain ⟨first, others, front, nonzero⟩ :=
        inductionHypothesis (value / 10) (by omega) (by omega)
      rw [decimalDigits] at front
      rw [Nat.toDigits_of_base_le (by decide) (by omega), List.map_append, front]
      exact ⟨first, _, rfl, nonzero⟩

/-- The digits of a number have no zero in front that they can do without. -/
theorem isWhole_decimalDigits (value : Nat) : isWhole (decimalDigits value) = true := by
  rcases Nat.eq_zero_or_pos value with rfl | positive
  · rfl
  · obtain ⟨first, others, front, nonzero⟩ := decimalDigits_eq_cons value positive
    rw [front]
    cases others with
    | nil => rfl
    | cons => simpa [isWhole] using nonzero

private theorem readFraction?_of_ends (ends : EndsNumber rest) :
    readFraction? rest = some (none, rest) := by
  unfold readFraction?
  split
  · exact absurd rfl (ends '.' rfl).2.1
  · rfl

private theorem readExponent?_of_ends (ends : EndsNumber rest) :
    readExponent? rest = some (none, rest) := by
  cases rest with
  | nil => rfl
  | cons character others =>
    obtain ⟨-, -, lower, upper⟩ := ends character rfl
    unfold readExponent?
    exact if_neg (not_or.mpr ⟨lower, upper⟩)

/-- The digits of a number stand for it. -/
theorem ofDigits_decimalDigits (value : Nat) : ofDigits (decimalDigits value) = value := by
  rw [decimalDigits, ofDigits_map, Nat.ofDigitChars_toDigits (by decide) (by decide)]

/-- A number is printed with a digit in front. -/
private theorem exists_toDigits_eq_cons (value : Nat) :
    ∃ first others, Nat.toDigits 10 value = first :: others ∧ first.isDigit = true := by
  have digits := (isNumeral_toDigits value).digits
  cases printed : Nat.toDigits 10 value with
  | nil => exact absurd printed Nat.toDigits_ne_nil
  | cons first others =>
    rw [printed] at digits
    exact ⟨first, others, rfl, digits first List.mem_cons_self⟩

private theorem spanDigits_toDigits (value : Nat) (ends : EndsNumber rest) :
    spanDigits (Nat.toDigits 10 value ++ rest) = (decimalDigits value, rest) :=
  spanDigits_append (isNumeral_toDigits value).digits fun character found =>
    (ends character found).1

/-- A natural number is read as it is printed, up to what ends a number. -/
theorem Literal.read?_natural (value : Nat) (ends : EndsNumber rest) :
    Literal.read? (Nat.toDigits 10 value ++ rest) =
      some (⟨false, decimalDigits value, none, none⟩, rest) := by
  obtain ⟨first, others, front, digit⟩ := exists_toDigits_eq_cons value
  have unsigned : first ≠ '-' := by
    rintro rfl
    cases digit
  have spanned := spanDigits_toDigits value ends
  rw [front, List.cons_append] at spanned ⊢
  simp [Literal.read?, unsigned, spanned, isWhole_decimalDigits, readFraction?_of_ends ends,
    readExponent?_of_ends ends]

/-- A negative number is read as it is printed, up to what ends a number. -/
theorem Literal.read?_negative (value : Nat) (ends : EndsNumber rest) :
    Literal.read? ('-' :: (Nat.toDigits 10 value ++ rest)) =
      some (⟨true, decimalDigits value, none, none⟩, rest) := by
  simp [Literal.read?, spanDigits_toDigits value ends, isWhole_decimalDigits,
    readFraction?_of_ends ends, readExponent?_of_ends ends]

/-- Such a literal stands for the number it was printed from. -/
private theorem exists_literal {number : Number} (whole : number.IsWhole) (ends : EndsNumber rest) :
    ∃ literal, Literal.read? (printNumber number ++ rest) = some (literal, rest) ∧
      literal.number? = some number := by
  cases number with
  | natural value =>
    refine ⟨_, Literal.read?_natural value ends, ?_⟩
    simp only [Literal.number?, ofDigits_decimalDigits, if_neg Bool.false_ne_true]
    exact if_pos whole
  | negative value =>
    refine ⟨_, Literal.read?_negative value ends, ?_⟩
    simp only [Literal.number?, ofDigits_decimalDigits, if_true]
    exact if_pos whole
  | floating value => exact whole.elim

/-- A digit or a minus sign begins no token but a number. -/
private theorem readToken?_number {first : Char} {literal : Literal} {number : Number}
    (leads : first.isDigit = true ∨ first = '-')
    (read : Literal.read? (first :: rest) = some (literal, after))
    (stands : literal.number? = some number) :
    isJsonBlank first = false ∧ readToken? (first :: rest) = some (.number number, after) := by
  have different {other : Char} (letter : other.isDigit = false) (sign : other ≠ '-') :
      other ≠ first := by
    rintro rfl
    rcases leads with digit | minus
    · exact Bool.false_ne_true (letter.symm.trans digit)
    · exact sign minus
  constructor
  · by_contra blank
    simp only [isJsonBlank, Bool.not_eq_false, Bool.or_eq_true, decide_eq_true_eq] at blank
    obtain ((same | same) | same) | same := blank
    all_goals exact different rfl (by decide) same.symm
  · have noMark : punctuation? first = none := by
      unfold punctuation?
      split <;> first | rfl | exact absurd rfl (different rfl (by decide))
    unfold readToken?
    split
    case h_1 same => cases same
    case h_6 same =>
      obtain ⟨rfl, rfl⟩ := List.cons.inj same
      simp [noMark, read, stands]
    all_goals
      next same => exact absurd (List.cons.inj same).1.symm (different rfl (by decide))

/-- An integer of 64 bits is cut off as it is printed, where a number ends. -/
theorem Lexes.number {number : Number} (lexes : Lexes rest tokens) (whole : number.IsWhole)
    (ends : EndsNumber rest) : Lexes (printNumber number ++ rest) (.number number :: tokens) := by
  obtain ⟨literal, read, stands⟩ := exists_literal whole ends
  obtain ⟨first, others, front, leads⟩ : ∃ first others, printNumber number = first :: others ∧
      (first.isDigit = true ∨ first = '-') := by
    cases number with
    | natural value =>
      obtain ⟨first, others, front, digit⟩ := exists_toDigits_eq_cons value
      exact ⟨first, others, front, Or.inl digit⟩
    | negative value => exact ⟨'-', _, rfl, Or.inr rfl⟩
    | floating value => exact whole.elim
  rw [front, List.cons_append] at read ⊢
  obtain ⟨solid, taken⟩ := readToken?_number leads read stands
  refine lexes.cons solid taken ?_
  rw [List.length_append]
  exact Nat.le_add_left _ _

/-! ## Values -/

/-- The characters are cut into the tokens, whatever follows, as long as it ends a number. -/
def Spells (characters : List Char) (tokens : List Token) : Prop :=
  ∀ rest after, EndsNumber rest → Lexes rest after → Lexes (characters ++ rest) (tokens ++ after)

/-- Pieces are cut one by one when a mark that ends a number stands between them. -/
theorem Spells.joinWith {separator : List Char} {mark : List Token} {pieces : List (List Char)}
    {pieceTokens : List (List Token)} (ends : ∀ rest, EndsNumber (separator ++ rest))
    (cut : ∀ rest after, Lexes rest after → Lexes (separator ++ rest) (mark ++ after))
    (each : List.Forall₂ Spells pieces pieceTokens) :
    Spells (joinWith separator pieces) (joinWith mark pieceTokens) := by
  intro rest after endsRest lexes
  induction each with
  | nil => exact lexes
  | cons first others inductionHypothesis =>
    cases others with
    | nil => exact first rest after endsRest lexes
    | cons =>
      have later := cut _ _ inductionHypothesis
      simpa [Text.joinWith] using first _ _ (ends _) later

private theorem endsNumber_of_punctuation (mark : punctuation? character = some token) :
    EndsNumber (character :: rest) := by
  intro other same
  cases same
  unfold punctuation? at mark
  split at mark <;> first | exact ⟨rfl, by decide, by decide, by decide⟩ | cases mark

/-- A line break ends a number and is left out, with the indentation behind it. -/
private theorem endsNumber_lineAt (level : Nat) (rest : List Char) :
    EndsNumber (lineAt level ++ rest) := by
  intro other same
  cases same
  exact ⟨rfl, by decide, by decide, by decide⟩

private theorem Lexes.lineAt (lexes : Lexes rest tokens) (level : Nat) :
    Lexes (lineAt level ++ rest) tokens := by
  refine lexes.blanks fun character member => ?_
  rcases List.mem_cons.mp member with rfl | indentation
  · rfl
  · rw [List.eq_of_mem_replicate indentation]
    rfl

/-- Joined pieces between brackets. -/
private theorem Spells.between {opening closing : Char} {openToken closeToken : Token}
    {pieces : List (List Char)} {pieceTokens : List (List Token)}
    (opens : punctuation? opening = some openToken)
    (closes : punctuation? closing = some closeToken)
    (each : List.Forall₂ Spells pieces pieceTokens) :
    Spells (opening :: Text.joinWith [','] pieces ++ [closing])
      (openToken :: Text.joinWith [.comma] pieceTokens ++ [closeToken]) := by
  intro rest after ends lexes
  have comma : punctuation? ',' = some .comma := rfl
  have joined : Spells (Text.joinWith [','] pieces) (Text.joinWith [.comma] pieceTokens) :=
    .joinWith (fun _ => endsNumber_of_punctuation comma) (fun _ _ next => next.punctuation comma)
      each
  have closed := joined _ _ (endsNumber_of_punctuation closes) (lexes.punctuation closes)
  simpa using closed.punctuation opens

/-- Pieces on lines of their own between brackets. -/
private theorem Spells.bracketed {opening closing : Char} {openToken closeToken : Token}
    {pieces : List (List Char)} {pieceTokens : List (List Token)} (level : Nat)
    (opens : punctuation? opening = some openToken)
    (closes : punctuation? closing = some closeToken)
    (each : List.Forall₂ Spells pieces pieceTokens) :
    Spells (bracketed opening closing level pieces)
      (openToken :: Text.joinWith [.comma] pieceTokens ++ [closeToken]) := by
  intro rest after ends lexes
  cases each with
  | nil => exact (lexes.punctuation closes).punctuation opens
  | @cons piece tokens pieces others first later =>
    have comma : punctuation? ',' = some .comma := rfl
    have joined : Spells (Text.joinWith (',' :: Json.lineAt (level + 1)) (piece :: pieces))
        (Text.joinWith [.comma] (tokens :: others)) :=
      .joinWith (fun _ => endsNumber_of_punctuation comma)
        (fun _ _ next => (next.lineAt (level + 1)).punctuation comma) (.cons first later)
    have closed := joined _ _ (endsNumber_lineAt level _) ((lexes.punctuation closes).lineAt level)
    simpa [Json.bracketed] using (closed.lineAt (level + 1)).punctuation opens

private theorem Spells.null : Spells ['n', 'u', 'l', 'l'] [.null] :=
  fun _ _ _ lexes => lexes.cons rfl rfl (Nat.le_add_right _ 3)

private theorem Spells.wordTrue : Spells ['t', 'r', 'u', 'e'] [.boolean true] :=
  fun _ _ _ lexes => lexes.cons rfl rfl (Nat.le_add_right _ 3)

private theorem Spells.wordFalse : Spells ['f', 'a', 'l', 's', 'e'] [.boolean false] :=
  fun _ _ _ lexes => lexes.cons rfl rfl (Nat.le_add_right _ 4)

private theorem Spells.number {number : Number} (whole : number.IsWhole) :
    Spells (printNumber number) [.number number] :=
  fun _ _ ends lexes => lexes.number whole ends

private theorem Spells.text (text : String) : Spells (printText text) [.text text] :=
  fun _ _ _ lexes => lexes.text text

/-- A name, a colon, blanks or none, and a value. -/
private theorem Spells.member {characters blanks : List Char} {tokens : List Token}
    (spells : Spells characters tokens)
    (blank : ∀ character ∈ blanks, isJsonBlank character = true) (name : String) :
    Spells (printText name ++ ':' :: (blanks ++ characters)) (.text name :: .colon :: tokens) := by
  intro rest after ends lexes
  have colon : punctuation? ':' = some .colon := rfl
  have valued := (spells rest after ends lexes).blanks blank
  simpa using (valued.punctuation colon).text name

mutual

/-- What is printed of a value on one line is cut into its tokens. -/
theorem spells_value {room : Nat} :
    (value : Value) → value.Fits room → Spells (compactChars value) value.tokens
  | .null, _ => .null
  | .boolean true, _ => .wordTrue
  | .boolean false, _ => .wordFalse
  | .number _, fits => .number fits
  | .text text, _ => .text text
  | .array items, fits => .between rfl rfl (spells_items items fits.2)
  | .object members, fits => .between rfl rfl (spells_members members fits.2)

/-- What is printed of each item without blanks is cut into its tokens. -/
theorem spells_items {room : Nat} : (items : List Value) → Value.FitItems room items →
    List.Forall₂ Spells (compactItems items) (Value.itemTokens items)
  | [], _ => .nil
  | item :: rest, fits => .cons (spells_value item fits.1) (spells_items rest fits.2)

/-- What is printed of each member without blanks is cut into its tokens. -/
theorem spells_members {room : Nat} : (members : List (String × Value)) →
    Value.FitMembers room members →
    List.Forall₂ Spells (compactMembers members) (Value.memberTokens members)
  | [], _ => .nil
  | (name, value) :: rest, fits =>
    .cons ((spells_value value fits.1).member (List.forall_mem_nil _) name)
      (spells_members rest fits.2)

end

mutual

/-- What is printed of a value over several lines is cut into its tokens. -/
theorem spells_lines {room : Nat} (level : Nat) :
    (value : Value) → value.Fits room → Spells (prettyChars level value) value.tokens
  | .null, _ => .null
  | .boolean true, _ => .wordTrue
  | .boolean false, _ => .wordFalse
  | .number _, fits => .number fits
  | .text text, _ => .text text
  | .array items, fits => .bracketed level rfl rfl (spells_itemLines (level + 1) items fits.2)
  | .object members, fits =>
    .bracketed level rfl rfl (spells_memberLines (level + 1) members fits.2)

/-- What is printed of each item over several lines is cut into its tokens. -/
theorem spells_itemLines {room : Nat} (level : Nat) :
    (items : List Value) → Value.FitItems room items →
    List.Forall₂ Spells (prettyItems level items) (Value.itemTokens items)
  | [], _ => .nil
  | item :: rest, fits => .cons (spells_lines level item fits.1) (spells_itemLines level rest fits.2)

/-- What is printed of each member over several lines is cut into its tokens. -/
theorem spells_memberLines {room : Nat} (level : Nat) : (members : List (String × Value)) →
    Value.FitMembers room members →
    List.Forall₂ Spells (prettyMembers level members) (Value.memberTokens members)
  | [], _ => .nil
  | (name, value) :: rest, fits =>
    .cons ((spells_lines level value fits.1).member
      (List.forall_mem_singleton.mpr (rfl : isJsonBlank ' ' = true)) name)
      (spells_memberLines level rest fits.2)

end

/-- What spells tokens is cut into them, with blanks behind it or none, and nothing is left. -/
private theorem Spells.tokens?_append {characters blanks : List Char} {tokens : List Token}
    (spells : Spells characters tokens)
    (blank : ∀ character ∈ blanks, isJsonBlank character = true) :
    tokens? (characters ++ blanks) = some tokens := by
  have ends : EndsNumber blanks := by
    intro first same
    have isBlank := blank first (List.mem_of_mem_head? same)
    simp only [isJsonBlank, Bool.or_eq_true, decide_eq_true_eq] at isBlank
    obtain ((rfl | rfl) | rfl) | rfl := isBlank
    all_goals exact ⟨rfl, by decide, by decide, by decide⟩
  have nothing : Lexes blanks [] := by simpa using lexes_nil.blanks blank
  have lexes := spells blanks [] ends nothing
  rw [List.append_nil] at lexes
  exact lexes [] _ (Nat.le_refl _)

variable {room : Nat} {value : Value} {blanks : List Char}

/-- What is printed of a value is cut into its tokens. -/
theorem tokens?_compactChars (fits : value.Fits room)
    (blank : ∀ character ∈ blanks, isJsonBlank character = true) :
    tokens? (compactChars value ++ blanks) = some value.tokens :=
  (spells_value value fits).tokens?_append blank

/-- The same over several lines. -/
theorem tokens?_prettyChars (fits : value.Fits room)
    (blank : ∀ character ∈ blanks, isJsonBlank character = true) :
    tokens? (prettyChars 0 value ++ blanks) = some value.tokens :=
  (spells_lines 0 value fits).tokens?_append blank

end BuildMonitor.Json
