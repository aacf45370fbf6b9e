import BuildMonitor.Http.Address
import BuildMonitor.Proofs.Text.Numerals

/-!
# Addresses as they are written

Four octets are written in one way: in decimal without zeros in front, with dots between them.
Eight groups are written in many. Each is one hexadecimal digit of either case or more, up to four,
with colons between the groups; the last two may be written as four octets instead, and one run of
zeros, of one group at least, may be left out between two colons: `Spells`.

What is written so is read as what it says, whatever stands behind it that cannot belong to it:
`readOctets_dotted`, `readLong_of_spells`. Between brackets and with a port behind them eight groups
are an address; without the brackets no text that begins with them is one, since the digits in front
of their first colon are no octet with a dot behind it: `readShort?_of_spells`.

Main definitions: `dotted`, `WritesGroup`, `Joined`, `Spells`.
-/

namespace BuildMonitor.Http.Address

open BuildMonitor.Text

variable {characters rest : List Char} {groups octets : List Nat} {behind short : Bool}
  {group limit port value : Nat}

/-! ## Octets and ports -/

/-- Octets in decimal with dots between them. -/
def dotted : List Nat → List Char
  | [] => []
  | [octet] => Nat.toDigits 10 octet
  | octet :: octets => Nat.toDigits 10 octet ++ '.' :: dotted octets

/-- What follows is no digit. -/
def EndsDigits (rest : List Char) : Prop := ∀ character ∈ rest.head?, character.isDigit = false

/-- A numeral within the limit is read, up to what is no digit. -/
theorem readDecimal_append (numeral : IsNumeral characters value) (small : value ≤ limit)
    (ends : EndsDigits rest) : readDecimal limit (characters ++ rest) = some (value, rest) := by
  have denoted : valueOf 10 (characters.map fun character => character.toNat - '0'.toNat) = value :=
    (ofDigits_map characters).trans numeral.value
  simp only [readDecimal, spanDigits_append numeral.digits ends, denoted]
  simp [numeral.ne_nil, Nat.not_lt.mpr small]

/-- No octet is written with more than three digits, or with a zero in front of others. -/
private theorem octet_digits : ∀ octet ≤ 255,
    let digits := (Nat.toDigits 10 octet).map fun character => character.toNat - '0'.toNat
    (digits.length ≤ 3 && !(digits.head? == some 0 && 1 < digits.length)) = true := by
  decide +kernel

/-- An octet is read as it is printed. -/
theorem readOctet_append {octet : Nat} (small : octet ≤ 255) (ends : EndsDigits rest) :
    readOctet (Nat.toDigits 10 octet ++ rest) = some (octet, rest) := by
  have numeral := isNumeral_toDigits octet
  simp only [readOctet, spanDigits_append numeral.digits ends,
    readDecimal_append numeral small ends, Option.map_some]
  exact if_pos (octet_digits octet small)

/-- More than one octet is an octet, a dot and the others. -/
private theorem readOctets_succ_succ (count : Nat) (characters : List Char) :
    readOctets (count + 2) characters = do
      let (octet, rest) ← readOctet characters
      let rest ← skip '.' rest
      let (octets, rest) ← readOctets (count + 1) rest
      return (octet :: octets, rest) :=
  rfl

/-- Octets are read as they are written. -/
theorem readOctets_dotted (small : ∀ octet ∈ octets, octet ≤ 255) (ends : EndsDigits rest) :
    readOctets octets.length (dotted octets ++ rest) = some (octets, rest) := by
  induction octets with
  | nil => rfl
  | cons octet others inductionHypothesis =>
    obtain ⟨first, later⟩ := List.forall_mem_cons.mp small
    cases others with
    | nil =>
      change (readOctet (Nat.toDigits 10 octet ++ rest)).map _ = _
      rw [readOctet_append first ends, Option.map_some]
    | cons next others =>
      have atDot : EndsDigits ('.' :: (dotted (next :: others) ++ rest)) := by
        rintro _ ⟨⟩
        rfl
      have read := inductionHypothesis later
      rw [List.length_cons] at read
      rw [dotted.eq_3 _ _ (List.cons_ne_nil _ _), List.append_assoc, List.cons_append,
        List.length_cons, List.length_cons, readOctets_succ_succ, readOctet_append first atDot]
      simp [skip, read]

/-- A port is read as it is printed, behind its colon. -/
theorem readPort_toDigits (most : port ≤ 65535) :
    readPort (':' :: Nat.toDigits 10 port) = some (port, []) := by
  have ends : EndsDigits [] := nofun
  have read := readDecimal_append (isNumeral_toDigits port) most ends
  rw [List.append_nil] at read
  exact read

/-! ## Groups -/

/-- The characters write the group: one hexadecimal digit or more, up to four. -/
structure WritesGroup (group : Nat) (characters : List Char) : Prop where
  ne_nil : characters ≠ []
  length_le : characters.length ≤ 4
  digits : ∀ character ∈ characters, (hexDigit? character).isSome = true
  value : valueOf 16 (characters.filterMap hexDigit?) = group

/-- What follows belongs neither to a group nor to octets. -/
def EndsGroup (rest : List Char) : Prop :=
  ∀ character ∈ rest.head?, (hexDigit? character).isSome = false ∧ character ≠ '.'

/-- A decimal digit is a digit of groups too. -/
theorem EndsGroup.endsDigits (ends : EndsGroup rest) : EndsDigits rest := by
  intro character found
  cases isDigit : character.isDigit with
  | false => rfl
  | true =>
    have noDigit := (ends character found).1
    simp [hexDigit?, digitValue?_eq, isDigit] at noDigit

private theorem takeWhile_hexDigits
    (digits : ∀ character ∈ characters, (hexDigit? character).isSome = true)
    (ends : EndsGroup rest) :
    (characters ++ rest).takeWhile (fun character => (hexDigit? character).isSome) =
      characters := by
  rw [List.takeWhile_append_of_pos digits]
  cases rest with
  | nil => simp
  | cons character others => simp [(ends character rfl).1]

/-- A group is read as it is written, up to what belongs to none. -/
theorem readGroup_append (writes : WritesGroup group characters) (ends : EndsGroup rest) :
    readGroup (characters ++ rest) = some (group, rest) := by
  simp only [readGroup, takeWhile_hexDigits writes.digits ends, writes.value, List.drop_left']
  simp [writes.ne_nil, Nat.not_lt.mpr writes.length_le]

/-- Where nothing belongs to a group none is read. -/
theorem readGroup_eq_none (ends : EndsGroup rest) : readGroup rest = none := by
  have nothing : ([] ++ rest).takeWhile (fun character => (hexDigit? character).isSome) = [] :=
    takeWhile_hexDigits nofun ends
  rw [List.nil_append] at nothing
  simp only [readGroup, nothing]
  rfl

/-- What stands behind digits of a group and what follows it is no dot, after the decimal ones as
after all. -/
private theorem ne_dot_of_hexDigits
    (digits : ∀ character ∈ characters, (hexDigit? character).isSome = true)
    (ends : EndsGroup rest) :
    ∀ character ∈ (spanDigits (characters ++ rest)).2.head?, character ≠ '.' := by
  induction characters with
  | nil =>
    cases rest with
    | nil => nofun
    | cons character others =>
      have noDigit := ends.endsDigits character rfl
      simpa [spanDigits, digitValue?_eq, noDigit] using (ends character rfl).2
  | cons character others inductionHypothesis =>
    obtain ⟨first, later⟩ := List.forall_mem_cons.mp digits
    rw [List.cons_append, spanDigits]
    cases digitValue? character with
    | some => exact inductionHypothesis later
    | none =>
      rintro _ ⟨⟩ rfl
      cases first

/-- An octet takes all digits that there are. -/
private theorem readOctet_rest {octet : Nat} (read : readOctet characters = some (octet, rest)) :
    rest = (spanDigits characters).2 := by
  simp only [readOctet] at read
  split at read
  · obtain ⟨decimal, -, found⟩ := Option.map_eq_some_iff.mp read
    exact (congrArg Prod.snd found).symm
  · cases read

/-- A group is not taken for the first of some octets. -/
theorem readOctets_eq_none
    (digits : ∀ character ∈ characters, (hexDigit? character).isSome = true)
    (ends : EndsGroup rest) (count : Nat) : readOctets (count + 2) (characters ++ rest) = none := by
  have noDot := ne_dot_of_hexDigits digits ends
  rw [readOctets_succ_succ]
  cases read : readOctet (characters ++ rest) with
  | none => rfl
  | some found =>
    obtain ⟨octet, others⟩ := found
    have behind : others = (spanDigits (characters ++ rest)).2 := readOctet_rest read
    have noOther : skip '.' others = none := by
      cases others with
      | nil => rfl
      | cons character others => exact if_neg (noDot character (by rw [← behind]; rfl))
    simp [noOther]

/-! ## Groups with colons between them -/

/-- A colon, where one must stand. -/
def lead (behind : Bool) : List Char := if behind then [':'] else []

/-- The characters write the groups one after the other, with a colon in front of the first if they
stand behind others. The last two may be written as octets. -/
inductive Joined : (behind : Bool) → List Nat → (short : Bool) → List Char → Prop where
  | none {behind : Bool} : Joined behind [] false []
  | octets {behind : Bool} {octets : List Nat} (four : octets.length = 4)
      (small : ∀ octet ∈ octets, octet ≤ 255) :
      Joined behind (groupsOfOctets octets) true (lead behind ++ dotted octets)
  | group {behind short : Bool} {group : Nat} {groups : List Nat} {characters others : List Char}
      (writes : WritesGroup group characters) (joined : Joined true groups short others) :
      Joined behind (group :: groups) short (lead behind ++ (characters ++ others))

/-- What follows goes on with no group: it is a bracket or two colons. -/
inductive EndsGroups : List Char → Prop where
  | bracket {rest : List Char} : EndsGroups (']' :: rest)
  | gap {rest : List Char} : EndsGroups (':' :: ':' :: rest)

/-- What goes on with no group belongs to none. -/
theorem EndsGroups.endsGroup (ends : EndsGroups rest) : EndsGroup rest := by
  cases ends <;> rintro _ ⟨⟩ <;> decide

/-- What follows a group is a colon or what follows all of them. -/
private theorem Joined.endsGroup (joined : Joined true groups short characters)
    (ends : EndsGroups rest) : EndsGroup (characters ++ rest) := by
  cases joined with
  | none => exact ends.endsGroup
  | octets => rintro _ ⟨⟩; decide
  | group => rintro _ ⟨⟩; decide

private theorem pass_lead (behind : Bool) (body : List Char) :
    (if behind then skip ':' (lead behind ++ body) else some (lead behind ++ body)) =
      some body := by
  cases behind <;> rfl

/-- No groups are read where none follow. -/
private theorem readGroups_of_ends (ends : EndsGroups rest) (limit : Nat) (behind : Bool) :
    readGroups limit behind rest = ⟨[], false, rest⟩ := by
  cases limit with
  | zero => rfl
  | succ limit =>
    have stops {body : List Char} (none : EndsGroup body)
        (passed : (if behind then skip ':' rest else some rest) = some body) :
        readGroups (limit + 1) behind rest = ⟨[], false, rest⟩ := by
      have noDigits : ∀ character ∈ [], (hexDigit? character).isSome = true := nofun
      have noOctets := readOctets_eq_none noDigits none 2
      rw [List.nil_append] at noOctets
      rw [readGroups, passed]
      simp only [noOctets, ite_self, readGroup_eq_none none]
    cases behind with
    | false => exact stops ends.endsGroup rfl
    | true =>
      cases ends with
      | bracket => rfl
      | gap => exact stops (by rintro _ ⟨⟩; decide) rfl

/-- Four octets are two groups. -/
theorem length_groupsOfOctets (four : octets.length = 4) :
    (groupsOfOctets octets).length = 2 := by
  match octets, four with
  | [_, _, _, _], _ => rfl

/-- Groups are read as they are written. -/
theorem readGroups_of_joined (joined : Joined behind groups short characters)
    (few : groups.length ≤ limit) (ends : EndsGroups rest) :
    readGroups limit behind (characters ++ rest) = ⟨groups, short, rest⟩ := by
  -- The limit shrinks with the groups that are left, so of octets there is room for two.
  induction joined generalizing limit with
  | none => exact readGroups_of_ends ends limit _
  | @octets behind octets four small =>
    have two : (groupsOfOctets octets).length = 2 := length_groupsOfOctets four
    obtain ⟨limit, rfl⟩ : ∃ less, limit = less + 2 := Nat.exists_eq_add_of_le' (two ▸ few)
    have read := readOctets_dotted small ends.endsGroup.endsDigits
    rw [four] at read
    rw [List.append_assoc, readGroups, pass_lead]
    simp only [Nat.succ_pos, if_true, read]
  | @group behind short group groups characters others writes joined inductionHypothesis =>
    obtain ⟨limit, rfl⟩ : ∃ less, limit = less + 1 :=
      Nat.exists_eq_add_one_of_ne_zero (by rintro rfl; exact absurd few (Nat.not_succ_le_zero _))
    have ends' := joined.endsGroup ends
    have noOctets : (if 0 < limit then readOctets 4 (characters ++ (others ++ rest)) else none) =
        none := by
      rw [readOctets_eq_none writes.digits ends', ite_self]
    rw [List.append_assoc, List.append_assoc, readGroups, pass_lead]
    simp only [noOctets, readGroup_append writes ends',
      inductionHypothesis (Nat.le_of_succ_le_succ few)]

/-! ## Eight groups -/

/-- The characters write eight groups, all of them or all but a run of zeros. -/
inductive Spells : List Nat → List Char → Prop where
  | whole {groups : List Nat} {short : Bool} {characters : List Char}
      (joined : Joined false groups short characters) (eight : groups.length = 8) :
      Spells groups characters
  | gap {before after : List Nat} {short : Bool} {front back : List Char} {zeros : Nat}
      (joined : Joined false before false front) (joined' : Joined false after short back)
      (eight : before.length + (zeros + 1) + after.length = 8) :
      Spells (before ++ List.replicate (zeros + 1) 0 ++ after) (front ++ ':' :: ':' :: back)

/-- Eight groups are read as they are written. -/
theorem readLong_of_spells (spells : Spells groups characters) :
    readLong (characters ++ ']' :: rest) = some (groups, ']' :: rest) := by
  cases spells with
  | whole joined eight =>
    rw [readLong, readGroups_of_joined joined (Nat.le_of_eq eight) .bracket]
    exact if_pos eight
  | @gap before after short front back zeros joined joined' eight =>
    have some' : before.length ≠ 8 := by omega
    have ends : EndsGroups (':' :: ':' :: (back ++ ']' :: rest)) := .gap
    have ends' : EndsGroups (']' :: rest) := .bracket
    have read := readGroups_of_joined joined (by omega : before.length ≤ 8) ends
    have read' := readGroups_of_joined joined' (by omega : after.length ≤ 8 - (before.length + 1))
      ends'
    have left : 8 - before.length - after.length = zeros + 1 := by omega
    rw [readLong, List.append_assoc, List.cons_append, List.cons_append, read]
    simp only [if_neg some', Bool.false_eq_true, if_false, skip, if_true, Option.bind_eq_bind,
      Option.bind_some, read', left]
    rfl

/-- Eight groups between brackets, with a port behind them, are an address. -/
theorem readBracketed?_of_spells (spells : Spells groups characters) (most : port ≤ 65535) :
    readBracketed? ('[' :: (characters ++ ']' :: ':' :: Nat.toDigits 10 port)) =
      some (.long groups 0 port) := by
  have zone (rest : List Char) : readZone (']' :: rest) = some (0, ']' :: rest) := rfl
  simp [readBracketed?, skip, readLong_of_spells spells, zone, readPort_toDigits most]

/-- Groups that stand behind others have a colon in front. -/
private theorem Joined.nil_or_lead (joined : Joined true groups short characters) :
    groups = [] ∧ characters = [] ∨ ∃ others, characters = ':' :: others := by
  cases joined with
  | none => exact Or.inl ⟨rfl, rfl⟩
  | octets => exact Or.inr ⟨_, rfl⟩
  | group => exact Or.inr ⟨_, rfl⟩

/-- The first colon has nothing but digits of a group in front of it. -/
private theorem Spells.front (spells : Spells groups characters) :
    ∃ digits others, characters = digits ++ ':' :: others ∧
      ∀ character ∈ digits, (hexDigit? character).isSome = true := by
  cases spells with
  | whole joined eight =>
    cases joined with
    | none => cases eight
    | octets four small => rw [length_groupsOfOctets four] at eight; cases eight
    | group writes joined =>
      obtain ⟨rfl, -⟩ | ⟨others, rfl⟩ := joined.nil_or_lead
      · cases eight
      · exact ⟨_, others, rfl, writes.digits⟩
  | @gap _ _ _ _ back _ joined joined' eight =>
    cases joined with
    | none => exact ⟨[], _, rfl, nofun⟩
    | @group _ _ _ _ digits _ writes joined =>
      obtain ⟨-, rfl⟩ | ⟨others, rfl⟩ := joined.nil_or_lead
      · exact ⟨digits, ':' :: back, by simp [lead], writes.digits⟩
      · exact ⟨digits, others ++ ':' :: ':' :: back, by simp [lead], writes.digits⟩

/-- Eight groups without brackets are no four octets, whatever stands behind them. -/
theorem readShort?_of_spells (spells : Spells groups characters) (rest : List Char) :
    readShort? (characters ++ rest) = none := by
  obtain ⟨digits, others, rfl, hexadecimal⟩ := spells.front
  have ends : EndsGroup (':' :: (others ++ rest)) := by
    rintro _ ⟨⟩
    decide
  have noOctets := readOctets_eq_none hexadecimal ends 2
  rw [List.append_assoc, List.cons_append, readShort?, noOctets]
  rfl

/-- Nor are they anything between brackets. -/
theorem readBracketed?_of_spells_without (spells : Spells groups characters) (rest : List Char) :
    readBracketed? (characters ++ rest) = none := by
  obtain ⟨digits, others, rfl, hexadecimal⟩ := spells.front
  have noBracket : skip '[' (digits ++ ':' :: others ++ rest) = none := by
    cases digits with
    | nil => rfl
    | cons character others =>
      refine if_neg ?_
      rintro rfl
      cases hexadecimal '[' List.mem_cons_self
  rw [readBracketed?, noBracket]
  rfl

end BuildMonitor.Http.Address
