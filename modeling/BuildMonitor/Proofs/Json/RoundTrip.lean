import BuildMonitor.Json.Document
import BuildMonitor.Proofs.Json.Lexing
import BuildMonitor.Proofs.Text.Decoding

/-!
# Reading what was printed

A reader takes the tokens of a value and puts the value, with the members of its objects sorted,
into the innermost open container. So a value that is not nested too deep for the reader is read
back from what is printed of it, compactly or prettily: `parseWithin?_compact`,
`parseWithin?_pretty`.

Main definitions: `Allows`, `Reads`.
-/

namespace BuildMonitor.Json

open BuildMonitor.Text Reader

variable {limit : Option Nat} {room : Nat} {tokens : List Token} {value : Value}
  {stack : List Frame} {expects : Expectation}

/-- A value may stand there. -/
def Expectation.AdmitsValue (expects : Expectation) : Prop :=
  expects = .value ∨ expects = .firstItem

/-- A reader that may have a limit has so many containers open at once. -/
def Allows (limit : Option Nat) (opened : Nat) : Prop := ∀ most ∈ limit, opened ≤ most

/-- A reader with room for some containers has room for fewer. -/
theorem Allows.mono {more fewer : Nat} (allows : Allows limit more) (less : fewer ≤ more) :
    Allows limit fewer :=
  fun most held => Nat.le_trans less (allows most held)

/-- A reader with room for one container more may open it. -/
theorem hasRoom_of_allows {opened : Nat} (allows : Allows limit (opened + 1)) :
    hasRoom limit opened = true := by
  cases limit with
  | none => rfl
  | some most => exact decide_eq_true (allows most rfl)

/-- Taken where a value may stand, the tokens deliver the value, as long as there is room for the
containers they open. -/
def Reads (limit : Option Nat) (room : Nat) (tokens : List Token) (value : Value) : Prop :=
  ∀ stack expects, Allows limit (stack.length + room) → expects.AdmitsValue →
    tokens.foldlM (push? limit) ⟨stack, expects⟩ = some (deliver stack value)

/-- The tokens are those of a member. -/
def ReadsMember (limit : Option Nat) (room : Nat) (tokens : List Token)
    (member : String × Value) : Prop :=
  ∃ later, tokens = .text member.1 :: .colon :: later ∧ Reads limit room later member.2

/-- The tokens of items are taken into the innermost array. -/
private theorem foldlM_items {pieces : List (List Token)} {item : Value} {items : List Value}
    (each : List.Forall₂ (Reads limit room) pieces (item :: items))
    (enough : Allows limit (stack.length + 1 + room)) (soFar : List Value)
    (admits : expects.AdmitsValue) :
    (joinWith [.comma] pieces).foldlM (push? limit) ⟨.array soFar :: stack, expects⟩ =
      some ⟨.array (items.reverse ++ item :: soFar) :: stack, .separator⟩ := by
  induction items generalizing pieces item soFar expects with
  | nil =>
    obtain _ | ⟨reads, ⟨⟩⟩ := each
    exact reads _ _ enough admits
  | cons next others inductionHypothesis =>
    obtain _ | ⟨reads, later⟩ := each
    obtain _ | ⟨readsNext, laterStill⟩ := id later
    have rest := inductionHypothesis later (item :: soFar) (Or.inl rfl)
    have first := reads (.array soFar :: stack) _ enough admits
    simp only [joinWith, List.foldlM_append, List.foldlM_cons, List.foldlM_nil, first,
      Option.bind_eq_bind, Option.bind_some, deliver, push?]
    simpa using rest

/-- The tokens of a member are taken into an object that is still to be opened, or to be opened
again. -/
private theorem foldlM_member {member : String × Value} {soFar : List (String × Value)}
    (reads : ReadsMember limit room tokens member) (enough : Allows limit (stack.length + 1 + room))
    (admits : expects = .name soFar ∨ expects = .firstName ∧ soFar = []) :
    tokens.foldlM (push? limit) ⟨stack, expects⟩ =
      some ⟨.object (insertMember member.1 member.2 soFar) member.1 :: stack, .separator⟩ := by
  obtain ⟨later, rfl, reads⟩ := reads
  have named : push? limit ⟨stack, expects⟩ (.text member.1) =
      some ⟨.object soFar member.1 :: stack, .colon⟩ := by
    rcases admits with rfl | ⟨rfl, rfl⟩ <;> rfl
  have colon : push? limit ⟨.object soFar member.1 :: stack, .colon⟩ .colon =
      some ⟨.object soFar member.1 :: stack, .value⟩ := rfl
  rw [List.foldlM_cons, named, Option.bind_eq_bind, Option.bind_some, List.foldlM_cons, colon]
  exact reads (.object soFar member.1 :: stack) _ enough (Or.inl rfl)

/-- The tokens of members are taken into the innermost object, each to its place. -/
private theorem foldlM_members {pieces : List (List Token)} {member : String × Value}
    {members soFar : List (String × Value)}
    (each : List.Forall₂ (ReadsMember limit room) pieces (member :: members))
    (enough : Allows limit (stack.length + 1 + room))
    (admits : expects = .name soFar ∨ expects = .firstName ∧ soFar = []) :
    ∃ name, (joinWith [.comma] pieces).foldlM (push? limit) ⟨stack, expects⟩ =
      some ⟨.object ((member :: members).foldl
        (fun sorted member => insertMember member.1 member.2 sorted) soFar) name :: stack,
          .separator⟩ := by
  induction members generalizing pieces member soFar expects with
  | nil =>
    obtain _ | ⟨reads, ⟨⟩⟩ := each
    exact ⟨member.1, foldlM_member reads enough admits⟩
  | cons next others inductionHypothesis =>
    obtain _ | ⟨reads, later⟩ := each
    obtain ⟨name, rest⟩ := inductionHypothesis later (Or.inl rfl)
    obtain _ | ⟨readsNext, laterStill⟩ := id later
    have first := foldlM_member reads enough admits
    refine ⟨name, ?_⟩
    simp only [joinWith, List.foldlM_append, List.foldlM_cons, List.foldlM_nil, first,
      Option.bind_eq_bind, Option.bind_some, push?]
    simpa using rest

/-- Where a value may stand, a token begins one, unless it ends an array. -/
private theorem push?_of_admits {token : Token} (admits : expects.AdmitsValue)
    (goesOn : token ≠ .closeArray) :
    push? limit ⟨stack, expects⟩ token = beginValue? limit stack token := by
  rcases admits with rfl | rfl
  · rfl
  · cases token <;> first | rfl | exact absurd rfl goesOn

private theorem reads_single {token : Token} (goesOn : token ≠ .closeArray)
    (single : ∀ stack, beginValue? limit stack token = some (deliver stack value)) :
    Reads limit room [token] value := by
  intro stack expects _ admits
  rw [List.foldlM_cons, push?_of_admits admits goesOn, single]
  rfl

private theorem reads_array {pieces : List (List Token)} {items : List Value}
    (each : List.Forall₂ (Reads limit (room - 1)) pieces items) (deep : 0 < room) :
    Reads limit room (.openArray :: joinWith [.comma] pieces ++ [.closeArray]) (.array items) := by
  intro stack expects enough admits
  have below : hasRoom limit stack.length = true := hasRoom_of_allows (enough.mono (by omega))
  have inside : Allows limit (stack.length + 1 + (room - 1)) := enough.mono (by omega)
  have opened : push? limit ⟨stack, expects⟩ .openArray =
      some ⟨.array [] :: stack, .firstItem⟩ := by
    rw [push?_of_admits admits (by decide)]
    exact if_pos below
  simp only [List.cons_append, List.foldlM_cons, opened, Option.bind_eq_bind, Option.bind_some]
  cases items with
  | nil =>
    obtain _ | _ := each
    rfl
  | cons item others =>
    have taken := foldlM_items each inside [] (Or.inr rfl)
    simp [List.foldlM_append, taken, push?]

private theorem reads_object {pieces : List (List Token)} {members : List (String × Value)}
    (each : List.Forall₂ (ReadsMember limit (room - 1)) pieces members) (deep : 0 < room) :
    Reads limit room (.openObject :: joinWith [.comma] pieces ++ [.closeObject])
      (.ofMembers members) := by
  intro stack expects enough admits
  have below : hasRoom limit stack.length = true := hasRoom_of_allows (enough.mono (by omega))
  have inside : Allows limit (stack.length + 1 + (room - 1)) := enough.mono (by omega)
  have opened : push? limit ⟨stack, expects⟩ .openObject = some ⟨stack, .firstName⟩ := by
    rw [push?_of_admits admits (by decide)]
    exact if_pos below
  simp only [List.cons_append, List.foldlM_cons, opened, Option.bind_eq_bind, Option.bind_some]
  cases members with
  | nil =>
    obtain _ | _ := each
    rfl
  | cons member others =>
    obtain ⟨name, taken⟩ := foldlM_members each inside (Or.inr ⟨rfl, rfl⟩)
    simp [List.foldlM_append, taken, push?, Value.ofMembers, sortMembers]

mutual

/-- The tokens of a value deliver it with the members of its objects sorted. -/
theorem reads_value {room : Nat} : (value : Value) → value.Fits room →
    Reads limit room value.tokens value.sorted
  | .null, _ => reads_single nofun fun _ => rfl
  | .boolean _, _ => reads_single nofun fun _ => rfl
  | .number _, _ => reads_single nofun fun _ => rfl
  | .text _, _ => reads_single nofun fun _ => rfl
  | .array items, fits => reads_array (reads_items items fits.2) fits.1
  | .object members, fits => reads_object (reads_members members fits.2) fits.1

/-- The tokens of each item are read as the item, sorted. -/
theorem reads_items {room : Nat} : (items : List Value) → Value.FitItems room items →
    List.Forall₂ (Reads limit room) (Value.itemTokens items) (Value.sortedItems items)
  | [], _ => .nil
  | item :: rest, fits => .cons (reads_value item fits.1) (reads_items rest fits.2)

/-- The tokens of each member are read as the member, its value sorted. -/
theorem reads_members {room : Nat} : (members : List (String × Value)) →
    Value.FitMembers room members →
    List.Forall₂ (ReadsMember limit room) (Value.memberTokens members) (Value.sortedMembers members)
  | [], _ => .nil
  | (_, value) :: rest, fits =>
    .cons ⟨_, rfl, reads_value value fits.1⟩ (reads_members rest fits.2)

end

/-- The tokens of a value that is not nested too deep for a reader are read as the value, with the
members of its objects sorted. -/
private theorem Value.ofTokens?_tokens (fits : value.Fits room) (allows : Allows limit room) :
    Value.ofTokens? limit value.tokens = some value.sorted := by
  have read := reads_value value fits [] .value (allows.mono (Nat.le_of_eq (Nat.zero_add _)))
    (Or.inl rfl)
  rw [Value.ofTokens?]
  exact congrArg (Option.bind · Reader.result?) read

/-- A value that is not nested too deep for a reader is read back from what is printed of it, with
the members of its objects sorted. -/
theorem Value.parseWithin?_compact (fits : value.Fits room) (allows : Allows limit room) :
    Value.parseWithin? limit value.compact = some value.sorted := by
  have cut : tokens? value.compact.toList = some value.tokens := by
    rw [Value.compact, String.toList_ofList]
    simpa using tokens?_compactChars fits (List.forall_mem_nil _)
  rw [Value.parseWithin?, cut, Option.bind_some, ofTokens?_tokens fits allows]

/-- The same of what is printed over several lines and ended with a line break. -/
theorem Value.parseWithin?_pretty (fits : value.Fits room) (allows : Allows limit room) :
    Value.parseWithin? limit (value.pretty ++ "\n") = some value.sorted := by
  have cut : tokens? (value.pretty ++ "\n").toList = some value.tokens := by
    rw [Value.pretty, String.toList_append, String.toList_ofList]
    exact tokens?_prettyChars fits (List.forall_mem_singleton.mpr rfl)
  rw [Value.parseWithin?, cut, Option.bind_some, ofTokens?_tokens fits allows]

/-- A value printed on one line is read back, with the members of its objects sorted. -/
theorem Value.ofBytesWithin?_compact (fits : value.Fits room) (allows : Allows limit room) :
    Value.ofBytesWithin? limit (Utf8.encode value.compact) = some value.sorted := by
  rw [Value.ofBytesWithin?, Utf8.decode?_encode, Option.bind_some, parseWithin?_compact fits allows]

/-- A value printed over several lines is read back, with the members of its objects sorted. -/
theorem Value.ofBytesWithin?_pretty (fits : value.Fits room) (allows : Allows limit room) :
    Value.ofBytesWithin? limit (Utf8.encode (value.pretty ++ "\n")) = some value.sorted := by
  rw [Value.ofBytesWithin?, Utf8.decode?_encode, Option.bind_some, parseWithin?_pretty fits allows]

/-- A value that is not nested too deep for this program is read back from its bytes. -/
theorem Value.ofBytes?_compact (fits : value.Fits depthLimit) :
    Value.ofBytes? (Utf8.encode value.compact) = some value.sorted := by
  have allows : Allows (some depthLimit) depthLimit := by
    rintro most ⟨⟩
    exact Nat.le_refl _
  exact ofBytesWithin?_compact fits allows

end BuildMonitor.Json
