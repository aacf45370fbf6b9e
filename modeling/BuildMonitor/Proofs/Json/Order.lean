import BuildMonitor.Proofs.Config.Members
import BuildMonitor.Proofs.Json.Lexing

/-!
# Values in order

A value is in order if the members of each of its objects stand in rising order of their names, each
name once. Sorting brings a value into order and leaves one that is in order as it is:
`isSorted_sorted`, `sorted_eq_self`. Neither the depth nor the numbers of a value are changed by it,
and members of different names are found as before: `fits_sorted`, `member?_sorted`.

Main definitions: `Value.IsSorted`, `Value.IsWhole`, `Value.depth`.
-/

namespace BuildMonitor.Json

/-! ## Sorting members in order -/

section Members

variable {α : Type} {members : List (String × α)} {name : String} {value : α}

/-- A name above all others takes its place at the end. -/
theorem insertMember_of_above (above : ∀ member ∈ members, member.1 < name) :
    insertMember name value members = members ++ [(name, value)] := by
  induction members with
  | nil => rfl
  | cons first rest inductionHypothesis =>
    obtain ⟨firstBelow, restBelow⟩ := List.forall_mem_cons.mp above
    rw [insertMember, if_neg (ne_of_gt firstBelow), if_neg (not_lt_of_gt firstBelow),
      inductionHypothesis restBelow, List.cons_append]

/-- Members in order are left as they are. -/
theorem sortMembers_eq_self (ordered : Ordered members) : sortMembers members = members := by
  induction members using List.reverseRecOn with
  | nil => rfl
  | append_singleton earlier last inductionHypothesis =>
    rw [Ordered, List.map_append, List.pairwise_append] at ordered
    obtain ⟨risesEarlier, -, below⟩ := ordered
    rw [sortMembers, List.foldl_concat, ← sortMembers, inductionHypothesis risesEarlier]
    exact insertMember_of_above fun member found =>
      below member.1 (List.mem_map_of_mem found) last.1 (by simp)

end Members

namespace Value

/-! ## Values in order -/

mutual

/-- The members of every object stand in rising order of their names. -/
def IsSorted : Value → Prop
  | .array items => SortedItems items
  | .object members => Ordered members ∧ SortedMembers members
  | _ => True

/-- Each item is in order. -/
def SortedItems : List Value → Prop
  | [] => True
  | item :: rest => item.IsSorted ∧ SortedItems rest

/-- The value of each member is in order. -/
def SortedMembers : List (String × Value) → Prop
  | [] => True
  | (_, value) :: rest => value.IsSorted ∧ SortedMembers rest

end

/-- Members are in order if the value of each is. -/
theorem sortedMembers_iff {members : List (String × Value)} :
    SortedMembers members ↔ ∀ member ∈ members, member.2.IsSorted := by
  induction members with
  | nil => simp [SortedMembers]
  | cons member rest inductionHypothesis =>
    rw [SortedMembers, inductionHypothesis, List.forall_mem_cons]

mutual

/-- Sorting brings a value into order. -/
theorem isSorted_sorted : (value : Value) → value.sorted.IsSorted
  | .null | .boolean _ | .number _ | .text _ => trivial
  | .array items => sortedItems_sortedItems items
  | .object members =>
    ⟨ordered_sortMembers _, sortedMembers_iff.mpr fun member found =>
      sortedMembers_iff.mp (sortedMembers_sortedMembers members) member
        (mem_of_mem_sortMembers found)⟩

/-- Sorting brings each item in order. -/
theorem sortedItems_sortedItems : (items : List Value) → SortedItems (sortedItems items)
  | [] => trivial
  | item :: rest => ⟨isSorted_sorted item, sortedItems_sortedItems rest⟩

/-- Sorting brings the value of each member in order. -/
theorem sortedMembers_sortedMembers :
    (members : List (String × Value)) → SortedMembers (sortedMembers members)
  | [] => trivial
  | (_, value) :: rest => ⟨isSorted_sorted value, sortedMembers_sortedMembers rest⟩

end

mutual

/-- A value that is in order is left as it is. -/
theorem sorted_eq_self : (value : Value) → value.IsSorted → value.sorted = value
  | .null, _ | .boolean _, _ | .number _, _ | .text _, _ => rfl
  | .array items, isSorted => congrArg Value.array (sortedItems_eq_self items isSorted)
  | .object members, isSorted => by
    rw [sorted, sortedMembers_eq_self members isSorted.2, sortMembers_eq_self isSorted.1]

/-- Items that are in order are left as they are. -/
theorem sortedItems_eq_self : (items : List Value) → SortedItems items → sortedItems items = items
  | [], _ => rfl
  | item :: rest, isSorted => by
    rw [sortedItems, sorted_eq_self item isSorted.1, sortedItems_eq_self rest isSorted.2]

/-- Members whose values are in order are left as they are. -/
theorem sortedMembers_eq_self : (members : List (String × Value)) → SortedMembers members →
    sortedMembers members = members
  | [], _ => rfl
  | (name, value) :: rest, isSorted => by
    rw [sortedMembers, sorted_eq_self value isSorted.1, sortedMembers_eq_self rest isSorted.2]

end

/-! ## Depth and numbers -/

mutual

/-- All numbers are integers of 64 bits. -/
def IsWhole : Value → Prop
  | .number value => value.IsWhole
  | .array items => WholeItems items
  | .object members => WholeMembers members
  | _ => True

/-- All numbers of each item are. -/
def WholeItems : List Value → Prop
  | [] => True
  | item :: rest => item.IsWhole ∧ WholeItems rest

/-- All numbers in the value of each member are. -/
def WholeMembers : List (String × Value) → Prop
  | [] => True
  | (_, value) :: rest => value.IsWhole ∧ WholeMembers rest

end

mutual

/-- How many containers are nested at most. -/
def depth : Value → Nat
  | .array items => depthOfItems items + 1
  | .object members => depthOfMembers members + 1
  | _ => 0

/-- The depth of the deepest item. -/
def depthOfItems : List Value → Nat
  | [] => 0
  | item :: rest => max item.depth (depthOfItems rest)

/-- The depth of the deepest value of a member. -/
def depthOfMembers : List (String × Value) → Nat
  | [] => 0
  | (_, value) :: rest => max value.depth (depthOfMembers rest)

end

mutual

/-- What fits is what is not nested deeper than the room and has no numbers but integers. -/
theorem fits_of_depth_le {room : Nat} :
    (value : Value) → value.IsWhole → value.depth ≤ room → value.Fits room
  | .null, _, _ | .boolean _, _, _ | .text _, _, _ => trivial
  | .number _, whole, _ => whole
  | .array items, whole, shallow =>
    ⟨Nat.lt_of_lt_of_le (Nat.succ_pos _) shallow,
      fitItems_of_depth_le items whole (Nat.le_sub_of_add_le shallow)⟩
  | .object members, whole, shallow =>
    ⟨Nat.lt_of_lt_of_le (Nat.succ_pos _) shallow,
      fitMembers_of_depth_le members whole (Nat.le_sub_of_add_le shallow)⟩

/-- Items with whole numbers fit where there is room for the deepest. -/
theorem fitItems_of_depth_le {room : Nat} :
    (items : List Value) → WholeItems items → depthOfItems items ≤ room → FitItems room items
  | [], _, _ => trivial
  | item :: rest, whole, shallow =>
    ⟨fits_of_depth_le item whole.1 (Nat.max_le.mp shallow).1,
      fitItems_of_depth_le rest whole.2 (Nat.max_le.mp shallow).2⟩

/-- Members with whole numbers fit where there is room for the deepest value. -/
theorem fitMembers_of_depth_le {room : Nat} : (members : List (String × Value)) →
    WholeMembers members → depthOfMembers members ≤ room → FitMembers room members
  | [], _, _ => trivial
  | (_, value) :: rest, whole, shallow =>
    ⟨fits_of_depth_le value whole.1 (Nat.max_le.mp shallow).1,
      fitMembers_of_depth_le rest whole.2 (Nat.max_le.mp shallow).2⟩

end

/-- Members fit if the value of each does. -/
theorem fitMembers_iff {room : Nat} {members : List (String × Value)} :
    FitMembers room members ↔ ∀ member ∈ members, member.2.Fits room := by
  induction members with
  | nil => simp [FitMembers]
  | cons member rest inductionHypothesis =>
    rw [FitMembers, inductionHypothesis, List.forall_mem_cons]

mutual

/-- Sorting changes neither the depth nor the numbers. -/
theorem fits_sorted {room : Nat} : (value : Value) → value.Fits room → value.sorted.Fits room
  | .null, _ | .boolean _, _ | .text _, _ => trivial
  | .number _, fits => fits
  | .array items, fits => ⟨fits.1, fitItems_sortedItems items fits.2⟩
  | .object members, fits =>
    ⟨fits.1, fitMembers_iff.mpr fun member found =>
      fitMembers_iff.mp (fitMembers_sortedMembers members fits.2) member
        (mem_of_mem_sortMembers found)⟩

/-- Items that fit do so when they are sorted. -/
theorem fitItems_sortedItems {room : Nat} :
    (items : List Value) → FitItems room items → FitItems room (sortedItems items)
  | [], _ => trivial
  | item :: rest, fits => ⟨fits_sorted item fits.1, fitItems_sortedItems rest fits.2⟩

/-- Members that fit do so when their values are sorted. -/
theorem fitMembers_sortedMembers {room : Nat} : (members : List (String × Value)) →
    FitMembers room members → FitMembers room (sortedMembers members)
  | [], _ => trivial
  | (_, value) :: rest, fits => ⟨fits_sorted value fits.1, fitMembers_sortedMembers rest fits.2⟩

end

/-! ## Looking up members -/

/-- There is nothing to sort in null. -/
@[simp] theorem sorted_null : Value.null.sorted = .null := rfl

/-- There is nothing to sort in a truth value. -/
@[simp] theorem sorted_boolean (value : Bool) : (Value.boolean value).sorted = .boolean value := rfl

/-- There is nothing to sort in a number. -/
@[simp] theorem sorted_number (value : Number) : (Value.number value).sorted = .number value := rfl

/-- There is nothing to sort in a text. -/
@[simp] theorem sorted_text (value : String) : (Value.text value).sorted = .text value := rfl

/-- Of sorted values, the one with a name is the sorted one of that name. -/
theorem lookup_sortedMembers (members : List (String × Value)) (name : String) :
    (sortedMembers members).lookup name = (members.lookup name).map sorted := by
  induction members with
  | nil => rfl
  | cons member rest inductionHypothesis =>
    obtain ⟨first, value⟩ := member
    simp only [sortedMembers, lookup_cons_eq_ite, inductionHypothesis]
    split <;> rfl

/-- Sorting the values of members leaves their names where they are. -/
theorem map_fst_sortedMembers (members : List (String × Value)) :
    (sortedMembers members).map Prod.fst = members.map Prod.fst := by
  induction members with
  | nil => rfl
  | cons member rest inductionHypothesis =>
    obtain ⟨first, value⟩ := member
    rw [sortedMembers, List.map_cons, List.map_cons, inductionHypothesis]

/-- Members of different names are found after sorting as before, sorted themselves. -/
theorem member?_sorted {members : List (String × Value)}
    (distinct : (members.map Prod.fst).Nodup) (name : String) :
    (Value.object members).sorted.member? name = (members.lookup name).map sorted := by
  rw [sorted, member?, lookup_sortMembers (by rwa [map_fst_sortedMembers]), lookup_sortedMembers]

end Value

end BuildMonitor.Json
