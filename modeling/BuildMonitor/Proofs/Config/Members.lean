import Mathlib.Data.List.Induction
import Mathlib.Data.List.Nodup
import Mathlib.Data.String.Basic
import BuildMonitor.Config.Tree

/-!
# Members and their names

The members of a mapping are looked up by name. Setting one changes what its name stands for and
nothing else, and laying a mapping over another gives each name what it stands for in the upper one,
laid over what it stands for in the lower: `lookup_insertMember`, `lookup_mergeMembers`. Members in
rising order of their names stay so.

Main definition: `Ordered`.
-/

namespace BuildMonitor

variable {α : Type} {members : List (String × α)} {name : String} {value : α}

namespace Json

/-- The names rise, so none stands there twice. -/
def Ordered (members : List (String × α)) : Prop := (members.map Prod.fst).Pairwise (· < ·)

/-- Members in order have different names. -/
theorem Ordered.nodup (ordered : Ordered members) : (members.map Prod.fst).Nodup :=
  ordered.imp fun rises => ne_of_lt rises

/-- The first member is found under its name, and any other name is looked for in the rest. -/
theorem lookup_cons_eq_ite (member : String × α) (rest : List (String × α)) (name : String) :
    (member :: rest).lookup name = if name = member.1 then some member.2 else rest.lookup name := by
  rw [List.lookup_cons]
  by_cases same : name = member.1
  · rw [if_pos same, same, beq_self_eq_true]
  · rw [if_neg same, beq_eq_false_iff_ne.mpr same]

/-- A member that is put in is found under its name, and under other names what was there. -/
theorem lookup_insertMember (name other : String) (value : α) (members : List (String × α)) :
    (insertMember name value members).lookup other =
      if other = name then some value else members.lookup other := by
  induction members with
  | nil => simp [insertMember, lookup_cons_eq_ite]
  | cons member rest inductionHypothesis =>
    rw [insertMember]
    split
    · next replaces =>
      simp only [lookup_cons_eq_ite, replaces]
      split <;> rfl
    split
    · rw [lookup_cons_eq_ite]
    · next different _ =>
      simp only [lookup_cons_eq_ite, inductionHypothesis]
      split
      · next found =>
        rw [if_neg fun same => different (same.symm.trans found)]
      · rfl

/-- The names after setting a member. -/
theorem mem_insertMember {member : String × α} (set : member ∈ insertMember name value members) :
    member = (name, value) ∨ member ∈ members := by
  induction members with
  | nil => simpa [insertMember] using set
  | cons first rest inductionHypothesis =>
    rw [insertMember] at set
    split at set
    · simp only [List.mem_cons] at set ⊢
      exact set.imp_right Or.inr
    split at set
    · simpa using set
    · simp only [List.mem_cons] at set ⊢
      rcases set with held | later
      · exact Or.inr (Or.inl held)
      · exact (inductionHypothesis later).imp_right Or.inr

/-- Members stay in order when one is put in. -/
theorem Ordered.insertMember (ordered : Ordered members) (name : String) (value : α) :
    Ordered (insertMember name value members) := by
  induction members with
  | nil => exact List.pairwise_singleton _ _
  | cons first rest inductionHypothesis =>
    obtain ⟨head, tail⟩ := List.pairwise_cons.mp ordered
    rw [Json.insertMember]
    split
    · next same => subst same; exact List.pairwise_cons.mpr ⟨head, tail⟩
    split
    · next before =>
      refine List.pairwise_cons.mpr ⟨?_, ordered⟩
      intro later found
      rcases List.mem_cons.mp found with rfl | found
      · exact before
      · exact lt_trans before (head later found)
    · next different notBefore =>
      refine List.pairwise_cons.mpr ⟨?_, inductionHypothesis tail⟩
      intro later found
      obtain ⟨member, set, rfl⟩ := List.mem_map.mp found
      rcases mem_insertMember set with rfl | held
      · exact lt_of_le_of_ne (not_lt.mp notBefore) (Ne.symm different)
      · exact head _ (List.mem_map_of_mem held)

/-- A name that is none of the members' stands for nothing. -/
theorem lookup_eq_none_of_not_mem (absent : name ∉ members.map Prod.fst) :
    members.lookup name = none := by
  rw [List.lookup_eq_none_iff]
  intro member found
  exact bne_iff_ne.mpr fun same => absent (same ▸ List.mem_map_of_mem found)

/-- What is found is a member. -/
theorem mem_of_lookup_eq_some (found : members.lookup name = some value) :
    (name, value) ∈ members := by
  obtain ⟨before, behind, rfl, -⟩ := List.lookup_eq_some_iff.mp found
  exact List.mem_append_right _ List.mem_cons_self

/-! ## Sorted members -/

/-- Sorted members are in order. -/
theorem ordered_sortMembers (members : List (String × α)) : Ordered (sortMembers members) := by
  induction members using List.reverseRecOn with
  | nil => exact List.Pairwise.nil
  | append_singleton members member inductionHypothesis =>
    rw [sortMembers, List.foldl_concat]
    exact inductionHypothesis.insertMember _ _

/-- Sorting adds no members. -/
theorem mem_of_mem_sortMembers {member : String × α} (sorted : member ∈ sortMembers members) :
    member ∈ members := by
  induction members using List.reverseRecOn with
  | nil => exact sorted
  | append_singleton members last inductionHypothesis =>
    rw [sortMembers, List.foldl_concat] at sorted
    rcases mem_insertMember sorted with rfl | earlier
    · exact List.mem_concat_self
    · exact List.mem_append_left _ (inductionHypothesis earlier)

/-- Members of different names stand for the same after sorting. -/
theorem lookup_sortMembers (distinct : (members.map Prod.fst).Nodup) (name : String) :
    (sortMembers members).lookup name = members.lookup name := by
  induction members using List.reverseRecOn with
  | nil => rfl
  | append_singleton members last inductionHypothesis =>
    rw [List.map_append, List.nodup_append] at distinct
    obtain ⟨earlier, -, apart⟩ := distinct
    rw [sortMembers, List.foldl_concat, lookup_insertMember, List.lookup_append,
      ← inductionHypothesis earlier, ← sortMembers]
    split
    · next same =>
      have absent : name ∉ members.map Prod.fst := fun found =>
        apart name found last.1 (by simp) same
      rw [inductionHypothesis earlier, lookup_eq_none_of_not_mem absent, lookup_cons_eq_ite,
        if_pos same]
      rfl
    · next different =>
      rw [lookup_cons_eq_ite, if_neg different, List.lookup_nil, Option.or_none]

end Json

namespace Config.Tree

open Json

/-! ## Members as trees -/

/-- What is found in the tree of a document is the tree of what is found in the document. -/
theorem lookup_ofJsonMembers (members : List (String × Value)) (name : String) :
    (ofJsonMembers members).lookup name = (members.lookup name).map ofJson := by
  induction members with
  | nil => rfl
  | cons member rest inductionHypothesis =>
    obtain ⟨first, value⟩ := member
    simp only [ofJsonMembers, lookup_cons_eq_ite, inductionHypothesis]
    split <;> rfl

/-- A document keeps its names as a tree. -/
theorem map_fst_ofJsonMembers (members : List (String × Value)) :
    (ofJsonMembers members).map Prod.fst = members.map Prod.fst := by
  induction members with
  | nil => rfl
  | cons member rest inductionHypothesis =>
    obtain ⟨first, value⟩ := member
    rw [ofJsonMembers, List.map_cons, List.map_cons, inductionHypothesis]

/-! ## Members laid over others -/

variable {lower upper : List (String × Tree)}

/-- Under a name that the upper members have stands theirs, laid over what the lower ones have
there; any other name is left to the lower members. -/
theorem lookup_mergeMembers (lower upper : List (String × Tree)) (name : String) :
    (mergeMembers lower upper).lookup name =
      match upper.lookup name with
      | none => lower.lookup name
      | some value => some (((lower.lookup name).map (merge · value)).getD value) := by
  induction upper with
  | nil => simp [mergeMembers]
  | cons member rest inductionHypothesis =>
    obtain ⟨first, value⟩ := member
    rw [mergeMembers, lookup_insertMember, inductionHypothesis, lookup_cons_eq_ite]
    split
    · next same =>
      subst same
      cases lower.lookup name <;> rfl
    · rfl

/-- Members stay in order when others are laid over them. -/
theorem ordered_mergeMembers (ordered : Ordered lower) (upper : List (String × Tree)) :
    Ordered (mergeMembers lower upper) := by
  induction upper with
  | nil => rwa [mergeMembers]
  | cons member rest inductionHypothesis =>
    obtain ⟨first, value⟩ := member
    rw [mergeMembers]
    exact inductionHypothesis.insertMember _ _

end Config.Tree

end BuildMonitor
