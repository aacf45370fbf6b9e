import BuildMonitor.Proofs.Config.Fields

/-!
# Defaults, said twice

A field that a document does not have gets its default from the reader. The same defaults can be
written down as a document and laid under the other: they are the lowest layer of a configuration.
Both come to the same, for whatever the document has: `defaults_agree`. It rests on two facts. A
configuration is read back from the document that is written of it, and a value that is read as the
default of its field makes no difference under another: `Underlies`.

Main definitions: `Value.overlay`, `Underlies`, `Records`, `Fits`. Main statement: `defaults_agree`.
-/

namespace BuildMonitor

namespace Json.Value

mutual

/-- Lays one document over another: objects member by member, any other value replaces. -/
def overlay : (lower upper : Value) → Value
  | .object lower, .object upper => .object (overlayMembers lower upper)
  | _, upper => upper

/-- Lays the members of one object over those of another. -/
def overlayMembers (lower : List (String × Value)) :
    (upper : List (String × Value)) → List (String × Value)
  | [] => lower
  | (name, value) :: rest =>
    let laid := match lower.lookup name with
      | none => value
      | some held => overlay held value
    insertMember name laid (overlayMembers lower rest)

end

end Json.Value

namespace Config

open Json Text

/-! ## Documents as trees -/

/-- A member is put among others before or after the document is read as a tree. -/
theorem Tree.ofJsonMembers_insertMember (name : String) (value : Value)
    (members : List (String × Value)) :
    ofJsonMembers (insertMember name value members) =
      insertMember name (ofJson value) (ofJsonMembers members) := by
  induction members with
  | nil => rfl
  | cons member rest inductionHypothesis =>
    obtain ⟨first, held⟩ := member
    simp only [insertMember, ofJsonMembers]
    split
    · rfl
    split
    · rfl
    · rw [ofJsonMembers, inductionHypothesis]

mutual

/-- Documents laid over each other are the trees laid over each other. -/
theorem Tree.ofJson_overlay : (lower upper : Value) →
    ofJson (lower.overlay upper) = (ofJson lower).merge (ofJson upper)
  | .object lower, .object upper => by
    rw [Value.overlay, ofJson, Tree.ofJsonMembers_overlayMembers lower upper, ofJson, ofJson, merge]
  | .object _, .null | .object _, .boolean _ | .object _, .number (.natural _)
  | .object _, .number (.negative _) | .object _, .number (.floating _) | .object _, .text _
  | .object _, .array _ => by simp [Value.overlay, ofJson, merge]
  | .null, upper | .boolean _, upper | .number (.natural _), upper | .number (.negative _), upper
  | .number (.floating _), upper | .text _, upper | .array _, upper => by
    simp [Value.overlay, ofJson, merge]

/-- One document is laid over another before or after they are read as trees. -/
theorem Tree.ofJsonMembers_overlayMembers (lower : List (String × Value)) :
    (upper : List (String × Value)) →
      ofJsonMembers (Value.overlayMembers lower upper) =
        mergeMembers (ofJsonMembers lower) (ofJsonMembers upper)
  | [] => by rw [Value.overlayMembers, ofJsonMembers, mergeMembers]
  | (name, value) :: rest => by
    rw [Value.overlayMembers, ofJsonMembers_insertMember, ofJsonMembers, mergeMembers,
      Tree.ofJsonMembers_overlayMembers lower rest, lookup_ofJsonMembers]
    cases lower.lookup name with
    | none => rfl
    | some held => simp [Tree.ofJson_overlay held value]

end

/-- In every mapping the names differ. The items of sequences are no concern here. -/
inductive Tree.Proper : Tree → Prop where
  | scalar {source value} : Proper (.scalar source value)
  | sequence {source items} : Proper (.sequence source items)
  | mapping {source members} (distinct : DistinctNames members)
      (each : ∀ member ∈ members, Proper member.2) : Proper (.mapping source members)

/-- The members of the tree are those of the document. -/
theorem Tree.mem_ofJsonMembers {members : List (String × Value)} {member : String × Tree}
    (found : member ∈ ofJsonMembers members) : ∃ value, (member.1, value) ∈ members ∧
      member.2 = ofJson value := by
  induction members with
  | nil => cases found
  | cons first rest inductionHypothesis =>
    obtain ⟨name, held⟩ := first
    rw [ofJsonMembers, List.mem_cons] at found
    rcases found with rfl | found
    · exact ⟨held, List.mem_cons_self, rfl⟩
    · obtain ⟨value, there, same⟩ := inductionHypothesis found
      exact ⟨value, List.mem_cons_of_mem _ there, same⟩

mutual

/-- In a document that was read no name stands twice. -/
theorem Tree.proper_ofJson_sorted : (value : Value) → (ofJson value.sorted).Proper
  | .object members => by
    rw [Value.sorted, ofJson]
    refine .mapping ?_ fun member found => ?_
    · rw [DistinctNames, map_fst_ofJsonMembers]
      exact (ordered_sortMembers _).nodup
    · obtain ⟨value, there, same⟩ := mem_ofJsonMembers found
      rw [same]
      exact Tree.proper_of_mem_sortedMembers members _ (mem_of_mem_sortMembers there)
  | .array _ => .sequence
  | .null | .boolean _ | .number (.natural _) | .number (.negative _) | .number (.floating _)
  | .text _ => .scalar

/-- In what a document has sorted, names differ at every depth. -/
theorem Tree.proper_of_mem_sortedMembers : (members : List (String × Value)) →
    ∀ member ∈ Value.sortedMembers members, (ofJson member.2).Proper
  | [], _, found => by cases found
  | (name, value) :: rest, member, found => by
    rw [Value.sortedMembers, List.mem_cons] at found
    rcases found with rfl | found
    · exact Tree.proper_ofJson_sorted value
    · exact Tree.proper_of_mem_sortedMembers rest member found

end

/-! ## Values under others -/

variable {σ α : Type} {read : Tree → Reading α} {slots : List (Slot σ)} {before : σ}
  {lower : List (String × Tree)} {source : Source}

/-- The value makes no difference under another. -/
def Underlies (read : Tree → Reading α) (lower : Tree) : Prop :=
  ∀ upper : Tree, upper.Proper →
    ∀ value, read (lower.merge upper) = .ok value ↔ read upper = .ok value

/-- A value without members makes no difference under another. -/
theorem underlies_of_scalar (read : Tree → Reading α) (source : Source) (value : Scalar) :
    Underlies read (.scalar source value) := by
  intro upper _ _
  rw [Tree.merge]
  exact nofun

/-- Members that are read as the defaults of the fields make no difference under others. -/
theorem underlies_of_defaults (lawful : Lawful slots) (ordered : Ordered lower)
    (defaults : ∀ slot ∈ slots, ∃ tree, lower.lookup slot.name = some tree ∧
      slot.read tree = .ok (slot.get before) ∧ Underlies slot.read tree)
    (dialect : Dialect) (wanted : String) (source : Source) :
    Underlies (readSection dialect wanted (slots.map Slot.field) before)
      (.mapping source lower) := by
  rintro upper proper after
  cases proper with
  | scalar => rw [Tree.merge]; exact nofun
  | sequence => rw [Tree.merge]; exact nofun
  | @mapping source' members distinct each =>
    rw [Tree.merge]
    refine Iff.trans (readMembers_eq_ok_iff lawful (Tree.ordered_mergeMembers ordered _).nodup)
      (Iff.trans ?_ (readMembers_eq_ok_iff lawful distinct).symm)
    refine forall₂_congr fun slot known => ?_
    obtain ⟨tree, there, isDefault, underlies⟩ := defaults slot known
    rw [Tree.lookup_mergeMembers, there]
    cases found : members.lookup slot.name with
    | none =>
      rw [Slot.Holds, Slot.Holds, isDefault]
      exact ⟨fun same => (Except.ok.inj same).symm, fun same => congrArg _ same.symm⟩
    | some value => exact underlies value (each _ (mem_of_lookup_eq_some found)) _

/-! ## Configurations as documents -/

variable {members : List (String × Value)} {section_ : σ} {dialect : Dialect} {config : Config}

/-- The members say what is in the section: each field has a member that is read as its value. None
of them is an object or a list. -/
structure Writes (slots : List (Slot σ)) (members : List (String × Value)) (section_ : σ) :
    Prop where
  distinct : (members.map Prod.fst).Nodup
  reads : ∀ slot ∈ slots, ∃ value, members.lookup slot.name = some value ∧
    ∃ scalar, Tree.ofJson value = .scalar .document scalar ∧
      slot.read (.scalar .document scalar) = .ok (slot.get section_)

/-- The name of an alternative is read as that alternative. -/
theorem readAlternative_format (dialect : Dialect) (source : Source) (format : LogFormat) :
    readAlternative dialect "LogFormat" formatNames (.scalar source (.text format.name)) =
      .ok format := by
  cases format <;> rfl

/-- The name of a rotation is read as that rotation. -/
theorem readAlternative_rotation (dialect : Dialect) (source : Source) (rotation : Rotation) :
    readAlternative dialect "RotationPolicy" rotationNames (.scalar source (.text rotation.name)) =
      .ok rotation := by
  cases rotation <;> rfl

/-- A number within the limit is read as itself. -/
theorem readNatural_of_le {limit value : Nat} (small : value ≤ limit) (wanted : String)
    (source : Source) :
    readNatural limit wanted (.scalar source (.natural value)) = .ok value := by
  rw [readNatural, if_pos small]

/-- The members that say what is in a server section. -/
theorem writes_server {server : Server} (fits : server.port ≤ greatestPort) :
    Writes serverSlots
      [("host", .text server.host), ("port", .ofNat server.port),
       ("enable_cors", .boolean server.corsEnabled)] server where
  distinct := by simp
  reads := by
    simp [serverSlots, lookup_cons_eq_ite, Tree.ofJson, Value.ofNat, readText, readBoolean,
      readNatural_of_le fits]

/-- The members that say what is in a build section. -/
theorem writes_build {build : Build} (fits : build.maxLogLines ≤ maxUnsigned 64) :
    Writes buildSlots
      [("script_path", .text build.script),
       ("working_dir", .ofOption (build.workingDirectory.map .text)),
       ("lock_file", .text build.lockFile), ("log_file", .text build.logFile),
       ("max_log_lines", .ofNat build.maxLogLines)] build where
  distinct := by simp
  reads := by
    cases given : build.workingDirectory <;>
      simp [buildSlots, lookup_cons_eq_ite, Tree.ofJson, Value.ofNat, Value.ofOption, readPath,
        readText, readOptionalPath, Except.map, given, readNatural_of_le fits]

/-- The members that say what is in an artifacts section. -/
theorem writes_artifacts (artifacts : Artifacts) :
    Writes artifactsSlots
      [("output_dir", .text artifacts.outputDirectory),
       ("cache_dir", .text artifacts.cacheDirectory)] artifacts where
  distinct := by simp
  reads := by simp [artifactsSlots, lookup_cons_eq_ite, Tree.ofJson, readPath, readText]

/-- The members that say what is in a logging section. -/
theorem writes_logging (dialect : Dialect) (logging : Logging) :
    Writes (loggingSlots dialect)
      [("level", .text logging.level), ("format", .text logging.format.name),
       ("log_dir", .ofOption (logging.directory.map .text)),
       ("enable_stderr", .boolean logging.stderrEnabled),
       ("rotation", .text logging.rotation.name)] logging where
  distinct := by simp
  reads := by
    cases given : logging.directory <;>
      simp [loggingSlots, lookup_cons_eq_ite, Tree.ofJson, Value.ofOption, readPath, readText,
        readBoolean, readOptionalPath, Except.map, given, readAlternative_format,
        readAlternative_rotation]

/-- An object with members of different names is a mapping in which each name stands for the
same. -/
theorem Tree.exists_ofJson_ofMembers (members : List (String × Value))
    (distinct : (members.map Prod.fst).Nodup) :
    ∃ fields, ofJson (.ofMembers members) = .mapping .document fields ∧ Ordered fields ∧
      ∀ name, fields.lookup name = (members.lookup name).map ofJson := by
  refine ⟨ofJsonMembers (sortMembers members), by rw [Value.ofMembers, ofJson], ?_, fun name => ?_⟩
  · rw [Ordered, map_fst_ofJsonMembers]
    exact ordered_sortMembers members
  · rw [lookup_ofJsonMembers, lookup_sortMembers distinct]

/-- The mapping has a section for each of the configuration's, and in it, for each field, what is
read as its value. -/
structure Records (dialect : Dialect) (members : List (String × Tree)) (config : Config) :
    Prop where
  ordered : Ordered members
  writes : ∀ section_ ∈ sections dialect, ∃ fields,
    members.lookup section_.name = some (.mapping .document fields) ∧ Ordered fields ∧
      ∀ slot ∈ section_.slots, ∃ scalar,
        fields.lookup slot.name = some (.scalar .document scalar) ∧
          slot.read (.scalar .document scalar) = .ok (slot.get (section_.get config))

/-- The numbers of a configuration are no greater than the program can hold. -/
structure Fits (config : Config) : Prop where
  port : config.server.port ≤ greatestPort
  maxLogLines : config.build.maxLogLines ≤ maxUnsigned 64

/-- Every section of a configuration is written. -/
private theorem exists_writes (fits : config.Fits) (dialect : Dialect) :
    ∀ section_ ∈ sections dialect, ∃ members,
      [("server", config.server.toJson), ("build", config.build.toJson),
        ("artifacts", config.artifacts.toJson), ("logging", config.logging.toJson)].lookup
          section_.name = some (.ofMembers members) ∧
        Writes section_.slots members (section_.get config) := by
  simp only [sections, List.forall_mem_cons]
  refine ⟨⟨_, rfl, writes_server fits.port⟩, ⟨_, rfl, writes_build fits.maxLogLines⟩,
    ⟨_, rfl, writes_artifacts _⟩, ⟨_, rfl, writes_logging dialect _⟩, List.forall_mem_nil _⟩

/-- The document of a configuration records it. -/
theorem exists_records (fits : config.Fits) (dialect : Dialect) :
    ∃ members, Tree.ofJson config.toJson = .mapping .document members ∧
      Records dialect members config := by
  obtain ⟨members, tree, ordered, lookup⟩ := Tree.exists_ofJson_ofMembers
    [("server", config.server.toJson), ("build", config.build.toJson),
      ("artifacts", config.artifacts.toJson), ("logging", config.logging.toJson)] (by simp)
  refine ⟨members, tree, ordered, fun section_ known => ?_⟩
  obtain ⟨written, found, writes⟩ := exists_writes fits dialect section_ known
  obtain ⟨fields, tree, ordered, lookupField⟩ := Tree.exists_ofJson_ofMembers _ writes.distinct
  refine ⟨fields, ?_, ordered, fun slot own => ?_⟩
  · rw [lookup, found, Option.map_some, tree]
  · obtain ⟨value, found, scalar, same, reads⟩ := writes.reads slot own
    exact ⟨scalar, by rw [lookupField, found, Option.map_some, same], reads⟩

/-! ## What is recorded -/

variable {trees : List (String × Tree)}

/-- A section that is recorded is read back. -/
theorem Records.read_asSlot (records : Records dialect trees config) :
    ∀ section_ ∈ sections dialect, ∃ fields,
      trees.lookup section_.name = some (.mapping .document fields) ∧
        (section_.asSlot dialect).read (.mapping .document fields) =
          .ok (section_.get config) := by
  intro section_ known
  obtain ⟨fields, found, ordered, reads⟩ := records.writes section_ known
  refine ⟨fields, found, (readMembers_eq_ok_iff (lawful_slots dialect section_ known)
    ordered.nodup).mpr fun slot own => ?_⟩
  obtain ⟨scalar, there, read⟩ := reads slot own
  rw [there]
  exact read

/-- A configuration that is recorded is read back. -/
theorem Records.decode_eq (records : Records dialect trees config) :
    decode dialect (.mapping source trees) = .ok config := by
  refine (readMembers_eq_ok_iff (lawful_sections dialect) records.ordered.nodup).mpr ?_
  rw [List.forall_mem_map]
  intro section_ known
  obtain ⟨fields, found, read⟩ := records.read_asSlot section_ known
  rw [Section.asSlot, found]
  exact read

/-- The defaults, where they are recorded, make no difference under a document. -/
theorem Records.underlies (records : Records dialect trees Config.default) :
    Underlies (decode dialect) (.mapping source trees) := by
  refine underlies_of_defaults (lawful_sections dialect) records.ordered ?_ dialect "struct Config"
    source
  rw [List.forall_mem_map]
  intro section_ known
  obtain ⟨fields, found, read⟩ := records.read_asSlot section_ known
  refine ⟨_, found, read, ?_⟩
  obtain ⟨fields', found', ordered, reads⟩ := records.writes section_ known
  obtain rfl : fields = fields' := by simpa using found.symm.trans found'
  refine underlies_of_defaults (lawful_slots dialect section_ known) ordered (fun slot own => ?_)
    dialect section_.wanted .document
  obtain ⟨scalar, there, read⟩ := reads slot own
  exact ⟨_, there, read, underlies_of_scalar slot.read .document scalar⟩

/-- Readings that succeed with the same values succeed and fail together. -/
theorem toOption_eq_of_iff {first second : Reading α}
    (same : ∀ value, first = .ok value ↔ second = .ok value) :
    first.toOption = second.toOption := by
  cases second with
  | ok value => rw [(same value).mpr rfl]
  | error failure =>
    cases first with
    | ok value => cases (same value).mp rfl
    | error failure => rfl

/-- The defaults are within what the program can hold. -/
theorem fits_default : Config.default.Fits where
  port := by decide
  maxLogLines := by decide

/-- What a document leaves out can as well be laid under it: the reader's own defaults and the
document of the default configuration never differ, whatever members the document has and of
whatever kind they are. Every configuration is read back from its own document, and an empty object
is read as the defaults. -/
theorem defaults_agree (dialect : Dialect) :
    (∀ members, let given := (Value.object members).sorted
      (decode dialect (.ofJson given)).toOption =
        (decode dialect (.ofJson (Config.default.toJson.overlay given))).toOption) ∧
    (∀ config : Config, config.Fits → decode dialect (.ofJson config.toJson) = .ok config) ∧
    decode dialect (.ofJson (.object [])) = .ok Config.default := by
  refine ⟨fun members => ?_, fun config fits => ?_, rfl⟩
  · obtain ⟨trees, tree, records⟩ := exists_records fits_default dialect
    intro given
    rw [Tree.ofJson_overlay, tree]
    exact toOption_eq_of_iff fun value =>
      (records.underlies _ (Tree.proper_ofJson_sorted (.object members)) value).symm
  · obtain ⟨trees, tree, records⟩ := exists_records fits dialect
    rw [tree]
    exact records.decode_eq

/-- The greatest numbers that fit are read back. -/
theorem defaults_agree_of_greatest :
    let greatest : Config :=
      { Config.default with
        server := ⟨"::1", 65535, false⟩
        build := ⟨"build", some "/srv", "lock", "log", 2 ^ 64 - 1⟩ }
    greatest.Fits ∧ decode .document (.ofJson greatest.toJson) = .ok greatest :=
  have fits : Fits { Config.default with
      server := ⟨"::1", 65535, false⟩
      build := ⟨"build", some "/srv", "lock", "log", 2 ^ 64 - 1⟩ } := ⟨by decide, by decide⟩
  ⟨fits, (defaults_agree .document).2.1 _ fits⟩

end Config

end BuildMonitor
