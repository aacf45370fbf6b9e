import BuildMonitor.Config.Decode
import BuildMonitor.Proofs.Config.Members

/-!
# The fields of a configuration

A field is read, put and kept. The fields of a section do not touch each other, and a section is no
more than its fields; so reading members settles each field by what its own name stands for,
whatever else is there: `readMembers_eq_ok_iff`. A configuration is in the same way the values of
its *settings*, each a field of a section: `decode_eq_ok_iff`.

Main definitions: `Slot`, `Lawful`, `Slot.Holds`, `Setting`, `settings`.
-/

namespace BuildMonitor.Config

open BuildMonitor.Json BuildMonitor.Text

/-! ## Fields that are kept apart -/

/-- A field of a section: its name, how a value for it is read, how one is put into the section, and
how it is got from there. -/
structure Slot (σ : Type) where
  name : String
  {α : Type}
  read : Tree → Reading α
  put : α → σ → σ
  get : σ → α

/-- The field as it is read. -/
def Slot.field {σ : Type} (slot : Slot σ) : Field σ := Config.field slot.name slot.read slot.put

/-- The fields have names of their own, what is put into one is got from it and from no other, and
sections with the same fields are the same. -/
structure Lawful {σ : Type} (slots : List (Slot σ)) : Prop where
  distinct : (slots.map Slot.name).Nodup
  get_put : ∀ slot ∈ slots, ∀ value section_, slot.get (slot.put value section_) = value
  get_put_of_ne : ∀ slot ∈ slots, ∀ other ∈ slots, other.name ≠ slot.name →
    ∀ value section_, other.get (slot.put value section_) = other.get section_
  ext : ∀ first second, (∀ slot ∈ slots, slot.get first = slot.get second) → first = second

/-- The field has the value that is read of what was found for it; where nothing was found, it has
the value that it had. -/
def Slot.Holds {σ : Type} (slot : Slot σ) (found : Option Tree) (before after : σ) : Prop :=
  match found with
  | some tree => slot.read tree = .ok (slot.get after)
  | none => slot.get after = slot.get before

variable {σ : Type} {slots : List (Slot σ)} {slot own : Slot σ} {before after : σ}
  {members rest : List (String × Tree)} {tree : Tree} {name : String}

/-- A value of the right kind is put into the field, and any other ends the reading. -/
theorem readMembers_cons (found : slots.find? (·.name == name) = some own) (tree : Tree)
    (rest : List (String × Tree)) (before : σ) :
    readMembers (slots.map Slot.field) before ((name, tree) :: rest) =
      (under name (own.read tree)).bind fun value =>
        readMembers (slots.map Slot.field) (own.put value before) rest := by
  have isField : (slots.map Slot.field).find? (·.name == name) = some own.field := by
    rw [List.find?_map]
    exact congrArg _ found
  rw [readMembers, List.foldlM_cons, isField]
  cases read : own.read tree <;>
    simp [Slot.field, field, read, under, Except.map, Except.mapError, bind, Except.bind,
      readMembers]

/-- A name that is no field is passed over. -/
theorem readMembers_cons_of_none (unknown : slots.find? (·.name == name) = none) (tree : Tree)
    (rest : List (String × Tree)) (before : σ) :
    readMembers (slots.map Slot.field) before ((name, tree) :: rest) =
      readMembers (slots.map Slot.field) before rest := by
  have noField : (slots.map Slot.field).find? (·.name == name) = none := by
    rw [List.find?_map]
    exact congrArg _ unknown
  rw [readMembers, List.foldlM_cons, noField]
  rfl

/-- Reading the members of a mapping settles each field by what its name stands for there. -/
theorem readMembers_eq_ok_iff (lawful : Lawful slots) (distinct : (members.map Prod.fst).Nodup) :
    readMembers (slots.map Slot.field) before members = .ok after ↔
      ∀ slot ∈ slots, slot.Holds (members.lookup slot.name) before after := by
  induction members generalizing before with
  | nil =>
    refine ⟨fun read slot _ => ?_, fun holds => ?_⟩
    · cases read
      rfl
    · exact congrArg _ (lawful.ext _ _ fun slot known => (holds slot known).symm)
  | cons member rest inductionHypothesis =>
    obtain ⟨name, tree⟩ := member
    obtain ⟨absent, distinctRest⟩ := List.nodup_cons.mp distinct
    cases found : slots.find? (·.name == name) with
    | none =>
      rw [readMembers_cons_of_none found, inductionHypothesis distinctRest]
      refine forall₂_congr fun slot known => ?_
      have different : slot.name ≠ name := by simpa using List.find?_eq_none.mp found slot known
      rw [lookup_cons_eq_ite, if_neg different]
    | some own =>
      have ownKnown := List.mem_of_find?_eq_some found
      obtain rfl : own.name = name := by simpa using List.find?_some found
      rw [readMembers_cons found]
      cases read : own.read tree with
      | error failure =>
        refine ⟨nofun, fun holds => ?_⟩
        have ownHolds := holds own ownKnown
        rw [lookup_cons_eq_ite, if_pos rfl, Slot.Holds, read] at ownHolds
        cases ownHolds
      | ok value =>
        refine (inductionHypothesis distinctRest).trans (forall₂_congr fun slot known => ?_)
        rw [lookup_cons_eq_ite]
        by_cases same : slot.name = own.name
        · obtain rfl : slot = own := List.inj_on_of_nodup_map lawful.distinct known ownKnown same
          rw [if_pos rfl, lookup_eq_none_of_not_mem absent, Slot.Holds, Slot.Holds, read,
            lawful.get_put slot known]
          exact ⟨fun got => congrArg _ got.symm, fun got => (Except.ok.inj got).symm⟩
        · rw [if_neg same]
          cases rest.lookup slot.name with
          | none => rw [Slot.Holds, Slot.Holds, lawful.get_put_of_ne own ownKnown slot known same]
          | some other => rfl

/-- The reading ends well if every value that is found for a field is of the right kind. -/
theorem exists_readMembers_iff (lawful : Lawful slots) (distinct : (members.map Prod.fst).Nodup)
    (before : σ) :
    (∃ after, readMembers (slots.map Slot.field) before members = .ok after) ↔
      ∀ slot ∈ slots, ∀ tree, members.lookup slot.name = some tree →
        ∃ value, slot.read tree = .ok value := by
  constructor
  · rintro ⟨after, read⟩ slot known tree found
    have holds := (readMembers_eq_ok_iff lawful distinct).mp read slot known
    rw [found] at holds
    exact ⟨_, holds⟩
  · intro right
    induction members generalizing before with
    | nil => exact ⟨before, rfl⟩
    | cons member rest inductionHypothesis =>
      obtain ⟨name, tree⟩ := member
      obtain ⟨absent, distinctRest⟩ := List.nodup_cons.mp distinct
      have rightOfRest : ∀ slot ∈ slots, ∀ tree, rest.lookup slot.name = some tree →
          ∃ value, slot.read tree = .ok value := by
        intro slot known tree found
        refine right slot known tree ?_
        rw [lookup_cons_eq_ite, if_neg, found]
        rintro rfl
        rw [lookup_eq_none_of_not_mem absent] at found
        cases found
      cases found : slots.find? (·.name == name) with
      | none =>
        obtain ⟨after, read⟩ := inductionHypothesis distinctRest before rightOfRest
        exact ⟨after, (readMembers_cons_of_none found tree rest before).trans read⟩
      | some own =>
        obtain rfl : own.name = name := by simpa using List.find?_some found
        obtain ⟨value, read⟩ := right own (List.mem_of_find?_eq_some found) tree
          (by rw [lookup_cons_eq_ite, if_pos rfl])
        obtain ⟨after, readRest⟩ :=
          inductionHypothesis distinctRest (own.put value before) rightOfRest
        refine ⟨after, ?_⟩
        rw [readMembers_cons found, read]
        exact readRest

/-! ## The fields of each section -/

/-- The fields of the server section. -/
def serverSlots : List (Slot Server) :=
  [{ name := "host", read := readText "a string",
     put := fun value section_ => { section_ with host := value }, get := Server.host },
   { name := "port", read := readNatural greatestPort "u16",
     put := fun value section_ => { section_ with port := value }, get := Server.port },
   { name := "enable_cors", read := readBoolean,
     put := fun value section_ => { section_ with corsEnabled := value },
     get := Server.corsEnabled }]

/-- The fields of the build section. -/
def buildSlots : List (Slot Build) :=
  [{ name := "script_path", read := readPath,
     put := fun value section_ => { section_ with script := value }, get := Build.script },
   { name := "working_dir", read := readOptionalPath,
     put := fun value section_ => { section_ with workingDirectory := value },
     get := Build.workingDirectory },
   { name := "lock_file", read := readPath,
     put := fun value section_ => { section_ with lockFile := value }, get := Build.lockFile },
   { name := "log_file", read := readPath,
     put := fun value section_ => { section_ with logFile := value }, get := Build.logFile },
   { name := "max_log_lines", read := readNatural (maxUnsigned 64) "usize",
     put := fun value section_ => { section_ with maxLogLines := value },
     get := Build.maxLogLines }]

/-- The fields of the artifacts section. -/
def artifactsSlots : List (Slot Artifacts) :=
  [{ name := "output_dir", read := readPath,
     put := fun value section_ => { section_ with outputDirectory := value },
     get := Artifacts.outputDirectory },
   { name := "cache_dir", read := readPath,
     put := fun value section_ => { section_ with cacheDirectory := value },
     get := Artifacts.cacheDirectory }]

/-- The fields of the logging section. -/
def loggingSlots (dialect : Dialect) : List (Slot Logging) :=
  [{ name := "level", read := readText "a string",
     put := fun value section_ => { section_ with level := value }, get := Logging.level },
   { name := "format", read := readAlternative dialect "LogFormat" formatNames,
     put := fun value section_ => { section_ with format := value }, get := Logging.format },
   { name := "log_dir", read := readOptionalPath,
     put := fun value section_ => { section_ with directory := value }, get := Logging.directory },
   { name := "enable_stderr", read := readBoolean,
     put := fun value section_ => { section_ with stderrEnabled := value },
     get := Logging.stderrEnabled },
   { name := "rotation", read := readAlternative dialect "RotationPolicy" rotationNames,
     put := fun value section_ => { section_ with rotation := value },
     get := Logging.rotation }]

/-- The fields of the server section are apart and make it up. -/
theorem lawful_serverSlots : Lawful serverSlots where
  distinct := by decide
  get_put := by simp [serverSlots]
  get_put_of_ne := by simp [serverSlots]
  ext := by
    rintro ⟨⟩ ⟨⟩ same
    simpa [serverSlots] using same

/-- The fields of the build section are apart and make it up. -/
theorem lawful_buildSlots : Lawful buildSlots where
  distinct := by decide
  get_put := by simp [buildSlots]
  get_put_of_ne := by simp [buildSlots]
  ext := by
    rintro ⟨⟩ ⟨⟩ same
    simpa [buildSlots] using same

/-- The fields of the artifacts section are apart and make it up. -/
theorem lawful_artifactsSlots : Lawful artifactsSlots where
  distinct := by decide
  get_put := by simp [artifactsSlots]
  get_put_of_ne := by simp [artifactsSlots]
  ext := by
    rintro ⟨⟩ ⟨⟩ same
    simpa [artifactsSlots] using same

/-- The fields of the logging section are apart and make it up. -/
theorem lawful_loggingSlots (dialect : Dialect) : Lawful (loggingSlots dialect) where
  distinct := by simp [loggingSlots]
  get_put := by simp [loggingSlots]
  get_put_of_ne := by simp [loggingSlots]
  ext := by
    rintro ⟨⟩ ⟨⟩ same
    simpa [loggingSlots] using same

/-! ## Settings -/

/-- A setting of a configuration: the names of its section and its field, how a value for it is
read, and what the configuration has for it. -/
structure Setting where
  section_ : String
  name : String
  {α : Type}
  read : Tree → Reading α
  get : Config → α

/-- The setting is what is read of the value that was found for it; where none was found, it has its
default. -/
def Setting.Holds (setting : Setting) (found : Option Tree) (config : Config) : Prop :=
  match found with
  | some tree => setting.read tree = .ok (setting.get config)
  | none => setting.get config = setting.get Config.default

/-- The value that a mapping has for a setting. -/
def Setting.find? (setting : Setting) (tree : Tree) : Option Tree :=
  tree.get? [setting.section_, setting.name]

/-- A section of a configuration: its name, the words for what is wanted there, its fields, and its
place in the configuration. -/
structure Section where
  name : String
  wanted : String
  {σ : Type}
  slots : List (Slot σ)
  put : σ → Config → Config
  get : Config → σ

/-- The section as a field of the configuration. -/
def Section.asSlot (dialect : Dialect) (section_ : Section) : Slot Config where
  name := section_.name
  read := readSection dialect section_.wanted (section_.slots.map Slot.field)
    (section_.get Config.default)
  put := section_.put
  get := section_.get

/-- The settings of a section are its fields. -/
def Section.settings (section_ : Section) : List Setting :=
  section_.slots.map fun slot =>
    ⟨section_.name, slot.name, slot.read, fun config => slot.get (section_.get config)⟩

/-- The sections of a configuration. -/
def sections (dialect : Dialect) : List Section :=
  [{ name := "server", wanted := "struct ServerConfig", slots := serverSlots,
     put := fun value config => { config with server := value }, get := Config.server },
   { name := "build", wanted := "struct BuildConfig", slots := buildSlots,
     put := fun value config => { config with build := value }, get := Config.build },
   { name := "artifacts", wanted := "struct ArtifactsConfig", slots := artifactsSlots,
     put := fun value config => { config with artifacts := value }, get := Config.artifacts },
   { name := "logging", wanted := "struct LoggingConfig", slots := loggingSlots dialect,
     put := fun value config => { config with logging := value }, get := Config.logging }]

/-- All settings of a configuration. -/
def settings (dialect : Dialect) : List Setting := (sections dialect).flatMap Section.settings

/-- The fields by which a configuration is read are its sections. -/
theorem map_field_sections (dialect : Dialect) :
    ((sections dialect).map (Section.asSlot dialect)).map Slot.field = configFields dialect := rfl

/-- The sections are apart and make up the configuration. -/
theorem lawful_sections (dialect : Dialect) :
    Lawful ((sections dialect).map (Section.asSlot dialect)) where
  distinct := by simp [sections, Section.asSlot]
  get_put := by simp [sections, Section.asSlot]
  get_put_of_ne := by simp [sections, Section.asSlot]
  ext := by
    rintro ⟨⟩ ⟨⟩ same
    simpa [sections, Section.asSlot] using same

/-- In every section the fields are apart and make it up. -/
theorem lawful_slots (dialect : Dialect) :
    ∀ section_ ∈ sections dialect, Lawful section_.slots := by
  simp [sections, lawful_serverSlots, lawful_buildSlots, lawful_artifactsSlots,
    lawful_loggingSlots]

/-! ## Reading a configuration -/

/-- The names of the sections. -/
def sectionNames : List String := ["server", "build", "artifacts", "logging"]

/-- The sections, as far as they are there, are mappings, and their members meet a condition. -/
def SectionsAre (condition : List (String × Tree) → Prop) (members : List (String × Tree)) : Prop :=
  ∀ name ∈ sectionNames, ∀ held, members.lookup name = some held →
    ∃ source fields, held = .mapping source fields ∧ condition fields

/-- The names of the members differ. -/
def DistinctNames (members : List (String × Tree)) : Prop := (members.map Prod.fst).Nodup

variable {dialect : Dialect} {config : Config} {section_ : Section} {source : Source}

/-- The names of the sections are the four that there are. -/
theorem Section.name_mem (known : section_ ∈ sections dialect) : section_.name ∈ sectionNames :=
  List.mem_map_of_mem (f := Section.name) known

/-- What a mapping has for a setting is looked up in the section, if that is there. -/
private theorem find?_eq (condition : SectionsAre DistinctNames members) (source : Source)
    (known : section_ ∈ sections dialect) :
    (∀ setting ∈ section_.settings, setting.find? (.mapping source members) = none) ∧
        members.lookup section_.name = none ∨
      ∃ source' fields, members.lookup section_.name = some (.mapping source' fields) ∧
        DistinctNames fields ∧
        ∀ setting ∈ section_.settings,
          setting.find? (.mapping source members) = fields.lookup setting.name := by
  cases found : members.lookup section_.name with
  | none =>
    refine Or.inl ⟨?_, rfl⟩
    rw [Section.settings, List.forall_mem_map]
    intro slot _
    simp [Setting.find?, Tree.get?, found]
  | some held =>
    obtain ⟨source', fields, rfl, distinct⟩ :=
      condition section_.name (Section.name_mem known) held found
    refine Or.inr ⟨source', fields, rfl, distinct, ?_⟩
    rw [Section.settings, List.forall_mem_map]
    intro slot _
    simp only [Setting.find?, Tree.get?, found, Option.bind_some]
    cases fields.lookup slot.name <;> rfl

/-- A section is what was found for it if each of its settings is. -/
private theorem holds_asSlot_iff (condition : SectionsAre DistinctNames members) (source : Source)
    (known : section_ ∈ sections dialect) (config : Config) :
    (section_.asSlot dialect).Holds (members.lookup section_.name) Config.default config ↔
      ∀ setting ∈ section_.settings,
        setting.Holds (setting.find? (.mapping source members)) config := by
  have lawful := lawful_slots dialect section_ known
  obtain ⟨missing, found⟩ | ⟨source', fields, found, distinct, there⟩ :=
    find?_eq condition source known
  · rw [found, forall₂_congr fun setting own => by rw [missing setting own]]
    rw [Section.settings, List.forall_mem_map]
    exact ⟨fun same slot _ => congrArg slot.get same, fun same => lawful.ext _ _ same⟩
  · rw [found, forall₂_congr fun setting own => by rw [there setting own]]
    rw [Section.settings, List.forall_mem_map]
    exact readMembers_eq_ok_iff lawful distinct

/-- A mapping whose sections are mappings is read as the configuration in which each setting is what
the mapping has for it. -/
theorem decode_eq_ok_iff (distinct : DistinctNames members)
    (condition : SectionsAre DistinctNames members) :
    decode dialect (.mapping source members) = .ok config ↔
      ∀ setting ∈ settings dialect,
        setting.Holds (setting.find? (.mapping source members)) config := by
  rw [decode, readSection, ← map_field_sections]
  refine (readMembers_eq_ok_iff (lawful_sections dialect) distinct).trans ?_
  rw [List.forall_mem_map, settings, List.forall_mem_flatMap]
  exact forall₂_congr fun section_ known => holds_asSlot_iff condition source known config

/-- There is such a configuration if every value that the mapping has for a setting is of the right
kind. -/
theorem exists_decode_iff (distinct : DistinctNames members)
    (condition : SectionsAre DistinctNames members) :
    (∃ config, decode dialect (.mapping source members) = .ok config) ↔
      ∀ setting ∈ settings dialect, ∀ tree, setting.find? (.mapping source members) = some tree →
        ∃ value, setting.read tree = .ok value := by
  rw [decode, readSection, ← map_field_sections]
  refine (exists_readMembers_iff (lawful_sections dialect) distinct _).trans ?_
  rw [List.forall_mem_map, settings, List.forall_mem_flatMap]
  refine forall₂_congr fun section_ known => ?_
  obtain ⟨missing, found⟩ | ⟨source', fields, found, distinct, there⟩ :=
    find?_eq condition source known
  · refine iff_of_true (fun tree there => ?_) fun setting own tree there => ?_
    · cases found.symm.trans there
    · rw [missing setting own] at there
      cases there
  · have only : (∀ tree, members.lookup section_.name = some tree →
        ∃ value, (section_.asSlot dialect).read tree = .ok value) ↔
        ∃ after, readMembers (section_.slots.map Slot.field) (section_.get Config.default) fields =
          .ok after := by
      refine ⟨fun right => right _ found, fun right tree other => ?_⟩
      cases found.symm.trans other
      exact right
    refine only.trans ((exists_readMembers_iff (lawful_slots dialect section_ known) distinct
      _).trans ?_)
    rw [Section.settings, List.forall_mem_map] at there ⊢
    exact forall₂_congr fun slot own => by rw [there slot own]

end BuildMonitor.Config
