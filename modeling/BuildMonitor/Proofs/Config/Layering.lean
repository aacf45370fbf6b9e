import BuildMonitor.Proofs.Config.Defaults
import BuildMonitor.Proofs.Config.FileLayer
import BuildMonitor.Proofs.Config.Variables
import BuildMonitor.Proofs.Host.Apart

/-!
# Layers of a configuration

A configuration is loaded from five layers that are merged as trees. Where the values in the
sections of the file and of the variables have no members of their own, that comes to a choice for
each setting by itself: the highest layer that has a value for it has the last word, whether the
value is of the right kind or not. `load_layered` says so, with all that can go wrong. Without the
condition it fails: a dictionary is merged with the one below it, not put in its place.

Main definitions: `IsLayer`, `winner?`. Main statement: `load_layered`.
-/

namespace BuildMonitor.Config

open BuildMonitor.Host BuildMonitor.Json BuildMonitor.Text

/-! ## Values without members -/

/-- Whether the value has members. -/
def Tree.isMapping : Tree → Bool
  | .mapping _ _ => true
  | _ => false

/-- No value among the members has members of its own. -/
def Flat (fields : List (String × Tree)) : Prop := ∀ field ∈ fields, field.2.isMapping = false

/-- A layer: a mapping whose sections, as far as they are there, are mappings under a condition. -/
def IsLayer (condition : List (String × Tree) → Prop) (tree : Tree) : Prop :=
  ∃ source members, tree = .mapping source members ∧ SectionsAre condition members

/-- The value of the variable is a dictionary, wherever it is read. -/
def IsDictionary (value : String) : Prop :=
  ∃ source ∈ [Source.environment, .prefixed], (treeOfVariable source value).isMapping = true

instance (value : String) : Decidable (IsDictionary value) :=
  inferInstanceAs (Decidable (∃ source ∈ _, _))

/-- Whether the section is a mapping of values without members. -/
def Tree.isFlat : Tree → Bool
  | .mapping _ fields => fields.all fun field => !field.2.isMapping
  | _ => false

instance (members : List (String × Tree)) : Decidable (SectionsAre Flat members) :=
  decidable_of_iff (∀ name ∈ sectionNames, ∀ held ∈ members.lookup name, held.isFlat = true) <| by
    refine forall₂_congr fun name _ => forall₂_congr fun held _ => ?_
    cases held <;> simp [Tree.isFlat, Flat]

instance : DecidablePred (IsLayer Flat)
  | .scalar _ _ => isFalse nofun
  | .sequence _ _ => isFalse nofun
  | .mapping source members =>
    decidable_of_iff (SectionsAre Flat members)
      ⟨fun are => ⟨source, members, rfl, are⟩,
        fun ⟨_, _, same, are⟩ => (Tree.mapping.inj same).2 ▸ are⟩

variable {lower upper tree : Tree} {fields others members : List (String × Tree)}
  {condition : List (String × Tree) → Prop} {name field : String} {source : Source}

/-- A value without members takes the place of whatever it is laid over. -/
theorem Tree.merge_of_not_mapping (plain : upper.isMapping = false) (lower : Tree) :
    lower.merge upper = upper := by
  cases upper with
  | scalar => rw [merge]; exact nofun
  | sequence => rw [merge]; exact nofun
  | mapping => cases plain

/-- What is found among values without members has none. -/
theorem Flat.lookup (flat : Flat fields) (found : fields.lookup name = some tree) :
    tree.isMapping = false :=
  flat _ (mem_of_lookup_eq_some found)

/-- Over other members, those without members of their own are put in their place. -/
theorem lookup_mergeMembers_of_flat (flat : Flat others) (fields : List (String × Tree))
    (name : String) :
    (Tree.mergeMembers fields others).lookup name =
      (others.lookup name).or (fields.lookup name) := by
  rw [Tree.lookup_mergeMembers]
  cases found : others.lookup name with
  | none => rfl
  | some value =>
    cases fields.lookup name with
    | none => rfl
    | some held => exact congrArg some (Tree.merge_of_not_mapping (flat.lookup found) held)

/-- Values without members stay so when others are laid over them. -/
theorem Flat.mergeMembers (flat : Flat fields) (flat' : Flat others) :
    Flat (Tree.mergeMembers fields others) := by
  induction others with
  | nil => rwa [Tree.mergeMembers]
  | cons member rest inductionHypothesis =>
    obtain ⟨first, value⟩ := member
    obtain ⟨plain, flatRest⟩ := List.forall_mem_cons.mp flat'
    rw [Tree.mergeMembers]
    intro set found
    rcases mem_insertMember found with rfl | kept
    · cases fields.lookup first with
      | none => exact plain
      | some held =>
        dsimp only
        rw [Tree.merge_of_not_mapping plain held]
        exact plain
    · exact inductionHypothesis flatRest set kept

/-! ## Layers over layers -/

/-- What a layer has for a field is put over what is below it. -/
theorem get?_merge (known : name ∈ sectionNames) (isLower : IsLayer condition lower)
    (isUpper : IsLayer Flat upper) (field : String) :
    (lower.merge upper).get? [name, field] =
      (upper.get? [name, field]).or (lower.get? [name, field]) := by
  obtain ⟨source, members, rfl, are⟩ := isLower
  obtain ⟨source', members', rfl, are'⟩ := isUpper
  rw [Tree.merge]
  simp only [Tree.get?, Tree.lookup_mergeMembers]
  cases there' : members'.lookup name with
  | none => rfl
  | some held' =>
    obtain ⟨_, fields', rfl, flat⟩ := are' name known held' there'
    cases there : members.lookup name with
    | none => exact (Option.or_none).symm
    | some held =>
      obtain ⟨_, fields, rfl, -⟩ := are name known held there
      simp only [Option.map_some, Option.getD_some, Option.bind_some, Tree.merge, Tree.get?,
        lookup_mergeMembers_of_flat flat]
      cases fields'.lookup field <;> rfl

/-- Flat layers make a flat layer. -/
theorem IsLayer.merge (isLower : IsLayer Flat lower) (isUpper : IsLayer Flat upper) :
    IsLayer Flat (lower.merge upper) := by
  obtain ⟨source, members, rfl, are⟩ := isLower
  obtain ⟨source', members', rfl, are'⟩ := isUpper
  refine ⟨source', Tree.mergeMembers members members', by rw [Tree.merge], ?_⟩
  intro name known merged found
  rw [Tree.lookup_mergeMembers] at found
  cases there' : members'.lookup name with
  | none => exact are name known merged (by simpa [there'] using found)
  | some held' =>
    obtain ⟨source', fields', rfl, flat'⟩ := are' name known held' there'
    rw [there'] at found
    obtain rfl := Option.some.inj found
    cases there : members.lookup name with
    | none => exact ⟨source', fields', rfl, flat'⟩
    | some held =>
      obtain ⟨_, fields, rfl, flat⟩ := are name known held there
      refine ⟨source', Tree.mergeMembers fields fields', ?_, flat.mergeMembers flat'⟩
      simp [Tree.merge]

/-- What is below all layers: a mapping that has every section, and each name once. -/
structure IsBase (members : List (String × Tree)) : Prop where
  ordered : Ordered members
  held : ∀ name ∈ sectionNames, ∃ source fields,
    members.lookup name = some (.mapping source fields) ∧ Ordered fields

/-- The sections of what is below all layers have each name once. -/
theorem IsBase.sectionsAre (base : IsBase members) : SectionsAre DistinctNames members := by
  intro name known held found
  obtain ⟨source, fields, there, ordered⟩ := base.held name known
  exact ⟨source, fields, Option.some.inj (found.symm.trans there), ordered.nodup⟩

/-- With a layer over it, it is still a base. -/
theorem IsBase.mergeMembers (base : IsBase members) (layer : SectionsAre Flat others) :
    IsBase (Tree.mergeMembers members others) where
  ordered := Tree.ordered_mergeMembers base.ordered others
  held := by
    intro name known
    obtain ⟨source, fields, there, ordered⟩ := base.held name known
    rw [Tree.lookup_mergeMembers, there]
    cases found : others.lookup name with
    | none => exact ⟨source, fields, rfl, ordered⟩
    | some value =>
      obtain ⟨source', fields', rfl, -⟩ := layer name known value found
      refine ⟨source', Tree.mergeMembers fields fields', ?_,
        Tree.ordered_mergeMembers ordered fields'⟩
      simp [Tree.merge]

/-- Of layers over a base, the highest that has a value for a field gives it. -/
theorem exists_foldl_merge (base : IsBase members) (source : Source) (layers : List Tree)
    (areLayers : ∀ layer ∈ layers, IsLayer Flat layer) :
    ∃ source' members', layers.foldl Tree.merge (.mapping source members) =
        .mapping source' members' ∧ IsBase members' ∧
      ∀ name ∈ sectionNames, ∀ field, (Tree.mapping source' members').get? [name, field] =
        (layers.reverse.findSome? (Tree.get? [name, field])).or
          ((Tree.mapping source members).get? [name, field]) := by
  induction layers generalizing source members with
  | nil => exact ⟨source, members, rfl, base, fun _ _ _ => rfl⟩
  | cons layer rest inductionHypothesis =>
    obtain ⟨isLayer, restAre⟩ := List.forall_mem_cons.mp areLayers
    obtain ⟨above, others, rfl, are⟩ := id isLayer
    obtain ⟨source', members', same, isBase, finds⟩ :=
      inductionHypothesis (base.mergeMembers are) above restAre
    refine ⟨source', members', by rw [List.foldl_cons, Tree.merge, same], isBase, ?_⟩
    intro name known field
    have isLower : IsLayer DistinctNames (.mapping source members) :=
      ⟨source, members, rfl, base.sectionsAre⟩
    have first := get?_merge known isLower isLayer field
    rw [Tree.merge] at first
    rw [finds name known field, first, List.reverse_cons, List.findSome?_append,
      List.findSome?_singleton, Option.or_assoc]

/-! ## Layers of variables -/

variable {environment : Environment} {key? : String → Option String} {one other : String}

/-- A value for one field is a layer. -/
theorem isLayer_nested (plain : tree.isMapping = false) (source : Source) (one other : String) :
    IsLayer Flat (.nested source [one, other] tree) := by
  refine ⟨source, [(one, .mapping source [(other, tree)])], rfl, fun name _ held found => ?_⟩
  rw [lookup_cons_eq_ite] at found
  split at found
  · obtain rfl := Option.some.inj found
    exact ⟨source, [(other, tree)], rfl, List.forall_mem_singleton.mpr plain⟩
  · cases found

/-- A value at the end of two names is found there and nowhere else. -/
theorem get?_nested (source : Source) (tree : Tree) (one other name field : String) :
    (Tree.nested source [one, other] tree).get? [name, field] =
      if [one, other] = [name, field] then some tree else none := by
  simp only [Tree.nested, Tree.get?, lookup_cons_eq_ite, List.lookup_nil, List.cons.injEq, and_true]
  by_cases sameName : name = one
  · subst sameName
    by_cases sameField : field = other
    · subst sameField
      simp [Tree.get?]
    · simp [Tree.get?, lookup_cons_eq_ite, sameField, Ne.symm sameField]
  · simp [sameName, Ne.symm sameName]

/-- Where each variable leads to a field or nowhere, the last that leads to a field gives its value.
-/
theorem variableLayer_spec (source : Source) (path? : String → Option (List String))
    (paths : ∀ name, (key? (trim name)).bind keyPath? = path? name)
    (leads : ∀ entry ∈ environment, path? entry.1 = none ∨
      ∃ one other, path? entry.1 = some [one, other])
    (plain : ∀ entry ∈ environment, (treeOfVariable source entry.2).isMapping = false) :
    IsLayer Flat (variableLayer source key? environment) ∧
      ∀ name ∈ sectionNames, ∀ field,
        (variableLayer source key? environment).get? [name, field] =
          (lastWhere? environment fun name' => path? name' = some [name, field]).map
            (treeOfVariable source) := by
  induction environment using List.reverseRecOn with
  | nil =>
    refine ⟨⟨source, [], rfl, fun _ _ _ found => ?_⟩, fun _ _ _ => rfl⟩
    cases found
  | append_singleton environment last inductionHypothesis =>
    obtain ⟨isLayer, finds⟩ := inductionHypothesis
      (fun entry found => leads entry (List.mem_append_left _ found))
      fun entry found => plain entry (List.mem_append_left _ found)
    have isPlain := plain last List.mem_concat_self
    rw [variableLayer, List.foldl_concat, ← variableLayer, paths]
    rcases leads last List.mem_concat_self with nowhere | ⟨one, other, path⟩
    · rw [nowhere]
      refine ⟨isLayer, fun name known field => ?_⟩
      rw [finds name known field, lastWhere?_concat, nowhere, if_neg (by simp)]
    · rw [path]
      have isUpper := isLayer_nested isPlain source one other
      refine ⟨isLayer.merge isUpper, fun name known field => ?_⟩
      rw [get?_merge known isLayer isUpper, finds name known field, get?_nested,
        lastWhere?_concat, path]
      by_cases same : [one, other] = [name, field]
      · simp [same]
      · simp only [same, Option.some.injEq, decide_false, Bool.false_eq_true, if_false,
          Option.none_or]

/-! ## The highest layer -/

/-- The name of the program's own variable for a setting, as names are compared. -/
def Setting.variableName (setting : Setting) : String :=
  variablePrefix ++ setting.section_ ++ "__" ++ setting.name

/-- The name of the other variable for a setting: the two directories of artifacts and the port of
the server have one, which is the name of the field. -/
def Setting.shortName? (setting : Setting) : Option String :=
  if setting.section_ = "artifacts" ∧ (setting.name = "output_dir" ∨ setting.name = "cache_dir") ∨
      setting.section_ = "server" ∧ setting.name = "port" then
    some setting.name
  else none

/-- The value that has the last word on a setting: that of the program's own variable if it is set,
else that of the other variable for it, else that of the file. If there is none, the default stands.
-/
def winner? (environment : Environment) (file : Tree) (setting : Setting) : Option Tree :=
  ((lastValue? environment setting.variableName).map (treeOfVariable .prefixed)).or
    (((setting.shortName?.bind (lastValue? environment)).map (treeOfVariable .environment)).or
      (setting.find? file))

variable {setting : Setting}

/-- The names of sections and fields are words. -/
theorem areNames_settings :
    ∀ setting ∈ settings .layered, AreNames setting.section_ setting.name := by
  decide +kernel

/-- Every setting is in one of the sections. -/
theorem section_mem_sectionNames {dialect : Dialect} (known : setting ∈ settings dialect) :
    setting.section_ ∈ sectionNames := by
  obtain ⟨section_, isSection, own⟩ := List.mem_flatMap.mp known
  obtain ⟨slot, -, rfl⟩ := List.mem_map.mp own
  exact Section.name_mem isSection

/-- Where the variables that lead to a field are those of one name, the last of them counts. -/
theorem lastWhere?_eq_lastValue? {path? : String → Option (List String)} {names : List String}
    (leads : ∀ entry ∈ environment, path? entry.1 = some names ↔ comparedName entry.1 = name) :
    (lastWhere? environment fun name => path? name = some names) = lastValue? environment name :=
  lastWhere?_congr fun entry found => decide_eq_decide.mpr (leads entry found)

/-- Where no variable leads to a setting, none has a say. -/
theorem lastWhere?_eq_none_of_ne {path? : String → Option (List String)} {names : List String}
    (apart : ∀ name, path? name ≠ some names) (environment : Environment) :
    (lastWhere? environment fun name => path? name = some names) = none :=
  lastWhere?_eq_none fun entry _ => decide_eq_false (apart entry.1)

/-- The variables with names of their own come to the one name that a setting has there. -/
theorem lastWhere?_short (environment : Environment) (setting : Setting) :
    (lastWhere? environment fun name =>
        portPath? name = some [setting.section_, setting.name]).or
      (lastWhere? environment fun name =>
        directoryPath? name = some [setting.section_, setting.name]) =
      setting.shortName?.bind (lastValue? environment) := by
  rw [Setting.shortName?]
  by_cases ofServer : setting.section_ = "server" ∧ setting.name = "port"
  · have apart : ¬ (setting.section_ = "artifacts" ∧
        (setting.name = "output_dir" ∨ setting.name = "cache_dir")) := by
      rw [ofServer.1]
      exact fun own => absurd own.1 (by decide)
    rw [if_pos (Or.inr ofServer), lastWhere?_eq_lastValue? fun entry _ =>
        portPath?_eq_some_iff.trans (and_iff_right ofServer),
      lastWhere?_eq_none_of_ne fun name leads => apart (directoryPath?_eq_some_iff.mp leads).1]
    exact Option.or_none
  · rw [lastWhere?_eq_none_of_ne fun name leads => ofServer (portPath?_eq_some_iff.mp leads).1,
      Option.none_or]
    by_cases ofArtifacts : setting.section_ = "artifacts" ∧
        (setting.name = "output_dir" ∨ setting.name = "cache_dir")
    · rw [if_pos (Or.inl ofArtifacts)]
      exact lastWhere?_eq_lastValue? fun entry _ =>
        directoryPath?_eq_some_iff.trans (and_iff_right ofArtifacts)
    · rw [if_neg (not_or.mpr ⟨ofArtifacts, ofServer⟩)]
      exact lastWhere?_eq_none_of_ne (fun name leads =>
        ofArtifacts (directoryPath?_eq_some_iff.mp leads).1) environment

/-! ## Everything laid over the defaults -/

variable {config : Config} {dialect : Dialect} {trees : List (String × Tree)} {file layer : Tree}

/-- What records a configuration still does so over nothing. -/
theorem Records.mergeMembers_nil (records : Records dialect trees config) :
    Records dialect (Tree.mergeMembers [] trees) config where
  ordered :=
    have empty : Ordered ([] : List (String × Tree)) := List.Pairwise.nil
    Tree.ordered_mergeMembers empty trees
  writes := by
    intro section_ known
    obtain ⟨fields, found, reads⟩ := records.writes section_ known
    exact ⟨fields, by rw [Tree.lookup_mergeMembers, found]; rfl, reads⟩

/-- What records a configuration has every section. -/
theorem Records.isBase (records : Records dialect trees config) : IsBase trees where
  ordered := records.ordered
  held := by
    intro name known
    obtain ⟨section_, isSection, rfl⟩ :=
      List.mem_map.mp (show name ∈ (sections dialect).map Section.name from known)
    obtain ⟨fields, found, ordered, -⟩ := records.writes section_ isSection
    exact ⟨.document, fields, found, ordered⟩

/-- What is recorded for a setting is read as its value. -/
theorem Records.exists_find? (records : Records dialect trees config) (source : Source)
    (known : setting ∈ settings dialect) :
    ∃ tree, setting.find? (.mapping source trees) = some tree ∧
      setting.read tree = .ok (setting.get config) := by
  obtain ⟨section_, isSection, own⟩ := List.mem_flatMap.mp known
  obtain ⟨slot, isSlot, rfl⟩ := List.mem_map.mp own
  obtain ⟨fields, found, -, reads⟩ := records.writes section_ isSection
  obtain ⟨scalar, there, read⟩ := reads slot isSlot
  refine ⟨_, ?_, read⟩
  simp [Setting.find?, Tree.get?, found, there]

/-- The variables of the program's own each name a field of a section. -/
def NamesFormed (environment : Environment) : Prop :=
  ∀ entry ∈ environment, variablePrefix.toList <+: (comparedName entry.1).toList →
    NamesSetting entry.1

/-- The program's own variables lead to a field of a section, or nowhere. -/
theorem leads_prefixedPath? (formed : NamesFormed environment) :
    ∀ entry ∈ environment, prefixedPath? entry.1 = none ∨
      ∃ one other, prefixedPath? entry.1 = some [one, other] := by
  intro entry found
  by_cases own : variablePrefix.toList <+: (comparedName entry.1).toList
  · exact prefixedPath?_of_namesSetting (formed entry found own)
  · exact Or.inl (prefixedPath?_eq_none own)

/-- The variables for directories lead to a field of a section, or nowhere. -/
theorem leads_directoryPath? (name : String) :
    directoryPath? name = none ∨ ∃ one other, directoryPath? name = some [one, other] := by
  rw [directoryPath?_eq]
  exact none_or_exists_path

/-- The variable for the port leads to a field of a section, or nowhere. -/
theorem leads_portPath? (name : String) :
    portPath? name = none ∨ ∃ one other, portPath? name = some [one, other] := by
  rw [portPath?_eq]
  exact none_or_exists_path

/-- In the layers laid over each other each setting has the value that has the last word on it, over
one that is read as its default. -/
theorem exists_overlay (isLayer : IsLayer Flat file) (formed : NamesFormed environment)
    (plain : ∀ entry ∈ environment, ¬ IsDictionary entry.2) :
    ∃ source members,
      overlay ([defaultLayer, file] ++ variableLayers environment) = .mapping source members ∧
      IsBase members ∧
      ∀ setting ∈ settings .layered, ∃ tree,
        setting.find? (.mapping source members) =
          (winner? environment file setting).or (some tree) ∧
        setting.read tree = .ok (setting.get Config.default) := by
  obtain ⟨trees, isDefault, records⟩ := exists_records fits_default .layered
  replace records := records.mergeMembers_nil
  have isPlain {source : Source} (reads : source ∈ [Source.environment, .prefixed]) :
      ∀ entry ∈ environment, (treeOfVariable source entry.2).isMapping = false :=
    fun entry found => Bool.eq_false_iff.mpr fun isMapping =>
      plain entry found ⟨source, reads, isMapping⟩
  obtain ⟨ownIsLayer, own⟩ := variableLayer_spec .prefixed prefixedPath? (fun _ => rfl)
    (leads_prefixedPath? formed) (isPlain (by simp))
  obtain ⟨directoryIsLayer, directory⟩ := variableLayer_spec .environment directoryPath?
    (fun _ => rfl) (fun entry _ => leads_directoryPath? entry.1) (isPlain (by simp))
  obtain ⟨portIsLayer, port⟩ := variableLayer_spec .environment portPath? (fun _ => rfl)
    (fun entry _ => leads_portPath? entry.1) (isPlain (by simp))
  obtain ⟨source, members, same, isBase, finds⟩ := exists_foldl_merge records.isBase .document
    (file :: variableLayers environment) (by
      rw [variableLayers]
      simp only [List.forall_mem_cons]
      exact ⟨isLayer, directoryIsLayer, portIsLayer, ownIsLayer, nofun⟩)
  refine ⟨source, members, ?_, isBase, fun setting known => ?_⟩
  · rw [overlay, List.cons_append, List.singleton_append, List.foldl_cons, defaultLayer, isDefault,
      Tree.merge, same]
  obtain ⟨tree, found, read⟩ := records.exists_find? .document known
  refine ⟨tree, ?_, read⟩
  have ofSections := section_mem_sectionNames known
  have ofOwn : (lastWhere? environment fun name =>
      prefixedPath? name = some [setting.section_, setting.name]) =
        lastValue? environment setting.variableName := lastWhere?_eq_lastValue? fun entry there =>
    prefixedPath?_eq_some_iff (areNames_settings setting known) (formed entry there)
  rw [Setting.find?] at found ⊢
  rw [finds _ ofSections, found, winner?, Setting.find?, ← ofOwn, ← lastWhere?_short,
    Option.map_or, ← own _ ofSections, ← directory _ ofSections, ← port _ ofSections]
  simp only [variableLayers, List.reverse_cons, List.reverse_nil, List.nil_append,
    List.findSome?_append, List.findSome?_singleton, Option.or_assoc]

/-- Over what is read as the default of a setting, finding nothing leaves the default. -/
theorem Setting.holds_or_iff (isDefault : setting.read tree = .ok (setting.get Config.default))
    (found : Option Tree) (config : Config) :
    setting.Holds (found.or (some tree)) config ↔ setting.Holds found config := by
  cases found with
  | some value => rfl
  | none =>
    rw [Option.none_or, Holds, Holds, isDefault]
    exact ⟨fun same => (Except.ok.inj same).symm, fun same => congrArg _ same.symm⟩

/-! ## Loading -/

/-- Each setting of the configuration is what has the last word on it. -/
def Layered (environment : Environment) (file : Tree) (config : Config) : Prop :=
  ∀ setting ∈ settings .layered, setting.Holds (winner? environment file setting) config

/-- What has the last word on the setting is of the wrong kind. -/
def Setting.Unfit (environment : Environment) (file : Tree) (setting : Setting) : Prop :=
  ∃ tree, winner? environment file setting = some tree ∧ ∀ value, setting.read tree ≠ .ok value

/-- The layers are read as the configuration in which each setting is what has the last word on it,
if that is of the right kind for all of them. -/
theorem decode_overlay (isLayer : IsLayer Flat file) (formed : NamesFormed environment)
    (plain : ∀ entry ∈ environment, ¬ IsDictionary entry.2) :
    (∀ config, decode .layered (overlay ([defaultLayer, file] ++ variableLayers environment)) =
        .ok config ↔ Layered environment file config) ∧
      ((∃ config, decode .layered (overlay ([defaultLayer, file] ++ variableLayers environment)) =
        .ok config) ↔ ¬ ∃ setting ∈ settings .layered, setting.Unfit environment file) := by
  obtain ⟨source, members, same, base, finds⟩ := exists_overlay isLayer formed plain
  rw [same]
  refine ⟨fun config => ?_, ?_⟩
  · refine (decode_eq_ok_iff base.ordered.nodup base.sectionsAre).trans
      (forall₂_congr fun setting known => ?_)
    obtain ⟨tree, found, isDefault⟩ := finds setting known
    rw [found]
    exact setting.holds_or_iff isDefault _ config
  · refine (exists_decode_iff base.ordered.nodup base.sectionsAre).trans ?_
    simp only [Setting.Unfit, not_exists, not_and, not_forall, not_not]
    refine forall₂_congr fun setting known => ?_
    obtain ⟨tree, found, isDefault⟩ := finds setting known
    rw [found]
    cases winner? environment file setting with
    | some value => rfl
    | none =>
      refine iff_of_true (fun default same => ?_) nofun
      obtain rfl := Option.some.inj same
      exact ⟨_, isDefault⟩

variable {host : Host} {given : Option String}

/-- What becomes of a reading: it is checked. -/
def checked (name : String) : Reading Config → Except LoadError Config
  | .error failure => .error (.unsuitable name failure)
  | .ok config =>
    match validate config with
    | .ok () => .ok config
    | .error cause => .error (.invalid cause)

/-- Loading lays the defaults, the file and the variables one over the other, reads the result and
checks it. -/
theorem load_eq (there : fileLayer? host (given.getD defaultFile) = some file) :
    load host environment given = checked (given.getD defaultFile)
      (decode .layered (overlay ([defaultLayer, file] ++ variableLayers environment))) := by
  rw [load, extract, there]
  dsimp only
  cases decode .layered (overlay ([defaultLayer, file] ++ variableLayers environment)) with
  | error failure => rfl
  | ok config =>
    simp only [checked, Except.mapError, bind, Except.bind]
    cases validate config <;> rfl

variable {read : Reading Config}

/-- A configuration comes out of the check exactly if it was read and is valid. -/
theorem checked_eq_ok_iff :
    checked name read = .ok config ↔ read = .ok config ∧ validate config = .ok () := by
  cases read with
  | error failure => exact iff_of_false nofun nofun
  | ok other =>
    rw [checked, Except.ok.injEq]
    cases valid : validate other with
    | ok =>
      rw [Except.ok.injEq]
      exact ⟨fun same => ⟨same, same ▸ valid⟩, And.left⟩
    | error cause =>
      refine iff_of_false nofun ?_
      rintro ⟨rfl, isValid⟩
      cases valid.symm.trans isValid

/-- The check reports something invalid exactly if a configuration was read and that is wrong with
it. -/
theorem checked_eq_invalid_iff {cause : Invalid} :
    checked name read = .error (.invalid cause) ↔
      ∃ config, read = .ok config ∧ validate config = .error cause := by
  cases read with
  | error failure => exact iff_of_false nofun nofun
  | ok other =>
    simp only [checked, Except.ok.injEq, exists_eq_left']
    cases validate other with
    | ok => exact iff_of_false nofun nofun
    | error => simp

/-- The check reports something unsuitable exactly if no configuration was read. -/
theorem exists_checked_eq_unsuitable_iff :
    (∃ file failure, checked name read = .error (.unsuitable file failure)) ↔
      ¬ ∃ config, read = .ok config := by
  cases read with
  | error failure => exact iff_of_true ⟨_, _, rfl⟩ nofun
  | ok other =>
    rw [checked]
    cases validate other <;> simp

/-- The check never reports a malformed file. -/
theorem checked_ne_malformed (file : String) : checked name read ≠ .error (.malformed file) := by
  cases read with
  | error failure => exact nofun
  | ok other =>
    rw [checked]
    cases validate other <;> exact nofun

/-- A configuration is loaded layer over layer. Whatever is in the file, if its sections have no
members with members of their own, and in the environment, if the program's own variables are named
for fields and no value is a dictionary, each setting is what has the last word on it, or its
default, and no other value matters. Loading fails if that is of the wrong kind for a setting, or if
the configuration makes no sense, and for no other reason. -/
theorem load_layered (host : Host) (environment : Environment) (given : Option String) (file : Tree)
    (told : FileSays host (given.getD defaultFile) file) (isLayer : IsLayer Flat file)
    (formed : NamesFormed environment)
    (plain : ∀ entry ∈ environment, ¬ IsDictionary entry.2) :
    (∀ config, load host environment given = .ok config ↔
      Layered environment file config ∧ validate config = .ok ()) ∧
    ((∃ name failure, load host environment given = .error (.unsuitable name failure)) ↔
      ∃ setting ∈ settings .layered, setting.Unfit environment file) ∧
    (∀ cause, load host environment given = .error (.invalid cause) ↔
      ∃ config, Layered environment file config ∧ validate config = .error cause) ∧
    ∀ name, load host environment given ≠ .error (.malformed name) := by
  obtain ⟨reads, exists_reads⟩ := decode_overlay isLayer formed plain
  rw [load_eq (fileLayer?_eq_some_iff.mpr told)]
  refine ⟨fun config => ?_, ?_, fun cause => ?_, fun name => checked_ne_malformed name⟩
  · rw [checked_eq_ok_iff, reads]
  · rw [exists_checked_eq_unsuitable_iff, exists_reads, not_not]
  · rw [checked_eq_invalid_iff]
    exact exists_congr fun config => and_congr_left' (reads config)

/-- The text of a configuration file with a port and a member that no setting has. -/
def portText : String := "server: \x7bport: 1, colour: red\x7d\n"

/-- A host with a configuration file in the directory above its working directory. -/
def hostWithFile : Host :=
  { Host.bare .system ["w"] ⟨0, 0⟩ with
    files := ⟨[(["w"], .directory ⟨0, 0⟩),
      ([defaultFile], .file ⟨.ofList (Utf8.encode portText), false, ⟨0, 0⟩⟩)]⟩ }

/-- What that file says. -/
def portTree : Tree :=
  .mapping (.file "/trivy-monitor.yaml") [("server", .mapping (.file "/trivy-monitor.yaml")
    [("colour", .scalar (.file "/trivy-monitor.yaml") (.text "red")),
      ("port", .scalar (.file "/trivy-monitor.yaml") (.natural 1))])]

private theorem document_portText :
    treeOfDocument? (.file "/trivy-monitor.yaml") portText = some portTree := by
  decide +kernel

private theorem pathIn_root : pathIn [] defaultFile = "/trivy-monitor.yaml" := by decide

private theorem namesInRoot_file : NamesInRoot "/trivy-monitor.yaml" defaultFile := by decide

/-- In the working directory there is no such file. -/
private theorem not_hasFile_working : ¬ HasFile hostWithFile defaultFile ["w"] := by
  have path : pathIn ["w"] defaultFile = "/w/trivy-monitor.yaml" := by decide
  have usable : Files.Usable "/w/trivy-monitor.yaml" := by decide
  have pieces : Files.walkPieces "/w/trivy-monitor.yaml" = ["w", defaultFile] := by decide
  have start : Files.startOf hostWithFile.directory "/w/trivy-monitor.yaml" = [] := by decide
  have missed : Files.Misses hostWithFile.files true Files.linkLimit
      (Files.startOf hostWithFile.directory "/w/trivy-monitor.yaml")
      (Files.walkPieces "/w/trivy-monitor.yaml") := by
    rw [pieces, start]
    exact .into (by decide) rfl (.missing (by decide) rfl)
  rw [HasFile, path, Files.isFile, Files.node_of_misses usable missed]
  exact Bool.false_ne_true

/-- The file above the working directory is the nearest. -/
private theorem nearestFile_hostWithFile : NearestFile hostWithFile defaultFile [] where
  onTheWay := List.nil_prefix
  there := by
    rw [HasFile, pathIn_root]
    exact namesInRoot_file.isFile_eq rfl
  nearest := by
    intro nearer onTheWay further
    have longest : nearer.length = hostWithFile.directory.length :=
      Nat.le_antisymm onTheWay.length_le further
    obtain rfl : nearer = ["w"] := onTheWay.eq_of_length longest
    exact not_hasFile_working

/-- The file is read as it is written. -/
private theorem fileSays_hostWithFile : FileSays hostWithFile defaultFile portTree := by
  have decoded : Utf8.decode? (Utf8.encode portText) = some portText := by decide +kernel
  have display : fileDisplay hostWithFile "/trivy-monitor.yaml" = "/trivy-monitor.yaml" := by
    decide
  have content : hostWithFile.readText (pathIn [] defaultFile) = .ok portText := by
    rw [pathIn_root]
    exact namesInRoot_file.readText_eq rfl decoded
  refine .document nearestFile_hostWithFile content ?_
  rw [pathIn_root, display]
  exact document_portText

private theorem isLayer_portTree : IsLayer Flat portTree := by decide

/-- The program's own variable for the port and the other one name settings, whatever their values.
-/
private theorem namesFormed_ports (own other : String) :
    NamesFormed [("Trivy_Monitor_Server__Port", own), ("PORT", other)] := by
  have isOwn : NamesSetting "Trivy_Monitor_Server__Port" := by
    refine ⟨"server".toList, "port".toList, ?_⟩
    decide +kernel
  have isOther : ¬ variablePrefix.toList <+: (comparedName "PORT").toList := by decide +kernel
  rw [NamesFormed, List.forall_mem_cons, List.forall_mem_singleton]
  exact ⟨fun _ => isOwn, fun ownName => absurd ownName isOther⟩

/-- The defaults with a port. -/
def withPort (port : Nat) : Config :=
  { Config.default with server := { Config.default.server with port := port } }

/-- A port in a file stands where no variable is set. The variable `PORT` stands over it, and the
program's own variable over both, a bad value below it or not; a bad value of its own is an error,
whatever lies below. Members that no setting has are passed over. -/
theorem load_layered_of_port_in_file :
    FileSays hostWithFile defaultFile portTree ∧ IsLayer Flat portTree ∧
    load hostWithFile [] none = .ok (withPort 1) ∧
    load hostWithFile [("PORT", "80")] none = .ok (withPort 80) ∧
    load hostWithFile [("Trivy_Monitor_Server__Port", "90"), ("PORT", "bad")] none =
      .ok (withPort 90) ∧
    ∃ name failure, load hostWithFile [("Trivy_Monitor_Server__Port", "bad"), ("PORT", "80")] none =
      .error (.unsuitable name failure) := by
  have told := fileSays_hostWithFile
  have isLayer := isLayer_portTree
  have loads (environment : Environment) (port : Nat) (formed : NamesFormed environment)
      (plain : ∀ entry ∈ environment, ¬ IsDictionary entry.2)
      (reads : decode .layered (overlay ([defaultLayer, portTree] ++
        variableLayers environment)) = .ok (withPort port))
      (valid : validate (withPort port) = .ok ()) :
      load hostWithFile environment none = .ok (withPort port) := by
    have layered := ((decode_overlay isLayer formed plain).1 (withPort port)).mp reads
    exact ((load_layered hostWithFile environment none portTree told isLayer formed plain).1
      (withPort port)).mpr ⟨layered, valid⟩
  refine ⟨told, isLayer, ?_, ?_, ?_, ?_⟩
  · exact loads [] 1 nofun nofun (by decide +kernel) rfl
  · exact loads _ 80 (List.forall_mem_cons.mp (namesFormed_ports "" "80")).2 (by decide +kernel)
      (by decide +kernel) rfl
  · exact loads _ 90 (namesFormed_ports _ _) (by decide +kernel) (by decide +kernel) rfl
  · have last : lastValue? [("Trivy_Monitor_Server__Port", "bad"), ("PORT", "80")]
        (variablePrefix ++ "server" ++ "__" ++ "port") = some "bad" := by decide +kernel
    have refused :
        (readNatural greatestPort "u16" (treeOfVariable .prefixed "bad")).toOption = none := by
      decide +kernel
    refine (load_layered hostWithFile _ none portTree told isLayer (namesFormed_ports _ _)
      (by decide +kernel)).2.1.mpr ?_
    refine ⟨⟨"server", "port", readNatural greatestPort "u16", fun config => config.server.port⟩,
      ?_, treeOfVariable .prefixed "bad", ?_, fun value same => ?_⟩
    · simp [settings, sections, Section.settings, serverSlots]
    · simp [winner?, Setting.variableName, last]
    · exact Option.some_ne_none _ ((congrArg Except.toOption same).symm.trans refused)

end BuildMonitor.Config
