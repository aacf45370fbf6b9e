import BuildMonitor.Proofs.Host.Paths

/-!
# Paths that are apart

A path *leads to* the places at which its walk stands with nothing left to walk. Two paths are
*apart* if no place is one that both lead to: they name different files, and neither is a link to
the other. Nothing that is done to what one of them names makes the other name something else, and
they stay apart: `node?_appendDurably`, `node?_removeDurably`, `Apart.of_stopsAt`.
-/

namespace BuildMonitor.Host

open Files

/-- What a path names, links followed. -/
def node? (host : Host) (path : String) : Option (Location × Node) :=
  (host.files.node host.directory path).toOption

/-- The walk along the path stands at the place with nothing left to walk. -/
def LeadsTo (host : Host) (path : String) (place : Location) : Prop :=
  Usable path ∧
    Ends host.files linkLimit (startOf host.directory path) (walkPieces path) place

/-- No place is one that both paths lead to. -/
def Apart (host : Host) (first second : String) : Prop :=
  ∀ place, host.LeadsTo first place → ¬ host.LeadsTo second place

variable {host changed : Host} {path other first second : String} {place : Location}
  {named : Location × Node} {bytes : List UInt8}

/-- A path names a node exactly if it can be walked and the walk comes to that node. -/
theorem node?_eq_some_iff : host.node? path = some named ↔
    Usable path ∧
      Reaches host.files true linkLimit (startOf host.directory path) (walkPieces path)
        (.found named.1 named.2) := by
  rw [← node_eq_ok_iff, node?]
  cases host.files.node host.directory path <;> simp [Except.toOption]

/-! ## Names in the root -/

/-- The path is one name, walked from the root. -/
structure NamesInRoot (path name : String) : Prop where
  usable : Usable path
  absolute : Path.isAbsolute path = true
  walks : walkPieces path = [name]
  walkable : Walkable name

instance (path name : String) : Decidable (NamesInRoot path name) :=
  decidable_of_iff
    (Usable path ∧ Path.isAbsolute path = true ∧ walkPieces path = [name] ∧ Walkable name)
    ⟨fun ⟨usable, absolute, walks, walkable⟩ => ⟨usable, absolute, walks, walkable⟩,
      fun named => ⟨named.usable, named.absolute, named.walks, named.walkable⟩⟩

/-- A name in the root that is no link leads to the place of that name and to no other. -/
theorem LeadsTo.eq_of_namesInRoot {name : String} (leads : host.LeadsTo path place)
    (named : NamesInRoot path name)
    (plain : ∀ target, host.files.get? [name] ≠ some (.link target)) :
    place = [name] := by
  obtain ⟨-, stands⟩ := leads
  rw [startOf, if_pos named.absolute, named.walks] at stands
  cases stands with
  | dot => exact absurd rfl named.walkable.notDot
  | up => exact absurd rfl named.walkable.notUp
  | last => rfl
  | into _ _ walked => cases walked; rfl
  | through _ held => exact absurd held (plain _)

/-- Two names in the root that are no links are apart. -/
theorem apart_of_namesInRoot {name name' : String} (named : NamesInRoot first name)
    (named' : NamesInRoot second name') (different : name ≠ name')
    (plain : ∀ target, host.files.get? [name] ≠ some (.link target))
    (plain' : ∀ target, host.files.get? [name'] ≠ some (.link target)) :
    host.Apart first second := by
  intro place leads leads'
  have same := leads.eq_of_namesInRoot named plain
  rw [leads'.eq_of_namesInRoot named' plain'] at same
  exact different (List.singleton_inj.mp same).symm

/-- A name in the root is resolved by a walk of one step. -/
theorem NamesInRoot.resolve_eq {name : String} {follow : Bool} {resolved : Resolved}
    (named : NamesInRoot path name)
    (reached : Reaches host.files follow linkLimit [] [name] resolved) :
    host.files.resolve host.directory follow path = .ok resolved := by
  refine resolve_eq_ok_iff.mpr ⟨named.usable, ?_⟩
  rwa [startOf, if_pos named.absolute, named.walks]

/-- A name in the root that is no link names what stands there. -/
theorem NamesInRoot.node?_eq {name : String} {node : Node} (named : NamesInRoot path name)
    (held : host.files.get? [name] = some node) (plain : ∀ target, node ≠ .link target) :
    host.node? path = some ([name], node) := by
  refine node?_eq_some_iff.mpr ⟨named.usable, ?_⟩
  rw [startOf, if_pos named.absolute, named.walks]
  cases node with
  | directory modified =>
    have stays : Reaches host.files true linkLimit [name] []
        (.found [name] ((host.files.get? [name]).getD (.directory default))) := .here
    rw [held] at stays
    exact .into named.walkable held stays
  | link target => exact absurd rfl (plain target)
  | file => exact .last named.walkable held rfl
  | device => exact .last named.walkable held rfl

/-- A file with a name in the root is named. -/
theorem NamesInRoot.node?_of_file {name : String} {file : RegularFile}
    (named : NamesInRoot path name) (held : host.files.get? [name] = some (.file file)) :
    host.node? path = some ([name], .file file) :=
  named.node?_eq held fun _ => nofun

/-- A link to a name in the root names what stands there, if that is a file. -/
theorem NamesInRoot.node?_of_link {name name' target : String} {file : RegularFile}
    (named : NamesInRoot path name) (link : host.files.get? [name] = some (.link target))
    (leads : NamesInRoot target name') (held : host.files.get? [name'] = some (.file file)) :
    host.node? path = some ([name'], .file file) := by
  refine node?_eq_some_iff.mpr ⟨named.usable, ?_⟩
  rw [startOf, if_pos named.absolute, named.walks]
  refine .through named.walkable link (Or.inr rfl) ?_
  rw [startOf, if_pos leads.absolute, leads.walks]
  exact .last leads.walkable held rfl

/-- A file with a name in the root is found there. -/
theorem NamesInRoot.isFile_eq {name : String} {file : RegularFile} (named : NamesInRoot path name)
    (held : host.files.get? [name] = some (.file file)) :
    host.files.isFile host.directory path = true := by
  obtain ⟨usable, reached⟩ := node?_eq_some_iff.mp (named.node?_of_file held)
  rw [isFile, node_eq_ok_iff.mpr ⟨usable, reached⟩]

/-- A free name in the root names nothing. -/
theorem NamesInRoot.node_eq {name : String} (named : NamesInRoot path name)
    (free : host.files.get? [name] = none) :
    host.files.node host.directory path = .error (.os .noEntry) := by
  have missed : Misses host.files true linkLimit (startOf host.directory path)
      (walkPieces path) := by
    rw [startOf, if_pos named.absolute, named.walks]
    exact .missing named.walkable free
  exact node_of_misses named.usable missed

/-- A free name in the root cannot be read. -/
theorem NamesInRoot.read_eq {name : String} (named : NamesInRoot path name)
    (free : host.files.get? [name] = none) : host.read path = .error (.os .noEntry) := by
  rw [Host.read, Files.read, named.node_eq free]
  rfl

/-! ## Reading -/

/-- What reading a node gives: the content of a file, and nothing of a device. -/
def Node.reading : Node → Except IoError Blob
  | .file held => .ok held.content
  | .directory _ => .error (.os .isDirectory)
  | .link _ | .device _ => .ok Blob.empty

/-- Reading a path that names a node reads the node. -/
theorem read_of_node? (names : host.node? path = some named) :
    host.read path = named.2.reading := by
  unfold node? at names
  cases led : host.files.node host.directory path with
  | error => rw [led] at names; cases names
  | ok other =>
    rw [led] at names
    cases names
    unfold Host.read Files.read
    rw [led]
    cases node : named.2 <;> simp only [Node.reading, node, bind, Except.bind] <;> rfl

/-- A path that names a file is read as the text that the file holds. -/
theorem readText_of_node? {text : String} {file : RegularFile}
    (names : host.node? path = some (place, .file file))
    (decoded : Text.Utf8.decode? file.content.toList = some text) :
    host.readText path = .ok text := by
  rw [Host.readText, read_of_node? names]
  simp only [Node.reading, decoded]

/-- A file with a name in the root is read as what it holds. -/
theorem NamesInRoot.read_of_file {name : String} {file : RegularFile}
    (named : NamesInRoot path name) (held : host.files.get? [name] = some (.file file)) :
    host.read path = .ok file.content :=
  read_of_node? (named.node?_of_file held)

/-- A file with a name in the root is read as the text that it holds. -/
theorem NamesInRoot.readText_eq {name text : String} {file : RegularFile}
    (named : NamesInRoot path name) (held : host.files.get? [name] = some (.file file))
    (decoded : Text.Utf8.decode? file.content.toList = some text) :
    host.readText path = .ok text :=
  readText_of_node? (named.node?_of_file held) decoded

/-! ## One place changed -/

/-- A host whose files differ at one place at most, and hold there nothing that a walk can go on
behind. -/
structure StopsAt (changed host : Host) (place : Location) : Prop where
  directory : changed.directory = host.directory
  files : Files.StopsAt changed.files host.files place

/-- A path that leads to a place after the change led there before it. -/
theorem LeadsTo.of_stopsAt {target : Location} (same : StopsAt changed host place)
    (leads : changed.LeadsTo path target) : host.LeadsTo path target := by
  obtain ⟨usable, stands⟩ := leads
  rw [same.directory] at stands
  exact ⟨usable, stands.of_stopsAt same.files⟩

/-- Paths that are apart stay apart. -/
theorem Apart.of_stopsAt (same : StopsAt changed host place) (apart : host.Apart first second) :
    changed.Apart first second :=
  fun target leads leads' => apart target (leads.of_stopsAt same) (leads'.of_stopsAt same)

/-- What a path names that does not lead to the place, it named before. -/
theorem node?_of_stopsAt (same : StopsAt changed host place) (away : ¬ host.LeadsTo path place)
    (names : changed.node? path = some named) : host.node? path = some named := by
  obtain ⟨usable, reached⟩ := node?_eq_some_iff.mp names
  have away' : ¬ changed.LeadsTo path place := fun leads => away (leads.of_stopsAt same)
  refine node?_eq_some_iff.mpr ⟨usable, ?_⟩
  rw [← same.directory]
  exact reached.of_stopsAt same.files fun stands => away' ⟨usable, stands⟩

/-! ## Operations on the durable log -/

/-- Only the files of a host are changed. -/
structure OnlyFiles (changed host : Host) : Prop where
  processes : changed.processes = host.processes
  directory : changed.directory = host.directory
  now : changed.now = host.now
  addresses : changed.addresses = host.addresses

/-- The host before an operation on the durable log, with the rest of the plan of faults. -/
theorem exists_nextFault (host : Host) :
    ∃ fault faults, host.nextFault = (fault, { host with faults := faults }) := by
  unfold nextFault
  split
  · exact ⟨_, host.faults, rfl⟩
  · exact ⟨_, _, rfl⟩

/-- A settled host holds the old files or those the operation gave. -/
private theorem settle_snd (host : Host) (faults : List Fault) (outcome : Except IoError Files) :
    OnlyFiles (Host.settle { host with faults := faults } outcome).2 host ∧
      ((Host.settle { host with faults := faults } outcome).2.files = host.files ∨
        outcome = .ok (Host.settle { host with faults := faults } outcome).2.files) := by
  cases outcome with
  | ok files => exact ⟨⟨rfl, rfl, rfl, rfl⟩, Or.inr rfl⟩
  | error => exact ⟨⟨rfl, rfl, rfl, rfl⟩, Or.inl rfl⟩

/-- Adding to the durable log changes the files only, by adding bytes at the end of the log. -/
theorem appendDurably_snd (host : Host) (path : String) (bytes : List UInt8) :
    OnlyFiles (host.appendDurably path bytes).2 host ∧
      ((host.appendDurably path bytes).2.files = host.files ∨
        ∃ written, host.files.appendTo host.directory path host.now written =
          .ok (host.appendDurably path bytes).2.files) := by
  obtain ⟨fault, faults, next⟩ := exists_nextFault host
  rw [appendDurably, next]
  cases fault with
  | none =>
    obtain ⟨only, either⟩ :=
      settle_snd host faults (host.files.appendTo host.directory path host.now bytes)
    exact ⟨only, either.imp_right fun done => ⟨bytes, done⟩⟩
  | refused => exact ⟨⟨rfl, rfl, rfl, rfl⟩, Or.inl rfl⟩
  | cutShort kept =>
    obtain ⟨only, either⟩ :=
      settle_snd host faults (host.files.appendTo host.directory path host.now (bytes.take kept))
    exact ⟨only, either.imp_right fun done => ⟨bytes.take kept, done⟩⟩

/-- Processes make no difference to what is added to the durable log. -/
theorem appendDurably_withProcesses (host : Host) (processes : Processes) (path : String)
    (bytes : List UInt8) :
    ({ host with processes := processes } : Host).appendDurably path bytes =
      ((host.appendDurably path bytes).1,
        { (host.appendDurably path bytes).2 with processes := processes }) := by
  obtain ⟨files, others, directory, now, faults⟩ := host
  rcases faults with - | ⟨fault, rest⟩
  · simp only [appendDurably, nextFault, settle]
    cases files.appendTo directory path now bytes <;> rfl
  · cases fault with
    | none =>
      simp only [appendDurably, nextFault, settle]
      cases files.appendTo directory path now bytes <;> rfl
    | refused => rfl
    | cutShort kept cause =>
      simp only [appendDurably, nextFault, settle]
      cases files.appendTo directory path now (bytes.take kept) <;> rfl

/-- Removing the durable log changes the files only, by removing the log. -/
theorem removeDurably_snd (host : Host) (path : String) :
    OnlyFiles (host.removeDurably path).2 host ∧
      ((host.removeDurably path).2.files = host.files ∨
        host.files.unlink host.directory path = .ok (host.removeDurably path).2.files) := by
  obtain ⟨fault, faults, next⟩ := exists_nextFault host
  rw [removeDurably, next]
  cases fault with
  | none => exact settle_snd host faults (host.files.unlink host.directory path)
  | refused => exact ⟨⟨rfl, rfl, rfl, rfl⟩, Or.inl rfl⟩
  | cutShort => exact ⟨⟨rfl, rfl, rfl, rfl⟩, Or.inl rfl⟩

/-- A file put where no walk goes on, in place of a file or of nothing. -/
theorem stopsAt_of_set {file : RegularFile} (directory : changed.directory = host.directory)
    (set : changed.files = host.files.set place (.file file)) (below : place ≠ [])
    (stops : ∀ node, host.files.get? place = some node → node.leadsOn = false) :
    StopsAt changed host place ∧ StopsAt host changed place := by
  refine ⟨⟨directory, ?_, ?_⟩, ⟨directory.symm, ?_, stops⟩⟩
  · intro other elsewhere
    rw [set, get?_set_of_ne _ _ elsewhere]
  · intro node held
    rw [set, get?_set_self _ _ _ below] at held
    cases held
    rfl
  · intro other elsewhere
    rw [set, get?_set_of_ne _ _ elsewhere]

/-- Adding to the end of a path changes one place that the path leads to, and nothing that a walk
goes through. -/
theorem stopsAt_of_appendTo {written : List UInt8} (directory : changed.directory = host.directory)
    (appended : host.files.appendTo host.directory path host.now written = .ok changed.files) :
    changed.files = host.files ∨
      ∃ place, host.LeadsTo path place ∧ StopsAt changed host place ∧
        StopsAt host changed place := by
  obtain ⟨resolved, usable, reached, done⟩ := appendTo_eq_ok appended
  rcases done with ⟨-, -, -, same⟩ | ⟨content, file, holds, -, set⟩
  · exact Or.inl same
  · obtain ⟨below, stops⟩ := reached.stops holds
    exact Or.inr ⟨_, ⟨usable, reached.ends⟩, stopsAt_of_set directory set below stops⟩

/-- Removing a path empties one place that the path leads to. -/
theorem stopsAt_of_unlink (directory : changed.directory = host.directory)
    (removed : host.files.unlink host.directory path = .ok changed.files) :
    ∃ place, host.LeadsTo path place ∧ StopsAt changed host place := by
  obtain ⟨place, node, usable, reached, below, erased, -⟩ := unlink_eq_ok removed
  refine ⟨place, ⟨usable, reached.ends⟩, directory, ?_, ?_⟩
  · intro other elsewhere
    rw [erased, get?_erase_of_ne _ elsewhere]
  · intro node held
    rw [erased, get?_erase_self _ _ below] at held
    cases held

/-- Paths stay apart where no file is changed. -/
theorem apart_of_files_eq (only : OnlyFiles changed host) (same : changed.files = host.files)
    (apart : host.Apart first second) : changed.Apart first second := by
  intro target
  unfold LeadsTo
  rw [only.directory, same]
  exact apart target

/-- A path names what it named where no file is changed. -/
theorem node?_of_files_eq (only : OnlyFiles changed host) (same : changed.files = host.files) :
    changed.node? path = host.node? path := by
  rw [node?, node?, only.directory, same]

/-- Paths stay apart when the log grows. -/
theorem apart_appendDurably (apart : host.Apart first second) :
    (host.appendDurably path bytes).2.Apart first second := by
  obtain ⟨only, same | ⟨written, appended⟩⟩ := appendDurably_snd host path bytes
  · exact apart_of_files_eq only same apart
  · rcases stopsAt_of_appendTo only.directory appended with same | ⟨place, -, stops, -⟩
    · exact apart_of_files_eq only same apart
    · exact apart.of_stopsAt stops

/-- A path that is apart from the log names what it named when the log grows. -/
theorem node?_appendDurably (apart : host.Apart other path) :
    (host.appendDurably path bytes).2.node? other = host.node? other := by
  obtain ⟨only, same | ⟨written, appended⟩⟩ := appendDurably_snd host path bytes
  · exact node?_of_files_eq only same
  rcases stopsAt_of_appendTo only.directory appended with same | ⟨place, leads, stops, stopped⟩
  · exact node?_of_files_eq only same
  have away : ¬ host.LeadsTo other place := fun reaches => apart place reaches leads
  refine Option.ext fun named => ⟨node?_of_stopsAt stops away, ?_⟩
  exact node?_of_stopsAt stopped fun reaches => away (reaches.of_stopsAt stops)

/-- Paths stay apart when what a path names is removed, or cannot be. -/
theorem apart_of_unlink (only : OnlyFiles changed host)
    (either : changed.files = host.files ∨
      host.files.unlink host.directory path = .ok changed.files)
    (apart : host.Apart first second) : changed.Apart first second := by
  rcases either with same | removed
  · exact apart_of_files_eq only same apart
  · obtain ⟨place, -, stops⟩ := stopsAt_of_unlink only.directory removed
    exact apart.of_stopsAt stops

/-- Paths stay apart when a durable copy is removed. -/
theorem apart_removeDurably (apart : host.Apart first second) :
    (host.removeDurably path).2.Apart first second := by
  obtain ⟨only, either⟩ := removeDurably_snd host path
  exact apart_of_unlink only either apart

/-- A path that is apart from the log names nothing new when the log is removed. -/
theorem node?_removeDurably (apart : host.Apart other path)
    (names : (host.removeDurably path).2.node? other = some named) :
    host.node? other = some named := by
  obtain ⟨only, same | removed⟩ := removeDurably_snd host path
  · rwa [node?_of_files_eq only same] at names
  · obtain ⟨place, leads, stops⟩ := stopsAt_of_unlink only.directory removed
    exact node?_of_stopsAt stops (fun reaches => apart place reaches leads) names

/-! ## Removing what a path names -/

/-- Removing a file changes no more than the files, and those only by the entry of the path. -/
theorem remove_snd (host : Host) (path : String) :
    OnlyFiles (host.remove path).2 host ∧
      ((host.remove path).2.files = host.files ∨
        host.files.unlink host.directory path = .ok (host.remove path).2.files) :=
  settle_snd host host.faults (host.files.unlink host.directory path)

/-- Paths stay apart when a file is removed. -/
theorem apart_remove (apart : host.Apart first second) :
    (host.remove path).2.Apart first second := by
  obtain ⟨only, either⟩ := remove_snd host path
  exact apart_of_unlink only either apart

/-- What is no directory can be removed from a name in the root, and is not followed to do so. -/
theorem NamesInRoot.unlink_eq {name : String} {node : Node} (named : NamesInRoot path name)
    (ends : EndsInName path name) (held : host.files.get? [name] = some node)
    (plain : node.isDirectory = false) :
    host.files.unlink host.directory path = .ok (host.files.erase [name]) := by
  have reached : Reaches host.files false linkLimit [] [name] (.found [name] node) := by
    cases node with
    | directory => cases plain
    | link => exact .lastLink named.walkable held rfl
    | file => exact .last named.walkable held rfl
    | device => exact .last named.walkable held rfl
  rw [unlink_of_endsInName named.usable ends, named.resolve_eq reached]
  cases node with
  | directory => cases plain
  | link | file | device => rfl

/-- From a free name in the root nothing can be removed. -/
theorem NamesInRoot.unlink_of_free {name : String} (named : NamesInRoot path name)
    (ends : EndsInName path name) (free : host.files.get? [name] = none) :
    host.files.unlink host.directory path = .error (.os .noEntry) := by
  rw [unlink_of_endsInName named.usable ends, named.resolve_eq (.vacant named.walkable free)]
  rfl

/-- A file with a name in the root can be removed. -/
theorem NamesInRoot.remove_fst {name : String} {file : RegularFile} (named : NamesInRoot path name)
    (held : host.files.get? [name] = some (.file file))
    (last : (Path.pieces path).getLast? = some name) (some : name ≠ "") :
    (host.remove path).1 = .ok () := by
  have ends : EndsInName path name := ⟨last, named.walkable.notDot, named.walkable.notUp, some⟩
  rw [Host.remove, named.unlink_eq ends held rfl]
  rfl

/-- What was removed is gone: the path names nothing. -/
theorem node?_of_unlink (directory : changed.directory = host.directory)
    (removed : host.files.unlink host.directory path = .ok changed.files) :
    changed.node? path = none := by
  rw [node?, directory, (lacks_of_unlink_ok removed).1.node_eq]
  rfl

end BuildMonitor.Host
