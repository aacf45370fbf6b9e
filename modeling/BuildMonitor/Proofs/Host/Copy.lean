import BuildMonitor.Proofs.Host.Apart

/-!
# The durable copy

What the durable copy of a log holds is said without its place and its other properties: the bytes
of a regular file, or that there is no file. An operation that succeeds changes the bytes as its
name says: `Keeps.appendDurably`, `keeps_none_of_unlink`. Reading gives them back:
`read_of_keeps_some`. Where nothing is in the way of a log no operation fails, and nothing is in the
way of the next: `Unhindered.appendDurably`, `Unhindered.removeDurably`.

Main definitions: `Host.Keeps`, `Host.Unhindered`.
-/

namespace BuildMonitor.Host

open Files

/-- What a path names is a regular file with the given bytes, or nothing. -/
def Keeps (host : Host) (path : String) : Option (List UInt8) → Prop
  | none => host.node? path = none
  | some bytes =>
    ∃ place file, host.node? path = some (place, .file file) ∧ file.content.toList = bytes

variable {host changed : Host} {path : String} {copy : Option (List UInt8)} {bytes : List UInt8}

/-- Only the node that the path names counts. -/
theorem Keeps.of_node?_eq (same : changed.node? path = host.node? path)
    (keeps : host.Keeps path copy) : changed.Keeps path copy := by
  cases copy with
  | none => exact same.trans keeps
  | some bytes =>
    obtain ⟨place, file, names, content⟩ := keeps
    exact ⟨place, file, same.trans names, content⟩

/-- Bytes that were added to the durable log were added to the files. -/
theorem appendTo_of_appendDurably (added : (host.appendDurably path bytes).1 = .ok ()) :
    host.files.appendTo host.directory path host.now bytes =
      .ok (host.appendDurably path bytes).2.files := by
  obtain ⟨fault, faults, next⟩ := exists_nextFault host
  rw [appendDurably, next] at added ⊢
  cases fault with
  | none =>
    cases outcome : host.files.appendTo host.directory path host.now bytes with
    | error error => simp only [settle, outcome] at added; cases added
    | ok files => simp only [settle, outcome]
  | refused => cases added
  | cutShort => cases added

/-- Where bytes can be added to what a path keeps, the walk comes to a file with what is kept. -/
private theorem Keeps.toList_of_content? {resolved : Resolved} {content : Blob}
    (keeps : host.Keeps path copy) (usable : Usable path)
    (reached : Reaches host.files true linkLimit (startOf host.directory path) (walkPieces path)
      resolved)
    (holds : resolved.content? = some content) : content.toList = copy.getD [] := by
  cases resolved with
  | found place node =>
    have names : host.node? path = some (place, node) := node?_eq_some_iff.mpr ⟨usable, reached⟩
    cases copy with
    | none => cases names.symm.trans keeps
    | some bytes =>
      obtain ⟨_, file, names', kept⟩ := keeps
      cases names.symm.trans names'
      cases holds
      exact kept
  | vacant place =>
    cases holds
    cases copy with
    | none => rfl
    | some bytes =>
      obtain ⟨_, _, names, -⟩ := keeps
      exact absurd (node?_eq_some_iff.mp names).2 reached.misses.not_found

/-- What bytes were added to holds them at its end. -/
theorem Keeps.appendDurably (keeps : host.Keeps path copy)
    (added : (host.appendDurably path bytes).1 = .ok ()) :
    (host.appendDurably path bytes).2.Keeps path (some (copy.getD [] ++ bytes)) := by
  obtain ⟨only, -⟩ := appendDurably_snd host path bytes
  obtain ⟨resolved, usable, reached, done⟩ := appendTo_eq_ok (appendTo_of_appendDurably added)
  generalize (host.appendDurably path bytes).2 = changed at only done
  rcases done with ⟨place, kind, rfl, -⟩ | ⟨content, file, holds, grown, set⟩
  · have names : host.node? path = some (place, .device kind) :=
      node?_eq_some_iff.mpr ⟨usable, reached⟩
    cases copy with
    | none => cases names.symm.trans keeps
    | some bytes =>
      obtain ⟨_, _, names', -⟩ := keeps
      cases names.symm.trans names'
  · obtain ⟨below, stops⟩ := reached.stops holds
    have held : changed.files.get? resolved.location = some (.file file) := by
      rw [set, get?_set_self _ _ _ below]
    have reaches := reached.onto (stopsAt_of_set only.directory set below stops).2.files held rfl
    refine ⟨resolved.location, file, node?_eq_some_iff.mpr ⟨usable, ?_⟩, ?_⟩
    · rw [only.directory]
      exact reaches
    · rw [grown, Blob.toList_append, keeps.toList_of_content? usable reached holds]

/-- Where no fault is due, bytes can be added to what is kept. -/
theorem Keeps.appendDurably_ok (keeps : host.Keeps path (some bytes)) (plain : host.faults = [])
    (more : List UInt8) :
    (host.appendDurably path more).1 = .ok () ∧ (host.appendDurably path more).2.faults = [] := by
  obtain ⟨place, file, names, -⟩ := keeps
  have led : host.files.resolve host.directory true path = .ok (.found place (.file file)) :=
    resolve_eq_ok_iff.mpr (node?_eq_some_iff.mp names)
  have next : host.nextFault = (.none, host) := by rw [nextFault, plain]
  have added : host.files.appendTo host.directory path host.now more =
      .ok (host.files.set place
        (.file { file with content := file.content.append more, modified := host.now })) := by
    rw [appendTo, update, led]
    rfl
  rw [Host.appendDurably, next]
  simp only [added, settle]
  exact ⟨trivial, plain⟩

/-- What is not there cannot be removed; what was removed is not there. -/
theorem keeps_none_of_unlink (host : Host) (directory : changed.directory = host.directory)
    (done : host.files.unlink host.directory path = .ok changed.files ∨
      host.files.unlink host.directory path = .error (.os .noEntry) ∧ changed.files = host.files) :
    changed.Keeps path none := by
  rcases done with removed | ⟨missing, same⟩
  · exact node?_of_unlink directory removed
  · have nowhere := node_ne_ok_of_unlink missing
    show changed.node? path = none
    rw [node?, directory, same]
    cases found : host.files.node host.directory path with
    | error => rfl
    | ok named => exact absurd found (nowhere named.1 named.2)

/-- Reading fails where nothing is kept. -/
theorem read_of_keeps_none (keeps : host.Keeps path none) :
    ∃ error, host.read path = .error error := by
  have nothing : host.node? path = none := keeps
  rw [node?] at nothing
  cases found : host.files.node host.directory path with
  | error error => exact ⟨error, by rw [Host.read, Files.read, found]; rfl⟩
  | ok named => rw [found] at nothing; cases nothing

/-- Reading gives the bytes that are kept. -/
theorem read_of_keeps_some (keeps : host.Keeps path (some bytes)) :
    ∃ content, host.read path = .ok content ∧ content.toList = bytes := by
  obtain ⟨place, file, names, content⟩ := keeps
  exact ⟨file.content, read_of_node? names, content⟩

/-! ## A disk that works -/

/-- Nothing is in the way of a log at the path: it is a name in the root at which there is nothing or
a regular file, and no fault is due. -/
structure Unhindered (host : Host) (path name : String) : Prop where
  named : NamesInRoot path name
  last : (Path.pieces path).getLast? = some name
  plain : host.faults = []
  holds : ∀ node, host.files.get? [name] = some node → ∃ file, node = .file file

namespace Unhindered

variable {name : String}

/-- The name is no empty one. -/
theorem endsInName (unhindered : host.Unhindered path name) : EndsInName path name where
  last := unhindered.last
  notDot := unhindered.named.walkable.notDot
  notUp := unhindered.named.walkable.notUp
  nonempty := by
    rintro rfl
    have walked : "" ∈ walkPieces path := unhindered.named.walks ▸ List.mem_singleton_self ""
    unfold walkPieces at walked
    split at walked <;> simp at walked

/-- A file at the name is not in the way. -/
theorem set (unhindered : host.Unhindered path name) {changed : Host} {file : RegularFile}
    (plain : changed.faults = []) (files : changed.files = host.files.set [name] (.file file)) :
    changed.Unhindered path name where
  named := unhindered.named
  last := unhindered.last
  plain := plain
  holds := by
    intro node held
    rw [files, get?_set_self _ _ _ (List.cons_ne_nil _ _)] at held
    exact ⟨file, (Option.some.inj held).symm⟩

/-- What is added goes into a file at the name. -/
theorem exists_appendTo (unhindered : host.Unhindered path name) (bytes : List UInt8) :
    ∃ file, host.files.appendTo host.directory path host.now bytes =
      .ok (host.files.set [name] (.file file)) := by
  rw [appendTo, update]
  cases held : host.files.get? [name] with
  | none =>
    rw [unhindered.named.resolve_eq (.vacant unhindered.named.walkable held)]
    exact ⟨_, rfl⟩
  | some node =>
    obtain ⟨file, rfl⟩ := unhindered.holds node held
    rw [unhindered.named.resolve_eq (.last unhindered.named.walkable held rfl)]
    exact ⟨_, rfl⟩

/-- An entry that is added can only change the file at the name. -/
theorem exists_appendDurably (unhindered : host.Unhindered path name) (bytes : List UInt8) :
    ∃ file, host.appendDurably path bytes =
      (.ok (), { host with files := host.files.set [name] (.file file) }) := by
  obtain ⟨file, added⟩ := unhindered.exists_appendTo bytes
  have next : host.nextFault = (.none, host) := by rw [nextFault, unhindered.plain]
  refine ⟨file, ?_⟩
  rw [Host.appendDurably, next]
  simp only [added, settle]

/-- No entry can fail to be added, and nothing is in the way of the next. -/
theorem appendDurably (unhindered : host.Unhindered path name) (bytes : List UInt8) :
    (host.appendDurably path bytes).1 = .ok () ∧
      (host.appendDurably path bytes).2.Unhindered path name := by
  obtain ⟨file, added⟩ := unhindered.exists_appendDurably bytes
  rw [added]
  exact ⟨rfl, unhindered.set unhindered.plain rfl⟩

/-- A copy can be removed, or there is none, and nothing is in the way of the next. -/
theorem removeDurably (unhindered : host.Unhindered path name) :
    ((host.removeDurably path).1 = .ok () ∨
        (host.removeDurably path).1 = .error (.os .noEntry)) ∧
      (host.removeDurably path).2.Unhindered path name := by
  have next : host.nextFault = (.none, host) := by rw [nextFault, unhindered.plain]
  rw [Host.removeDurably, next]
  cases held : host.files.get? [name] with
  | none =>
    simp only [unhindered.named.unlink_of_free unhindered.endsInName held, settle]
    exact ⟨Or.inr trivial, unhindered⟩
  | some node =>
    obtain ⟨file, rfl⟩ := unhindered.holds node held
    simp only [unhindered.named.unlink_eq unhindered.endsInName held rfl, settle]
    refine ⟨Or.inl trivial, unhindered.named, unhindered.last, unhindered.plain, ?_⟩
    intro node there
    rw [get?_erase_self _ _ (List.cons_ne_nil _ _)] at there
    cases there

end Unhindered

end BuildMonitor.Host
