import Mathlib.Data.Set.Defs
import BuildMonitor.Proofs.Host.Copy

/-!
# Hosts that differ at some places

What is done to the durable log, whether or not it succeeds, changes no place but those that the
path of the log leads to, and makes the path lead to no other: `alikeOff_appendDurably`,
`alikeOff_removeDurably`. So hosts that differ at those places only, and in what is to go wrong, go
on to differ there only. A reading that is the same whatever is at the places is the same on both.

Main definitions: `AlikeOff`, `Confined`, `Ignores`, `withFile`.
-/

namespace BuildMonitor.Host

variable {places : Set Location} {host changed first second third : Host} {path : String}

/-- Two hosts that differ at the places at most, and in what is to go wrong. -/
structure AlikeOff (places : Set Location) (first second : Host) : Prop where
  processes : first.processes = second.processes
  directory : first.directory = second.directory
  now : first.now = second.now
  addresses : first.addresses = second.addresses
  files : ∀ place, place ∉ places → first.files.get? place = second.files.get? place

/-- The path leads to none but the places. -/
def Confined (host : Host) (path : String) (places : Set Location) : Prop :=
  ∀ place, host.LeadsTo path place → place ∈ places

/-- What is read at the path is the same whatever is at the places. -/
def Ignores (host : Host) (path : String) (places : Set Location) : Prop :=
  ∀ other, AlikeOff places host other → other.readText path = host.readText path

namespace AlikeOff

/-- Likeness goes both ways. -/
theorem symm (alike : AlikeOff places first second) : AlikeOff places second first :=
  ⟨alike.processes.symm, alike.directory.symm, alike.now.symm, alike.addresses.symm,
    fun place off => (alike.files place off).symm⟩

/-- Likeness is handed on from host to host. -/
theorem trans (alike : AlikeOff places first second) (alike' : AlikeOff places second third) :
    AlikeOff places first third :=
  ⟨alike.processes.trans alike'.processes, alike.directory.trans alike'.directory,
    alike.now.trans alike'.now, alike.addresses.trans alike'.addresses,
    fun place off => (alike.files place off).trans (alike'.files place off)⟩

/-- Hosts that are alike have the same time. -/
theorem timestamp_eq (alike : AlikeOff places first second) :
    first.timestamp = second.timestamp := by
  rw [timestamp, timestamp, alike.now]

end AlikeOff

/-! ## The durable log -/

/-- Changes at a place that the path leads to are off all other places, and the path leads nowhere
new. -/
private theorem alikeOff_of_stopsAt (confined : host.Confined path places)
    (only : OnlyFiles changed host)
    (either : changed.files = host.files ∨
      ∃ place, host.LeadsTo path place ∧ StopsAt changed host place) :
    AlikeOff places changed host ∧ changed.Confined path places := by
  rcases either with same | ⟨place, leads, stops⟩
  · refine ⟨⟨only.processes, only.directory, only.now, only.addresses, fun _ _ => by rw [same]⟩,
      fun target leads => ?_⟩
    refine confined target ?_
    rwa [LeadsTo, only.directory, same] at leads
  · refine ⟨⟨only.processes, only.directory, only.now, only.addresses, fun other off => ?_⟩,
      fun target leads' => confined target (leads'.of_stopsAt stops)⟩
    refine stops.files.agree other ?_
    rintro rfl
    exact off (confined other leads)

/-- Adding to a log makes a difference at its places only, whether it goes well or not, and they
stay its places. -/
theorem alikeOff_appendDurably (confined : host.Confined path places) (bytes : List UInt8) :
    AlikeOff places (host.appendDurably path bytes).2 host ∧
      (host.appendDurably path bytes).2.Confined path places := by
  obtain ⟨only, done⟩ := appendDurably_snd host path bytes
  refine alikeOff_of_stopsAt confined only ?_
  rcases done with same | ⟨written, appended⟩
  · exact Or.inl same
  · rcases stopsAt_of_appendTo only.directory appended with same | ⟨place, leads, stops, -⟩
    · exact Or.inl same
    · exact Or.inr ⟨place, leads, stops⟩

/-- Removing a log makes a difference at its places only, whether it goes well or not, and they stay
its places. -/
theorem alikeOff_removeDurably (confined : host.Confined path places) :
    AlikeOff places (host.removeDurably path).2 host ∧
      (host.removeDurably path).2.Confined path places := by
  obtain ⟨only, done⟩ := removeDurably_snd host path
  exact alikeOff_of_stopsAt confined only (done.imp_right (stopsAt_of_unlink only.directory))

/-! ## Files that are written -/

/-- The host with a file at a place. -/
def withFile (host : Host) (place : Location) (file : RegularFile) : Host :=
  { host with files := host.files.set place (.file file) }

/-- The same file put into both leaves hosts alike. -/
theorem AlikeOff.withFile {place : Location} (alike : AlikeOff places first second)
    (below : place ≠ []) (file : RegularFile) :
    AlikeOff places (first.withFile place file) (second.withFile place file) := by
  refine ⟨alike.processes, alike.directory, alike.now, alike.addresses, fun other off => ?_⟩
  by_cases same : other = place
  · subst same
    simp only [Host.withFile, Files.get?_set_self _ _ _ below]
  · simp only [Host.withFile, Files.get?_set_of_ne _ _ same]
    exact alike.files other off

/-- A file leads nowhere. -/
theorem Confined.withFile {place : Location} (confined : host.Confined path places)
    (below : place ≠ []) (file : RegularFile) :
    (host.withFile place file).Confined path places := by
  have stops : StopsAt (host.withFile place file) host place := by
    refine ⟨rfl, fun other elsewhere => Files.get?_set_of_ne _ _ elsewhere, fun node held => ?_⟩
    rw [Host.withFile, Files.get?_set_self _ _ _ below] at held
    cases held
    rfl
  exact fun target leads => confined target (leads.of_stopsAt stops)

/-! ## Names in the root -/

/-- A name in the root that is no link leads nowhere else. -/
theorem NamesInRoot.confined {name : String} (named : NamesInRoot path name)
    (plain : ∀ target, host.files.get? [name] ≠ some (.link target)) :
    host.Confined path {[name]} :=
  fun _ leads => leads.eq_of_namesInRoot named plain

/-- What is read at a name in the root that is no link does not depend on any other place. -/
theorem NamesInRoot.ignores {name : String} (named : NamesInRoot path name)
    (plain : ∀ target, host.files.get? [name] ≠ some (.link target)) (off : [name] ∉ places) :
    host.Ignores path places := by
  intro other alike
  have same := alike.files [name] off
  cases held : host.files.get? [name] with
  | none => rw [readText, readText, named.read_eq held, named.read_eq (same ▸ held)]
  | some node =>
    have noLink : ∀ target, node ≠ .link target := fun target link => plain target (link ▸ held)
    have names := named.node?_eq held noLink
    have names' := named.node?_eq (same ▸ held) noLink
    rw [readText, readText, read_of_node? names, read_of_node? names']

end BuildMonitor.Host
