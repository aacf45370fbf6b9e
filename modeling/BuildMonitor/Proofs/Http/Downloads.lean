import BuildMonitor.Proofs.Host.Paths
import BuildMonitor.Proofs.Http.Answers

/-!
# Downloads and the report of artifacts

A report asks the system about an artifact, a download opens it. Both follow the same path, so they
meet the same thing there: a regular file, which is reported with its size and sent whole; something
else, which is reported but not sent; nothing, which is neither; or the path cannot be followed, so
that nothing is reported and the download fails as the fault of the server. `Monitor.find` says
which of the four it is, `inspect_fits` what the report makes of it and `download_fits` what the
download does. That the two agree is `downloads_agree_with_report`.

Main definitions: `Artifact.Finding`, `Monitor.find`, `Inventory.Fits`, `Response.Fits`.
Main statement: `downloads_agree_with_report`.
-/

namespace BuildMonitor

open Host Artifact Json

namespace Artifact

/-- What there is in place of an artifact. -/
inductive Finding where
  /-- A regular file. -/
  | regular (file : RegularFile)
  /-- Something else, with the size that is reported for it. -/
  | other (size : Nat)
  /-- Nothing. -/
  | missing
  /-- The path cannot be followed. -/
  | unreachable (cause : IoError)
  deriving DecidableEq

/-- The size that is reported. -/
def Finding.size? : Finding → Option Nat
  | .regular file => some file.content.size
  | .other size => some size
  | .missing => none
  | .unreachable _ => none

/-- The document that is reported, if it is one. -/
def Finding.document? : Finding → Option Value
  | .regular file => Value.ofBytes? file.content.toList
  | _ => none

end Artifact

/-- What there is at a name in the output directory of a monitor. -/
def Monitor.find (monitor : Monitor) (name : String) : Finding :=
  match monitor.host.files.node monitor.host.directory (Path.join monitor.outputDirectory name) with
  | .ok (_, .file file) => .regular file
  | .ok (_, .directory _) => .other Files.directorySize
  | .ok _ => .other 0
  | .error error => if error.isNotFound then .missing else .unreachable error

variable {monitor later : Monitor} {response : Http.Response} {finding : Finding} {name : String}

/-- A regular file is found where the walk comes to one. -/
theorem Monitor.find_of_reaches {here place : Location} {rest : List String} {file : RegularFile}
    (usable : Files.Usable (Path.join monitor.outputDirectory name))
    (starts : Files.startOf monitor.host.directory (Path.join monitor.outputDirectory name) = here)
    (pieces : Files.walkPieces (Path.join monitor.outputDirectory name) = rest)
    (reached : Files.Reaches monitor.host.files true Files.linkLimit here rest
      (.found place (.file file))) :
    monitor.find name = .regular file := by
  subst starts pieces
  rw [Monitor.find, Files.node_eq_ok_iff.mpr ⟨usable, reached⟩]

/-- Two monitors see the same artifacts: their files and output directories are the same. The time,
the processes, the log and the builds may differ. -/
structure Monitor.SharesArtifacts (monitor later : Monitor) : Prop where
  files : later.host.files = monitor.host.files
  directory : later.host.directory = monitor.host.directory
  outputDirectory : later.outputDirectory = monitor.outputDirectory

/-- Monitors that see the same artifacts find the same in their places. -/
theorem Monitor.SharesArtifacts.find (same : monitor.SharesArtifacts later) (name : String) :
    later.find name = monitor.find name := by
  rw [Monitor.find, Monitor.find, same.files, same.directory, same.outputDirectory]

/-! ## The report -/

/-- The size that is asked for is that of what is found. -/
theorem map_size_metadata (monitor : Monitor) (name : String) :
    (okOnly (monitor.host.files.metadata monitor.host.directory
      (Path.join monitor.outputDirectory name))).map Metadata.size = (monitor.find name).size? := by
  unfold Files.metadata Monitor.find
  cases monitor.host.files.node monitor.host.directory (Path.join monitor.outputDirectory name) with
  | error error =>
    dsimp only
    split <;> rfl
  | ok found =>
    obtain ⟨place, node⟩ := found
    cases node <;> rfl

/-- The document that is read is the one that is found. -/
theorem readMetadata_eq (monitor : Monitor) :
    readMetadata monitor.host monitor.outputDirectory = (monitor.find metadataName).document? := by
  unfold readMetadata Host.read Files.read Monitor.find
  cases monitor.host.files.node monitor.host.directory
      (Path.join monitor.outputDirectory metadataName) with
  | error error =>
    change none = _
    dsimp only
    split <;> rfl
  | ok found =>
    obtain ⟨place, node⟩ := found
    cases node <;> rfl

/-- What a report says of the artifacts fits what is found in their places. -/
structure Artifact.Inventory.Fits (inventory : Inventory) (database archive document : Finding) :
    Prop where
  databaseSize : inventory.databaseSize = database.size?
  archiveSize : inventory.archiveSize = archive.size?
  metadata : inventory.metadata = document.document?
  databaseExists : inventory.databaseExists = inventory.databaseSize.isSome
  archiveExists : inventory.archiveExists = inventory.archiveSize.isSome
  databaseSizeText : inventory.databaseSizeText = sizeText inventory.databaseSize
  archiveSizeText : inventory.archiveSizeText = sizeText inventory.archiveSize

/-- What a report says of the artifacts fits what is found. -/
theorem inspect_fits (monitor : Monitor) :
    (inspect monitor.host monitor.outputDirectory).Fits (monitor.find databaseName)
      (monitor.find archiveName) (monitor.find metadataName) where
  databaseSize := map_size_metadata monitor databaseName
  archiveSize := map_size_metadata monitor archiveName
  metadata := readMetadata_eq monitor
  databaseExists := Option.isSome_map.symm
  archiveExists := Option.isSome_map.symm
  databaseSizeText := rfl
  archiveSizeText := rfl

/-! ## The download -/

/-- What a request for an artifact comes to, by what is found in its place. -/
inductive Artifact.Finding.Opens (kind : Kind) (date : String) :
    Finding → Except MonitorError Download → Prop where
  | regular (file : RegularFile) : Opens kind date (.regular file)
      (.ok ⟨kind, kind.downloadName date, file.content.size, file.content⟩)
  | missing : Opens kind date .missing (.error (.artifactNotFound kind.label))
  | other (size : Nat) (reason : String) :
      Opens kind date (.other size) (.error (.artifactUnreadable reason))
  | unreachable (cause : IoError) (reason : String) :
      Opens kind date (.unreachable cause) (.error (.artifactUnreadable reason))

/-- A request for an artifact comes to what its place holds. -/
theorem Monitor.artifact_opens (monitor : Monitor) (kind : Kind) :
    (monitor.find kind.fileName).Opens kind monitor.host.now.dateStamp (monitor.artifact kind) := by
  unfold Monitor.artifact load Monitor.find
  dsimp only
  cases monitor.host.files.node monitor.host.directory
      (Path.join monitor.outputDirectory kind.fileName) with
  | error error =>
    dsimp only
    split
    · exact .missing
    · exact .unreachable _ _
  | ok found =>
    obtain ⟨place, node⟩ := found
    cases node with
    | file file => exact .regular file
    | directory modified => exact .other _ _
    | link target => exact .other _ _
    | device device => exact .other _ _

namespace Http

/-- A response sends a file whole, and says once how long it is. -/
structure Response.Sends (response : Response) (file : RegularFile) : Prop where
  body : response.body = file.content
  length : response.headers.filter (·.1 = "content-length") =
    [("content-length", toString file.content.size)]

/-- The response to a download fits what is found. -/
inductive Response.Fits (response : Response) : Finding → Prop where
  | regular (file : RegularFile) (status : response.status = 200) (sends : response.Sends file) :
      Fits response (.regular file)
  | missing (status : response.status = 404) : Fits response .missing
  | other (size : Nat) (status : response.status = 500) : Fits response (.other size)
  | unreachable (cause : IoError) (status : response.status = 500) :
      Fits response (.unreachable cause)

/-- Letting pages of any origin read a response leaves it fitting. -/
theorem Response.Fits.shared (fits : response.Fits finding) :
    (Http.shared response).Fits finding := by
  cases fits with
  | regular file status sends =>
    refine .regular file status ⟨sends.body, ?_⟩
    simpa [Http.shared, Response.withHeader] using sends.length
  | missing status => exact .missing status
  | other size status => exact .other size status
  | unreachable cause status => exact .unreachable cause status

/-- Saying how long the body is leaves the status as it is. -/
theorem status_measured (response : Response) : response.measured.status = response.status :=
  response.measured_carries.status

/-- The answer to a request for an artifact fits what is found in its place. -/
theorem answer_download_fits {kind : Kind} {date : String} {opened : Except MonitorError Download}
    (opens : finding.Opens kind date opened) :
    (Endpoint.settled opened .download).measured.Fits finding := by
  cases opens with
  | regular file => exact .regular file rfl ⟨rfl, rfl⟩
  | missing => exact .missing (status_measured _)
  | other size reason => exact .other size (status_measured _)
  | unreachable cause reason => exact .unreachable cause (status_measured _)

/-- A download fits what is found in the place of the artifact. -/
theorem download_fits (sharing : Bool) (query : Option String) (monitor : Monitor) (kind : Kind) :
    (handle sharing ⟨"GET", ⟨(Endpoint.download kind).path, query⟩⟩ monitor).1.Fits
      (monitor.find kind.fileName) := by
  have found : Endpoint.find? (Endpoint.download kind).path = some (.download kind) := by
    cases kind <;> decide
  have fits := answer_download_fits (monitor.artifact_opens kind)
  rw [handle_get_fst sharing ⟨(Endpoint.download kind).path, query⟩ found rfl monitor]
  cases sharing with
  | false => exact fits
  | true => exact fits.shared

/-! ## Reports and downloads -/

/-- A download is granted exactly if there is a regular file that can be read, and then it is that
file. -/
theorem Response.Fits.status_eq_ok_iff (fits : response.Fits finding) :
    response.status = 200 ↔ ∃ file, finding = .regular file ∧ response.Sends file := by
  cases fits with
  | regular file status sends => simp [status, sends]
  | missing status => simp [status]
  | other size status => simp [status]
  | unreachable cause status => simp [status]

/-- Of what is not found no size is reported, and no document. -/
theorem Response.Fits.size?_of_not_found (fits : response.Fits finding)
    (status : response.status = 404) : finding.size? = none ∧ finding.document? = none := by
  cases fits with
  | missing => exact ⟨rfl, rfl⟩
  | regular file status' | other size status' | unreachable cause status' =>
    rw [status'] at status
    contradiction

/-- A download is granted, not found or fails. -/
theorem Response.Fits.status_mem (fits : response.Fits finding) :
    response.status ∈ [200, 404, 500] := by
  cases fits <;> simp [*]

/-- A report and a download agree about an artifact, if no file changes between them. What is sent
is the file that is reported, with its size before it; what is not found is not reported, what is
not reported is not sent, and what else goes wrong is the fault of the server. The document that is
reported is the one that its download would be read as. -/
theorem downloads_agree_with_report (sharing : Bool) (query : Option String)
    (same : monitor.SharesArtifacts later) :
    let report := monitor.status.database
    let archive := (handle sharing ⟨"GET", ⟨"/api/download/db", query⟩⟩ later).1
    let document := (handle sharing ⟨"GET", ⟨"/api/download/metadata", query⟩⟩ later).1
    (handle sharing ⟨"GET", ⟨"/api/status", query⟩⟩ monitor).1.Carries
        (.json 200 monitor.status.toJson) ∧
      (archive.status = 200 → ∃ file, monitor.find archiveName = .regular file ∧
        archive.Sends file ∧ report.archiveExists = true ∧
        report.archiveSize = some file.content.size) ∧
      (archive.status = 404 → report.archiveExists = false) ∧
      (report.archiveExists = false → archive.status ≠ 200) ∧
      (document.status = 200 → report.metadata = Value.ofBytes? document.body.toList) ∧
      (document.status = 404 → report.metadata = none) ∧
      archive.Fits (monitor.find archiveName) ∧ document.Fits (monitor.find metadataName) ∧
      archive.status ∈ [200, 404, 500] ∧ document.status ∈ [200, 404, 500] ∧
      report.Fits (monitor.find databaseName) (monitor.find archiveName)
        (monitor.find metadataName) := by
  intro report archive document
  have reported : report.Fits _ _ _ := inspect_fits monitor
  have archiveFits : archive.Fits (monitor.find archiveName) := by
    rw [← same.find]
    exact download_fits sharing query later .archive
  have documentFits : document.Fits (monitor.find metadataName) := by
    rw [← same.find]
    exact download_fits sharing query later .metadata
  have sent (status : archive.status = 200) : ∃ file, monitor.find archiveName = .regular file ∧
      archive.Sends file ∧ report.archiveExists = true ∧
      report.archiveSize = some file.content.size := by
    obtain ⟨file, found, sends⟩ := archiveFits.status_eq_ok_iff.mp status
    have size : report.archiveSize = some file.content.size := by
      rw [reported.archiveSize, found]
      rfl
    exact ⟨file, found, sends, by rw [reported.archiveExists, size]; rfl, size⟩
  refine ⟨handle_status sharing query monitor, sent, ?_, ?_, ?_, ?_, archiveFits, documentFits,
    archiveFits.status_mem, documentFits.status_mem, reported⟩
  · intro status
    rw [reported.archiveExists, reported.archiveSize, (archiveFits.size?_of_not_found status).1]
    rfl
  · intro absent status
    obtain ⟨file, -, -, present, -⟩ := sent status
    exact absurd present (by simp [absent])
  · intro status
    obtain ⟨file, found, sends⟩ := documentFits.status_eq_ok_iff.mp status
    rw [reported.metadata, found, sends.body]
    rfl
  · intro status
    rw [reported.metadata, (documentFits.size?_of_not_found status).2]

/-- The output directory is a link to another directory, with an archive of three bytes and a
document in it. -/
def linkedOutput : Monitor where
  host :=
    { files :=
        ⟨[(["srv"], .directory default), (["srv", "out"], .link "/built"),
          (["built"], .directory default),
          (["built", "trivy.db.tar.gz"], .file ⟨Blob.ofList [1, 2, 3], false, default⟩),
          (["built", "metadata.json"],
            .file ⟨Blob.ofList (Text.Utf8.encode "[true]"), false, default⟩)]⟩
      processes := Processes.empty .system
      directory := ["srv"]
      now := default
      faults := [] }
  markerPath := "/lock"
  outputDirectory := "out"
  command := ⟨"/srv/build", "/srv", []⟩
  sink := LogSink.create "/log" 1
  tasks := []

/-- A walk to a file in the output directory goes through the link. -/
theorem linkedOutput_reaches (name : String) {file : RegularFile} (walkable : Files.Walkable name)
    (held : linkedOutput.host.files.get? ["built", name] = some (.file file)) :
    Files.Reaches linkedOutput.host.files true Files.linkLimit ["srv"] ["out", name]
      (.found ["built", name] (.file file)) := by
  have behind : Files.Reaches linkedOutput.host.files true 39 [] ["built", name]
      (.found ["built", name] (.file file)) :=
    .into (by decide) rfl (.last walkable held rfl)
  have target : Files.walkPieces "/built" ++ [name] = ["built", name] := by
    rw [show Files.walkPieces "/built" = ["built"] by decide]
    rfl
  exact .through (by decide) rfl (Or.inl (List.cons_ne_nil _ _)) (target ▸ behind)

/-- Artifacts behind a link are reported and downloaded alike, also a day later. -/
theorem linkedOutput_downloads :
    let later := { linkedOutput with host := { linkedOutput.host with now := ⟨86400, 0⟩ } }
    let archive := (handle true ⟨"GET", ⟨"/api/download/db", none⟩⟩ later).1
    let report := linkedOutput.status.database
    linkedOutput.SharesArtifacts later ∧ archive.status = 200 ∧ report.archiveExists = true ∧
      report.archiveSize = some archive.body.size ∧
      report.metadata = some (.array [.boolean true]) := by
  intro later archive report
  have same : linkedOutput.SharesArtifacts later := ⟨rfl, rfl, rfl⟩
  obtain ⟨-, sent, -, -, read, -, archiveFits, documentFits, -⟩ :=
    downloads_agree_with_report true none same
  have archiveFound : linkedOutput.find archiveName =
      .regular ⟨Blob.ofList [1, 2, 3], false, default⟩ :=
    Monitor.find_of_reaches (by decide +kernel) (by decide +kernel) (by decide +kernel)
      (linkedOutput_reaches archiveName (by decide) rfl)
  have documentFound : linkedOutput.find metadataName =
      .regular ⟨Blob.ofList (Text.Utf8.encode "[true]"), false, default⟩ :=
    Monitor.find_of_reaches (by decide +kernel) (by decide +kernel) (by decide +kernel)
      (linkedOutput_reaches metadataName (by decide) rfl)
  have archiveStatus : archive.status = 200 := by
    rw [archiveFound] at archiveFits
    obtain ⟨_, status, _⟩ := archiveFits
    exact status
  obtain ⟨file, _, sends, reported, size⟩ := sent archiveStatus
  rw [documentFound] at documentFits
  obtain ⟨_, documentStatus, documentSends⟩ := documentFits
  refine ⟨same, archiveStatus, reported, size.trans (congrArg _ ?_),
    (read documentStatus).trans ?_⟩
  · rw [sends.body]
  · rw [documentSends.body]
    rfl

end Http

end BuildMonitor
