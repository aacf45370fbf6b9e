import BuildMonitor.Proofs.Config.Wiring
import BuildMonitor.Proofs.Host.Apart

/-!
# The configuration that a server goes by

The flags of a server are laid over what the file and the environment say, and what comes of it is
checked. But what the file and the environment say was checked before, like for any other command.
So it takes two valid configurations to get a server past its configuration, and a port of zero is
an error even where a flag gives another port: `overriddenPort_refused`.

It is the only such error. The flags replace nothing but the host and the port, and nothing of the
two is checked but that the port is not zero: `validate_congr`. Where the flags neither replace a
port of zero nor set one, a server is decided by the effective configuration alone; and two sources
with the same effective configuration are answered alike, unless one of them has a port of zero and
the other has not: `serve_decided_by_both`.

Main definitions: `configured`, `launch`. Main statement: `serve_decided_by_both`.
-/

namespace BuildMonitor

open Host

/-! ## What is checked -/

namespace Config

variable {config other : Config}

/-- Of the server nothing is checked but whether its port is zero. -/
theorem validate_congr (build : config.build = other.build)
    (logging : config.logging = other.logging)
    (port : config.server.port = 0 ↔ other.server.port = 0) :
    config.validate = other.validate := by
  unfold validate
  rw [build, logging]
  by_cases zero : other.server.port = 0
  · rw [port.mpr zero, zero]
  · rw [if_neg zero, if_neg (mt port.mp zero)]

/-- A valid configuration does not have port zero. -/
theorem port_ne_zero_of_validate (valid : config.validate = .ok ()) : config.server.port ≠ 0 :=
  (validButLevel_of_validate valid).port

variable {host : Host} {environment : Environment} {file : Option String}

/-- What is loaded is what the layers give, if that is valid. -/
theorem load_of_extract
    (extracted : extract host environment (file.getD defaultFile) = .ok config) :
    load host environment file = (config.validate.mapError .invalid).map fun _ => config := by
  rw [load, extracted]
  cases valid : config.validate with
  | error cause => simp only [bind, Except.bind, valid]; rfl
  | ok => simp only [bind, Except.bind, valid]; rfl

end Config

namespace Cli

variable {config : Config} {host : Host} {environment : Config.Environment}
  {file address : Option String} {port : Option Nat}

/-! ## Servers in two steps -/

/-- The configuration that a server goes by, if it gets one: the loaded one with the flags laid over
it, if that is valid. -/
def configured (address : Option String) (port : Option Nat) (host : Host)
    (environment : Config.Environment) (file : Option String) : Except Config.LoadError Config := do
  let loaded ← Config.load host environment file
  (Config.validate (override loaded address port)).mapError .invalid
  return override loaded address port

/-- What a server does with its configuration. -/
def launch (config : Config) (host : Host) : Answer :=
  match startServiceLog config.logging host with
  | .error error => (.error error.message, host)
  | .ok (_, logged) =>
    match makeOutput config logged with
    | .error message => (.error message, logged)
    | .ok prepared =>
      match Monitor.ofConfig config prepared with
      | .error error => (.error error.message, prepared)
      | .ok _ =>
        match Http.Address.resolve host.addresses config.server.host config.server.port with
        | .error fault => (.error fault.message, prepared)
        | .ok _ => (.ok (listening s!"{config.server.host}:{config.server.port}"), prepared)

/-- A server without a configuration says why and changes nothing; any other is launched. -/
theorem serve_eq_launch (address : Option String) (port : Option Nat) (host : Host)
    (environment : Config.Environment) (file : Option String) :
    serve address port host environment file =
      match configured address port host environment file with
      | .error error => (.error error.message, host)
      | .ok config => launch config host := by
  rw [serve, configured]
  cases Config.load host environment file with
  | error => rfl
  | ok loaded =>
    cases valid : (override loaded address port).validate with
    | error cause => simp only [bind, Except.bind, valid]; rfl
    | ok => simp only [bind, Except.bind, valid]; rfl

/-! ## Two checks -/

/-- Both configurations are checked, the one without the flags first. -/
theorem configured_eq
    (extracted : Config.extract host environment (file.getD Config.defaultFile) = .ok config)
    (address : Option String) (port : Option Nat) :
    configured address port host environment file =
      Except.mapError .invalid (do
        config.validate
        (override config address port).validate
        return override config address port) := by
  rw [configured, Config.load_of_extract extracted]
  cases config.validate with
  | error => rfl
  | ok =>
    change (do
      (Config.validate (override config address port)).mapError .invalid
      return override config address port : Except Config.LoadError Config) = _
    cases (override config address port).validate <;> rfl

/-- A configuration for the command is found exactly if what was loaded is valid, and is still valid
with the address and the port of the command line in place. -/
theorem configured_eq_ok_iff
    (extracted : Config.extract host environment (file.getD Config.defaultFile) = .ok config)
    (address : Option String) (port : Option Nat) :
    (∃ found, configured address port host environment file = .ok found) ↔
      config.validate = .ok () ∧ (override config address port).validate = .ok () := by
  rw [configured_eq extracted]
  cases config.validate with
  | error => exact ⟨nofun, nofun⟩
  | ok =>
    cases (override config address port).validate with
    | error => exact ⟨nofun, nofun⟩
    | ok => exact ⟨fun _ => ⟨rfl, rfl⟩, fun _ => ⟨_, rfl⟩⟩

/-- The first check finds nothing that the second does not, unless a flag replaces a port of zero or
sets one. -/
theorem configured_eq_of_port
    (extracted : Config.extract host environment (file.getD Config.defaultFile) = .ok config)
    (port_iff : config.server.port = 0 ↔ (override config address port).server.port = 0) :
    configured address port host environment file =
      Except.mapError .invalid (do
        (override config address port).validate
        return override config address port) := by
  have same : config.validate = (override config address port).validate :=
    Config.validate_congr rfl rfl port_iff
  rw [configured_eq extracted, same]
  cases (override config address port).validate <;> rfl

/-- Sources with the same effective configuration, on one host or on two, give a server the same
one, or none for the same reason, if both have a port of zero or none of them has. -/
theorem configured_eq_of_override_eq {other : Config} {host' : Host}
    {environment' : Config.Environment} {file' address' : Option String} {port' : Option Nat}
    (extracted : Config.extract host environment (file.getD Config.defaultFile) = .ok config)
    (extracted' : Config.extract host' environment' (file'.getD Config.defaultFile) = .ok other)
    (same : override other address' port' = override config address port)
    (port_iff : other.server.port = 0 ↔ config.server.port = 0) :
    configured address' port' host' environment' file' =
      configured address port host environment file := by
  have build : (override other address' port').build = (override config address port).build :=
    congrArg Config.build same
  have logging :
      (override other address' port').logging = (override config address port).logging :=
    congrArg Config.logging same
  have checked : other.validate = config.validate :=
    Config.validate_congr build logging port_iff
  rw [configured_eq extracted, configured_eq extracted', same, checked]

/-! ## A port that a flag replaces -/

/-- Where there is no file the defaults and the environment say it all. -/
theorem extract_emptyHost
    (decoded : (Config.decode .layered (Config.overlay ([Config.defaultLayer,
      .mapping .defaults []] ++ Config.variableLayers environment))).toOption = some config) :
    Config.extract emptyHost environment ((none : Option String).getD Config.defaultFile) =
      .ok config := by
  have named : NamesInRoot "/trivy-monitor.yaml" "trivy-monitor.yaml" := by decide +kernel
  have paths : Config.filePaths emptyHost.directory Config.defaultFile =
      ["/trivy-monitor.yaml"] := by decide +kernel
  have missing : Config.findFile? emptyHost Config.defaultFile = none := by
    rw [Config.findFile?, paths, List.find?_singleton, Files.isFile, named.node_eq rfl]
    rfl
  have layer : Config.fileLayer? emptyHost Config.defaultFile = some (.mapping .defaults []) := by
    rw [Config.fileLayer?, missing]
  rw [Option.getD_none, Config.extract, layer]
  dsimp only
  cases read : Config.decode .layered (Config.overlay ([Config.defaultLayer,
      .mapping .defaults []] ++ Config.variableLayers environment)) with
  | error => rw [read] at decoded; cases decoded
  | ok found =>
    rw [read] at decoded
    rw [Option.some.inj decoded]
    rfl

/-- A flag with a good port does not make up for a port of zero in the environment, though without
the variable the same flag gives the same effective configuration, which is valid. -/
theorem overriddenPort_refused :
    let effective := override Config.default none (some 8080)
    (∃ config, Config.extract emptyHost [("PORT", "0")] Config.defaultFile = .ok config ∧
      override config none (some 8080) = effective) ∧
    effective.validate = .ok () ∧
    configured none (some 8080) emptyHost [("PORT", "0")] none = .error (.invalid (.port 0)) ∧
    serve none (some 8080) emptyHost [("PORT", "0")] none = (.error "Invalid port: 0", emptyHost) ∧
    configured none (some 8080) emptyHost [] none = .ok effective := by
  have extracted : Config.extract emptyHost [("PORT", "0")]
      ((none : Option String).getD Config.defaultFile) =
        .ok (override Config.default none (some 0)) := extract_emptyHost (by decide +kernel)
  have extracted' : Config.extract emptyHost []
      ((none : Option String).getD Config.defaultFile) = .ok Config.default :=
    extract_emptyHost (by decide +kernel)
  have refused : configured none (some 8080) emptyHost [("PORT", "0")] none =
      .error (.invalid (.port 0)) := configured_eq extracted none (some 8080)
  refine ⟨⟨_, extracted, rfl⟩, rfl, refused, ?_, configured_eq extracted' none (some 8080)⟩
  rw [serve_eq_launch, refused]
  rfl

/-- A server gets past its configuration if the effective configuration is valid and the file and
the environment alone do not give a port of zero, and only then. Both configurations are checked,
the one without the flags first, and what is wrong in the first that is not valid is the error.
Where the flags neither replace a port of zero nor set one it is the effective configuration alone
that decides; and two sources with the same effective configuration, wherever they are, are answered
alike, unless just one of them has a port of zero. -/
theorem serve_decided_by_both
    (extracted : Config.extract host environment (file.getD Config.defaultFile) = .ok config)
    (address : Option String) (port : Option Nat) :
    let effective := override config address port
    let outcome := configured address port host environment file
    (serve address port host environment file =
      match outcome with
      | .error error => (.error error.message, host)
      | .ok found => launch found host) ∧
    ((∃ found, outcome = .ok found) ↔ effective.validate = .ok () ∧ config.server.port ≠ 0) ∧
    outcome = Except.mapError .invalid (do
      config.validate
      effective.validate
      return effective) ∧
    ((config.server.port = 0 ↔ effective.server.port = 0) →
      outcome = Except.mapError .invalid (do
        effective.validate
        return effective)) ∧
    ∀ host' environment' file' other address' port',
      Config.extract host' environment' (file'.getD Config.defaultFile) = .ok other →
      override other address' port' = effective →
      (other.server.port = 0 ↔ config.server.port = 0) →
      serve address' port' host' environment' file' =
        match outcome with
        | .error error => (.error error.message, host')
        | .ok found => launch found host' := by
  intro effective outcome
  refine ⟨serve_eq_launch address port host environment file, ?_,
    configured_eq extracted address port, configured_eq_of_port extracted, ?_⟩
  · rw [configured_eq_ok_iff extracted]
    constructor
    · rintro ⟨valid, valid'⟩
      exact ⟨valid', Config.port_ne_zero_of_validate valid⟩
    · rintro ⟨valid, some⟩
      have some' := Config.port_ne_zero_of_validate valid
      have same : config.validate = effective.validate :=
        Config.validate_congr rfl rfl (iff_of_false some some')
      exact ⟨same.trans valid, valid⟩
  · intro host' environment' file' other address' port' extracted' same port_iff
    rw [serve_eq_launch, configured_eq_of_override_eq extracted extracted' same port_iff]

/-- Of a wrong level in the environment and a port of zero in a flag the level is reported. -/
theorem wrongLevel_reported :
    let environment := [("TRIVY_MONITOR_LOGGING__LEVEL", "loud")]
    Config.extract emptyHost environment Config.defaultFile =
        .ok { Config.default with logging := { Config.Logging.default with level := "loud" } } ∧
      serve none (some 0) emptyHost environment none =
        (.error "Invalid log level: loud. Must be one of: trace, debug, info, warn, error",
          emptyHost) := by
  intro environment
  have extracted : Config.extract emptyHost environment
      ((none : Option String).getD Config.defaultFile) =
        .ok { Config.default with logging := { Config.Logging.default with level := "loud" } } :=
    extract_emptyHost (by decide +kernel)
  obtain ⟨served, -, outcome, -⟩ := serve_decided_by_both extracted none (some 0)
  exact ⟨extracted, by rw [served, outcome]; rfl⟩

end Cli

end BuildMonitor
