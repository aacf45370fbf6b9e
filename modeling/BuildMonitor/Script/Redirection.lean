import BuildMonitor.Script.Builtin

/-!
# Redirections

Before a command runs its redirections are carried out from left to right: each lets a descriptor of
the process lead to a file, to what another descriptor leads to, to a text in the script, or to
nothing. The words that name files are expanded first.

Main definitions: `Machine.redirectAll`, `RedirectionFault`.
-/

namespace BuildMonitor.Script

open BuildMonitor.Host

/-- Why a redirection was not carried out. -/
inductive RedirectionFault where
  /-- Its word cannot be expanded. -/
  | expansion (fault : ExpansionFault)
  /-- What it names cannot be opened. -/
  | opening (fault : Machine.OpenFault)
  deriving DecidableEq, Repr

/-- The words for why a redirection was not carried out. -/
def RedirectionFault.message : RedirectionFault → String
  | .expansion fault => fault.message
  | .opening fault => fault.message

/-- A redirection with its word expanded. -/
structure OpenRequest where
  descriptor : Nat
  kind : Redirection
  target : Octets
  deriving DecidableEq, Repr

/-- Expands the words of redirections. -/
def expandRedirects : List Redirect → Scope → Except ExpansionFault (List OpenRequest × Scope)
  | [], scope => .ok ([], scope)
  | redirect :: rest, scope => do
    let (target, scope) ← expandText redirect.target scope
    let (others, scope) ← expandRedirects rest scope
    return (⟨redirect.descriptor, redirect.kind, target⟩ :: others, scope)

namespace Machine

/-- Lets a descriptor lead to a channel of its own. -/
def openChannel (machine : Machine) (pid descriptor : Nat) (channel : Channel) : Machine :=
  let (number, machine) := machine.addChannel channel
  machine.setDescriptor pid descriptor number

/-- Lets a descriptor read a text. -/
def openDocument (machine : Machine) (pid descriptor : Nat) (text : Octets) : Machine :=
  let (pipe, machine) := machine.addPipe false
  (machine.setPipeContent pipe text.toBytes).openChannel pid descriptor (.source pipe)

/-- Carries out one redirection. -/
def redirect (machine : Machine) (pid : Nat) (request : OpenRequest) : Except OpenFault Machine :=
  match machine.find? pid with
  | none => .ok machine
  | some process =>
    let write (appends : Bool) : Except OpenFault Machine := do
      let (channel, machine) ←
        machine.openToWrite process.directory request.target appends
      return machine.openChannel pid request.descriptor channel
    match request.kind with
    | .input => do
      let channel ← machine.openToRead process.directory request.target
      return machine.openChannel pid request.descriptor channel
    | .output => write false
    | .append => write true
    | .document => .ok (machine.openDocument pid request.descriptor request.target)
    | .duplicate =>
      if request.target = ['-'] then .ok (machine.closeDescriptor pid request.descriptor)
      else
        match (Scope.number? request.target).bind fun held => process.descriptors.lookup held with
        | some number => .ok (machine.setDescriptor pid request.descriptor number)
        | none => .error (.badDescriptor request.target)

/-- Carries out redirections. Those before one that fails stay carried out. -/
def redirectEach (machine : Machine) (pid : Nat) :
    List OpenRequest → Option OpenFault × Machine
  | [] => (none, machine)
  | request :: rest =>
    match machine.redirect pid request with
    | .ok machine => machine.redirectEach pid rest
    | .error fault => (some fault, machine)

/-- Expands redirections and carries them out. -/
def redirectAll (machine : Machine) (pid : Nat) (redirects : List Redirect) :
    Option RedirectionFault × Machine :=
  match machine.shell? pid with
  | none => (none, machine)
  | some shell =>
    match expandRedirects redirects shell.scope with
    | .error fault => (some (.expansion fault), machine)
    | .ok (requests, scope) =>
      let (fault, machine) := (machine.updateScope pid fun _ => scope).redirectEach pid requests
      (fault.map .opening, machine)

/-- Takes descriptors back. -/
def restoreDescriptors (machine : Machine) (pid : Nat) (descriptors : Descriptors) : Machine :=
  machine.update pid fun process => { process with descriptors := descriptors }

end Machine

end BuildMonitor.Script
