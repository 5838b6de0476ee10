import Flexkube.Container.GoMap
import Flexkube.Exec

/-!
# Containers, Hosts and the Engine State

The data model of `pkg/container`. A `HostConfiguredContainer` is one container's
placement (`host`), its runtime spec and recorded status (`container`), and the config
files it owns (`configFiles`, path to content). A `ContainersState` maps names to them.

The host descriptor and the runtime config are compared structurally and never looked
into, so they are type parameters `H` and `C` with decidable equality.

The remote side (hosts, their container runtimes and file systems) is not under `src/`;
it is modelled from the spec (§4.5, §6): every runtime gives each container it creates a
fresh identifier, and a host's file system maps absolute paths to contents. The hosts
also keep the log of the remote operations the engine issues, and a failure pattern that
says which of them fail.

Go's pointers are not modelled: within one run of the engine, a map entry and the
pointer it aliases always hold the same value, so the maps hold values.
-/

namespace Flexkube

variable {H C : Type}

/-! ## Host-configured containers -/

/-- A container status as the runtime reports it: its identifier and whether it runs. -/
structure ContainerStatus where
  id : Nat
  running : Bool
deriving DecidableEq, Repr

/-- `container`: the runtime config and the status last recorded for it. -/
structure Container (C : Type) where
  config : C
  status : Option ContainerStatus

/-- `Exists()`: some status was recorded for the container. -/
def Container.exists (c : Container C) : Bool := c.status.isSome

/-- `IsRunning()`: the recorded status says the container runs. -/
def Container.isRunning (c : Container C) : Bool :=
  match c.status with
  | some s => s.running
  | none => false

/-- `hostConfiguredContainer`: a container, where it runs, and the files it owns. -/
structure HostConfiguredContainer (H C : Type) where
  host : H
  container : Container C
  configFiles : GoMap String

/-- `containersState`: container names to host-configured containers. -/
abbrev ContainersState (H C : Type) := GoMap (HostConfiguredContainer H C)

/-- The same entry with another recorded status. -/
def HostConfiguredContainer.withStatus (r : HostConfiguredContainer H C)
    (st : Option ContainerStatus) : HostConfiguredContainer H C :=
  { r with container := { r.container with status := st } }

/-- The same entry with other config files. -/
def HostConfiguredContainer.withFiles (r : HostConfiguredContainer H C) (f : GoMap String) :
    HostConfiguredContainer H C :=
  { r with configFiles := f }

@[simp] theorem withStatus_host (r : HostConfiguredContainer H C) st :
    (r.withStatus st).host = r.host := rfl
@[simp] theorem withStatus_config (r : HostConfiguredContainer H C) st :
    (r.withStatus st).container.config = r.container.config := rfl
@[simp] theorem withStatus_status (r : HostConfiguredContainer H C) st :
    (r.withStatus st).container.status = st := rfl
@[simp] theorem withStatus_configFiles (r : HostConfiguredContainer H C) st :
    (r.withStatus st).configFiles = r.configFiles := rfl
@[simp] theorem withFiles_host (r : HostConfiguredContainer H C) f :
    (r.withFiles f).host = r.host := rfl
@[simp] theorem withFiles_container (r : HostConfiguredContainer H C) f :
    (r.withFiles f).container = r.container := rfl
@[simp] theorem withFiles_configFiles (r : HostConfiguredContainer H C) f :
    (r.withFiles f).configFiles = f := rfl

/-! ## The remote side -/

/-- A remote operation the engine issues, under the name of the entry it serves. -/
inductive Event where
  | checkState
  | start (n : String)
  | configure (n : String) (files : List String)
  | createAndStart (n : String)
  | removeContainer (n : String)
deriving DecidableEq, Repr

/-- The name an operation serves (`CheckState` serves them all). -/
def Event.name? : Event → Option String
  | .checkState => none
  | .start n => some n
  | .configure n _ => some n
  | .createAndStart n => some n
  | .removeContainer n => some n

@[simp] theorem Event.name?_checkState : Event.checkState.name? = none := rfl
@[simp] theorem Event.name?_start (n : String) : (Event.start n).name? = some n := rfl
@[simp] theorem Event.name?_configure (n : String) fs : (Event.configure n fs).name? = some n := rfl
@[simp] theorem Event.name?_createAndStart (n : String) :
    (Event.createAndStart n).name? = some n := rfl
@[simp] theorem Event.name?_removeContainer (n : String) :
    (Event.removeContainer n).name? = some n := rfl

/-- A container a runtime holds. `name` is the name of the `CreateAndStart` call that
made it; a runtime does not read it. -/
structure Instance (H C : Type) where
  name : String
  host : H
  config : C
  running : Bool

/-- Modelled from the spec (§4.5, §6): the hosts. Each runtime holds containers by the
identifier it gave them, identifiers from `nextId` on are unused, each host's file system
maps paths to contents; `log` lists the remote operations issued so far and `fails`
says which of them (by position in the log) fail, and with what error. -/
structure Hosts (H C : Type) where
  instances : Nat → Option (Instance H C)
  nextId : Nat
  fresh : ∀ i, nextId ≤ i → instances i = none
  files : H → String → Option String
  log : List Event
  fails : Nat → Option String

/-- The engine's maps and the hosts they describe: what `Execute` reads and writes. -/
structure World (H C : Type) where
  currentState : ContainersState H C
  desiredState : ContainersState H C
  hosts : Hosts H C

end Flexkube
