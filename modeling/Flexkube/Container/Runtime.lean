import Flexkube.Container.Types

/-!
# Remote Operations

The five remote operations `Execute` relies on live outside `src/`:
`containersState.CheckState`, `hostConfiguredContainer.Configure`,
`hostConfiguredContainer.Start`, `containersState.CreateAndStart` and
`containersState.RemoveContainer`. They are modelled from the spec (§4.3, §4.5):

- `CheckState` refreshes every entry's status from its host's runtime and reads back
  the content of every path of its `configFiles` (a path missing on the host is dropped);
- `Configure(files)` writes the listed paths of the entry's `configFiles` to its host;
- `Start` starts the recorded container; the recorded status is left as it is
  (statuses are "populated by refresh");
- `CreateAndStart(n)` pushes all config files of `desiredState[n]` to its host, creates
  and starts a container there, and records its status in `desiredState[n]`;
- `RemoveContainer(n)` stops and removes the container `currentState[n]` records
  (nothing if it is already gone), deletes the config files it owns and drops the entry.

Each is one remote operation: it is logged, and when the hosts' failure pattern says it
fails it returns that error and has no effect.
-/

namespace Flexkube

variable {H C : Type}

/-! ## Hosts -/

namespace Hosts

/-- Append an operation to the log. -/
def record (h : Hosts H C) (e : Event) : Hosts H C := { h with log := h.log ++ [e] }

/-- A new container, under the next unused identifier. -/
def spawn (h : Hosts H C) (i : Instance H C) : Hosts H C where
  instances := Function.update h.instances h.nextId (some i)
  nextId := h.nextId + 1
  fresh := fun j hj => by
    rw [Function.update_noteq (by omega)]
    exact h.fresh j (by omega)
  files := h.files
  log := h.log
  fails := h.fails

/-- Every remote operation succeeds. -/
def NoFaults (h : Hosts H C) : Prop := ∀ i, h.fails i = none

@[simp] theorem record_instances (h : Hosts H C) e : (h.record e).instances = h.instances := rfl
@[simp] theorem record_nextId (h : Hosts H C) e : (h.record e).nextId = h.nextId := rfl
@[simp] theorem record_files (h : Hosts H C) e : (h.record e).files = h.files := rfl
@[simp] theorem record_log (h : Hosts H C) e : (h.record e).log = h.log ++ [e] := rfl
@[simp] theorem record_fails (h : Hosts H C) e : (h.record e).fails = h.fails := rfl

@[simp] theorem spawn_instances (h : Hosts H C) i :
    (h.spawn i).instances = Function.update h.instances h.nextId (some i) := rfl
@[simp] theorem spawn_nextId (h : Hosts H C) i : (h.spawn i).nextId = h.nextId + 1 := rfl
@[simp] theorem spawn_files (h : Hosts H C) i : (h.spawn i).files = h.files := rfl
@[simp] theorem spawn_log (h : Hosts H C) i : (h.spawn i).log = h.log := rfl
@[simp] theorem spawn_fails (h : Hosts H C) i : (h.spawn i).fails = h.fails := rfl

theorem NoFaults.record {h : Hosts H C} (hf : h.NoFaults) e : (h.record e).NoFaults := hf

end Hosts

/-- The world after logging `e`. -/
def World.record (w : World H C) (e : Event) : World H C := { w with hosts := w.hosts.record e }

@[simp] theorem World.record_currentState (w : World H C) e :
    (w.record e).currentState = w.currentState := rfl
@[simp] theorem World.record_desiredState (w : World H C) e :
    (w.record e).desiredState = w.desiredState := rfl
@[simp] theorem World.record_hosts (w : World H C) e : (w.record e).hosts = w.hosts.record e := rfl

/-- Issue the remote operation `e`: it is logged, and it either fails as the failure
pattern says, with no effect, or has effect `effect`. -/
def remote (e : Event) (effect : World H C → World H C) : Exec (World H C) Unit := fun w =>
  match w.hosts.fails w.hosts.log.length with
  | some err => (.error err, w.record e)
  | none => (.ok (), effect (w.record e))

theorem remote_ok {e : Event} {f : World H C → World H C} {w : World H C}
    (hf : w.hosts.NoFaults) : remote e f w = (.ok (), f (w.record e)) := by
  simp [remote, hf w.hosts.log.length]

theorem remote_fail {e : Event} {f : World H C → World H C} {w : World H C} {err : String}
    (h : w.hosts.fails w.hosts.log.length = some err) :
    remote e f w = (.error err, w.record e) := by
  simp [remote, h]

variable [DecidableEq H]

namespace Hosts

/-- The container with identifier `id` that the runtime on `host` holds. -/
def find (h : Hosts H C) (host : H) (id : Nat) : Option (Instance H C) :=
  (h.instances id).filter fun i => decide (i.host = host)

/-- What the runtime on `host` reports for a recorded status. -/
def probe (h : Hosts H C) (host : H) (st : Option ContainerStatus) : Option ContainerStatus :=
  st.bind fun s => (h.find host s.id).map fun i => ⟨s.id, i.running⟩

/-- Start the container a recorded status names on `host`, if the runtime holds it. -/
def startAt (h : Hosts H C) (host : H) (st : Option ContainerStatus) : Hosts H C where
  instances := fun j =>
    if st.map ContainerStatus.id = some j ∧ (h.find host j).isSome then
      (h.instances j).map fun i => { i with running := true }
    else h.instances j
  nextId := h.nextId
  fresh := fun j hj => by simp [h.fresh j hj]
  files := h.files
  log := h.log
  fails := h.fails

/-- Stop and remove the container a recorded status names on `host`, if the runtime
holds it. -/
def removeAt (h : Hosts H C) (host : H) (st : Option ContainerStatus) : Hosts H C where
  instances := fun j =>
    if st.map ContainerStatus.id = some j ∧ (h.find host j).isSome then none else h.instances j
  nextId := h.nextId
  fresh := fun j hj => by simp [h.fresh j hj]
  files := h.files
  log := h.log
  fails := h.fails

/-- Write the paths `ps` of `m` to `host`. -/
def writeFiles (h : Hosts H C) (host : H) (m : GoMap String) (ps : List String) : Hosts H C :=
  { h with files := fun h' p =>
      if h' = host ∧ p ∈ ps ∧ (m.get p).isSome then m.get p else h.files h' p }

/-- Delete the paths `ps` on `host`. -/
def removeFiles (h : Hosts H C) (host : H) (ps : List String) : Hosts H C :=
  { h with files := fun h' p => if h' = host ∧ p ∈ ps then none else h.files h' p }

@[simp] theorem startAt_nextId (h : Hosts H C) host st :
    (h.startAt host st).nextId = h.nextId := rfl
@[simp] theorem startAt_files (h : Hosts H C) host st : (h.startAt host st).files = h.files := rfl
@[simp] theorem startAt_log (h : Hosts H C) host st : (h.startAt host st).log = h.log := rfl
@[simp] theorem startAt_fails (h : Hosts H C) host st : (h.startAt host st).fails = h.fails := rfl

@[simp] theorem removeAt_nextId (h : Hosts H C) host st :
    (h.removeAt host st).nextId = h.nextId := rfl
@[simp] theorem removeAt_files (h : Hosts H C) host st :
    (h.removeAt host st).files = h.files := rfl
@[simp] theorem removeAt_log (h : Hosts H C) host st : (h.removeAt host st).log = h.log := rfl
@[simp] theorem removeAt_fails (h : Hosts H C) host st :
    (h.removeAt host st).fails = h.fails := rfl

@[simp] theorem writeFiles_instances (h : Hosts H C) host m ps :
    (h.writeFiles host m ps).instances = h.instances := rfl
@[simp] theorem writeFiles_nextId (h : Hosts H C) host m ps :
    (h.writeFiles host m ps).nextId = h.nextId := rfl
@[simp] theorem writeFiles_log (h : Hosts H C) host m ps :
    (h.writeFiles host m ps).log = h.log := rfl
@[simp] theorem writeFiles_fails (h : Hosts H C) host m ps :
    (h.writeFiles host m ps).fails = h.fails := rfl

@[simp] theorem removeFiles_instances (h : Hosts H C) host ps :
    (h.removeFiles host ps).instances = h.instances := rfl
@[simp] theorem removeFiles_nextId (h : Hosts H C) host ps :
    (h.removeFiles host ps).nextId = h.nextId := rfl
@[simp] theorem removeFiles_log (h : Hosts H C) host ps : (h.removeFiles host ps).log = h.log := rfl
@[simp] theorem removeFiles_fails (h : Hosts H C) host ps :
    (h.removeFiles host ps).fails = h.fails := rfl

end Hosts

/-! ## Effects on the world -/

/-- `CheckState` on one entry: its status and config files as its host reports them. -/
def HostConfiguredContainer.refresh (h : Hosts H C) (r : HostConfiguredContainer H C) :
    HostConfiguredContainer H C where
  host := r.host
  container := { r.container with status := h.probe r.host r.container.status }
  configFiles := r.configFiles.filterMap fun p _ => h.files r.host p

namespace World

/-- What `CheckState` does: every current entry as its host reports it. -/
def checkState (w : World H C) : World H C :=
  { w with currentState := w.currentState.map fun _ r => r.refresh w.hosts }

/-- What `Configure(files)` on the entry `d` does. -/
def configure (w : World H C) (d : HostConfiguredContainer H C) (files : List String) :
    World H C :=
  { w with hosts := w.hosts.writeFiles d.host d.configFiles files }

/-- What `Start` on the entry `r` does. -/
def start (w : World H C) (r : HostConfiguredContainer H C) : World H C :=
  { w with hosts := w.hosts.startAt r.host r.container.status }

/-- What `CreateAndStart(n)` of the desired entry `d` does. -/
def createAndStart (w : World H C) (n : String) (d : HostConfiguredContainer H C) : World H C :=
  { w with
    hosts := (w.hosts.writeFiles d.host d.configFiles d.configFiles.keys).spawn
      ⟨n, d.host, d.container.config, true⟩
    desiredState := w.desiredState.set n (d.withStatus (some ⟨w.hosts.nextId, true⟩)) }

/-- What `RemoveContainer(n)` of the current entry `r` does. -/
def removeContainer (w : World H C) (n : String) (r : HostConfiguredContainer H C) : World H C :=
  { w with
    hosts := (w.hosts.removeAt r.host r.container.status).removeFiles r.host r.configFiles.keys
    currentState := w.currentState.delete n }

@[simp] theorem checkState_currentState (w : World H C) :
    w.checkState.currentState = w.currentState.map fun _ r => r.refresh w.hosts := rfl
@[simp] theorem checkState_desiredState (w : World H C) :
    w.checkState.desiredState = w.desiredState := rfl
@[simp] theorem checkState_hosts (w : World H C) : w.checkState.hosts = w.hosts := rfl

@[simp] theorem configure_currentState (w : World H C) d fs :
    (w.configure d fs).currentState = w.currentState := rfl
@[simp] theorem configure_desiredState (w : World H C) d fs :
    (w.configure d fs).desiredState = w.desiredState := rfl
@[simp] theorem configure_hosts (w : World H C) d fs :
    (w.configure d fs).hosts = w.hosts.writeFiles d.host d.configFiles fs := rfl

@[simp] theorem start_currentState (w : World H C) r :
    (w.start r).currentState = w.currentState := rfl
@[simp] theorem start_desiredState (w : World H C) r :
    (w.start r).desiredState = w.desiredState := rfl
@[simp] theorem start_hosts (w : World H C) r :
    (w.start r).hosts = w.hosts.startAt r.host r.container.status := rfl

@[simp] theorem createAndStart_currentState (w : World H C) n d :
    (w.createAndStart n d).currentState = w.currentState := rfl
@[simp] theorem createAndStart_desiredState (w : World H C) n d :
    (w.createAndStart n d).desiredState =
      w.desiredState.set n (d.withStatus (some ⟨w.hosts.nextId, true⟩)) := rfl
@[simp] theorem createAndStart_hosts (w : World H C) n d :
    (w.createAndStart n d).hosts =
      (w.hosts.writeFiles d.host d.configFiles d.configFiles.keys).spawn
        ⟨n, d.host, d.container.config, true⟩ := rfl

@[simp] theorem removeContainer_currentState (w : World H C) n r :
    (w.removeContainer n r).currentState = w.currentState.delete n := rfl
@[simp] theorem removeContainer_desiredState (w : World H C) n r :
    (w.removeContainer n r).desiredState = w.desiredState := rfl
@[simp] theorem removeContainer_hosts (w : World H C) n r :
    (w.removeContainer n r).hosts =
      (w.hosts.removeAt r.host r.container.status).removeFiles r.host r.configFiles.keys := rfl

end World

/-! ## The operations -/

/-- `containersState.CheckState`, run on `currentState`. -/
def checkState : Exec (World H C) Unit := remote .checkState World.checkState

/-- `hostConfiguredContainer.Configure(files)` on the entry `d` of name `n`. -/
def configure (n : String) (d : HostConfiguredContainer H C) (files : List String) :
    Exec (World H C) Unit :=
  remote (.configure n files) fun w => w.configure d files

/-- `hostConfiguredContainer.Start` on the entry `r` of name `n`. -/
def start (n : String) (r : HostConfiguredContainer H C) : Exec (World H C) Unit :=
  remote (.start n) fun w => w.start r

/-- `containersState.CreateAndStart(n)`, run on `desiredState`. -/
def createAndStart (n : String) : Exec (World H C) Unit := fun w =>
  match w.desiredState.get n with
  | none => (.error "can't create non-existing container", w)
  | some d => remote (.createAndStart n) (fun w => w.createAndStart n d) w

/-- `containersState.RemoveContainer(n)`, run on `currentState`. -/
def removeContainer (n : String) : Exec (World H C) Unit := fun w =>
  match w.currentState.get n with
  | none => (.error "can't remove non-existing container", w)
  | some r => remote (.removeContainer n) (fun w => w.removeContainer n r) w

theorem checkState_ok {w : World H C} (hf : w.hosts.NoFaults) :
    checkState w = (.ok (), (w.record .checkState).checkState) := remote_ok hf

theorem configure_ok {w : World H C} (hf : w.hosts.NoFaults) (n d fs) :
    configure n d fs w = (.ok (), (w.record (.configure n fs)).configure d fs) := remote_ok hf

theorem start_ok {w : World H C} (hf : w.hosts.NoFaults) (n r) :
    start n r w = (.ok (), (w.record (.start n)).start r) := remote_ok hf

theorem createAndStart_ok {w : World H C} {n : String} {d : HostConfiguredContainer H C}
    (hf : w.hosts.NoFaults) (hd : w.desiredState.get n = some d) :
    createAndStart n w = (.ok (), (w.record (.createAndStart n)).createAndStart n d) := by
  simp [createAndStart, hd, remote_ok hf]

theorem removeContainer_ok {w : World H C} {n : String} {r : HostConfiguredContainer H C}
    (hf : w.hosts.NoFaults) (hr : w.currentState.get n = some r) :
    removeContainer n w = (.ok (), (w.record (.removeContainer n)).removeContainer n r) := by
  simp [removeContainer, hr, remote_ok hf]

end Flexkube
