import Flexkube.Container.Engine

/-!
# What Each Step of the Reconciler Does

One lemma per function of the reconciler: when no remote operation fails, it returns
`nil` and leaves a world given in closed form, built from the effects of the remote
operations it issued. Later proofs cite these lemmas and never unfold the functions.
-/

namespace Flexkube

open Exec

variable {H C : Type}
variable {w : World H C} {n : String} {d r : HostConfiguredContainer H C}

/-! ## Entries the steps leave behind -/

/-- The current entry `ensureConfigured` leaves for the desired entry `d`. -/
def configuredEntry (d : HostConfiguredContainer H C) :
    Option (HostConfiguredContainer H C) → HostConfiguredContainer H C
  | none => d
  | some r => r.withFiles d.configFiles

/-- The current entry `ensureExists` leaves after creating `d'`. -/
def createdEntry (d' : HostConfiguredContainer H C) :
    Option (HostConfiguredContainer H C) → HostConfiguredContainer H C
  | none => d'
  | some r => r.withStatus d'.container.status

/-- The desired entry `d` once `CreateAndStart` gave it the identifier `k`. -/
def HostConfiguredContainer.started (d : HostConfiguredContainer H C) (k : Nat) :
    HostConfiguredContainer H C :=
  d.withStatus (some ⟨k, true⟩)

@[simp] theorem withFiles_self (r : HostConfiguredContainer H C) : r.withFiles r.configFiles = r :=
  rfl

/-- Nothing to write when the current entry already holds the desired files. -/
theorem filesToUpdate_of_configFiles_eq (h : r.configFiles = d.configFiles) :
    filesToUpdate d (some r) = [] := by
  simp only [filesToUpdate, h, List.filter_eq_nil_iff]
  intro p hp
  obtain ⟨v, hv⟩ := d.configFiles.get_of_mem_keys hp
  simp [hv]

theorem configuredEntry_exists (d : HostConfiguredContainer H C) (r) :
    (configuredEntry d r).container.exists = (r.getD d).container.exists := by
  cases r <;> rfl

@[simp] theorem configuredEntry_configFiles (d : HostConfiguredContainer H C) (r) :
    (configuredEntry d r).configFiles = d.configFiles := by
  cases r <;> rfl

@[simp] theorem configuredEntry_some_self (h : r.configFiles = d.configFiles) :
    configuredEntry d (some r) = r := by
  simp [configuredEntry, ← h]

variable [DecidableEq H]

/-- The world `ensureConfigured` leaves for a desired `d` . -/
def World.configured (w : World H C) (n : String) (d : HostConfiguredContainer H C) : World H C :=
  ((w.record (.configure n (filesToUpdate d (w.currentState.get n)))).configure d
    (filesToUpdate d (w.currentState.get n))).setCurrent n (configuredEntry d (w.currentState.get n))

@[simp] theorem World.configured_hosts_nextId (w : World H C) n d :
    (w.configured n d).hosts.nextId = w.hosts.nextId := rfl

@[simp] theorem World.configured_get_self (w : World H C) n d :
    (w.configured n d).currentState.get n = some (configuredEntry d (w.currentState.get n)) := by
  simp [World.configured]

/-- What `recreate` followed by `c.currentState[n] = c.desiredState[n]` does. -/
def World.recreated (w : World H C) (n : String) (r d : HostConfiguredContainer H C) :
    World H C :=
  ((((w.record (.removeContainer n)).removeContainer n r).record (.createAndStart n)).createAndStart
    n d).setCurrent n (d.started w.hosts.nextId)

/-! ## The helpers -/

theorem ensureConfigured_absent (hd : w.desiredState.get n = none) :
    ensureConfigured n w = (.ok (), w) := by
  simp [ensureConfigured, hd]

theorem ensureConfigured_ok (hf : w.hosts.NoFaults) (hd : w.desiredState.get n = some d) :
    ensureConfigured n w = (.ok (), w.configured n d) := by
  cases hr : w.currentState.get n <;>
    simp only [ensureConfigured, bind_apply, get_apply, hd, hr, wrap_apply, configure_ok hf,
      modify_apply, World.configured, configuredEntry]

/-- A desired name whose `ensureConfigured` returned `nil` was configured, whatever the
failure pattern of the hosts. -/
theorem ensureConfigured_of_ok (hd : w.desiredState.get n = some d)
    (hok : (ensureConfigured n w).1 = .ok ()) : (ensureConfigured n w).2 = w.configured n d := by
  cases hfl : w.hosts.fails w.hosts.log.length with
  | some e =>
    simp only [ensureConfigured, bind_apply, get_apply, hd, configure, remote, hfl, wrap_apply] at hok
    cases hok
  | none =>
    cases hr : w.currentState.get n <;>
      simp only [ensureConfigured, bind_apply, get_apply, hd, hr, configure, remote, hfl, wrap_apply,
        modify_apply, World.configured, configuredEntry]

theorem ensureExists_present (h : (w.currentState.get n).any (·.container.exists)) :
    ensureExists n w = (.ok (), w) := by
  simp [ensureExists, h]

theorem ensureExists_ok (hf : w.hosts.NoFaults) (hd : w.desiredState.get n = some d)
    (h : (w.currentState.get n).any (·.container.exists) = false) :
    ensureExists n w =
      (.ok (), ((w.record (.createAndStart n)).createAndStart n d).setCurrent n
        (createdEntry (d.started w.hosts.nextId) (w.currentState.get n))) := by
  have hd' : (((w.record (.createAndStart n)).createAndStart n d).desiredState.get n) =
      some (d.started w.hosts.nextId) := by simp [HostConfiguredContainer.started]
  cases hr : w.currentState.get n <;> rw [hr] at h <;>
    simp only [ensureExists, bind_apply, get_apply, hr, h, createAndStart_ok hf hd, wrap_apply,
      World.createAndStart_currentState, World.record_currentState, hd', modify_apply, createdEntry,
      HostConfiguredContainer.started, if_false, Bool.false_eq_true, ite_false]

theorem ensureRunning_running (h : r.container.isRunning) :
    ensureRunning n (some r) w = (.ok (), w) := by
  simp [ensureRunning, h]

theorem ensureRunning_stopped (hf : w.hosts.NoFaults) (h : r.container.isRunning = false) :
    ensureRunning n (some r) w = (.ok (), (w.record (.start n)).start r) := by
  simp [ensureRunning, h, start_ok hf]

section Updatable

omit [DecidableEq H]

theorem isUpdatable_ok (hr : w.currentState.get n = some r) (hd : w.desiredState.get n = some d) :
    isUpdatable n w = (.ok (), w) := by
  simp [isUpdatable, hr, hd]

/-- A name scheduled for removal is not updatable. -/
theorem isUpdatable_removed (hr : w.currentState.get n = some r)
    (hd : w.desiredState.get n = none) :
    isUpdatable n w =
      (.error ("can't update container '" ++ n ++ "', which is scheduler for removal"), w) := by
  simp [isUpdatable, hr, hd]

theorem isUpdatable_error_of_not_desired (hd : w.desiredState.get n = none) :
    ∃ e, isUpdatable n w = (.error e, w) := by
  cases hr : w.currentState.get n
  · simp [isUpdatable, hr]
  · exact ⟨_, isUpdatable_removed hr hd⟩

end Updatable

theorem diffHost_ok (hr : w.currentState.get n = some r) (hd : w.desiredState.get n = some d) :
    diffHost n w = (.ok (cmpDiff r.host d.host), w) := by
  simp [diffHost, isUpdatable_ok hr hd, hr, hd]

theorem recreate_ok (hf : w.hosts.NoFaults) (hr : w.currentState.get n = some r)
    (hd : w.desiredState.get n = some d) :
    recreate n w = (.ok (), (((w.record (.removeContainer n)).removeContainer n r).record
      (.createAndStart n)).createAndStart n d) := by
  have hd' : (((w.record (.removeContainer n)).removeContainer n r).record
      (.createAndStart n)).desiredState.get n = some d := by simpa using hd
  simp only [recreate, bind_apply, wrap_apply, removeContainer_ok hf hr]
  exact createAndStart_ok hf hd

theorem cmpDiff_eq_empty {α : Type} [DecidableEq α] {x y : α} : cmpDiff x y = "" ↔ x = y := by
  unfold cmpDiff; split <;> simp_all

theorem ensureHost_same (hr : w.currentState.get n = some r) (hd : w.desiredState.get n = some d)
    (h : r.host = d.host) : ensureHost n w = (.ok (), w) := by
  simp [ensureHost, diffHost_ok hr hd, cmpDiff_eq_empty.2 h]

theorem ensureHost_drift (hf : w.hosts.NoFaults) (hr : w.currentState.get n = some r)
    (hd : w.desiredState.get n = some d) (h : r.host ≠ d.host) :
    ensureHost n w = (.ok (), w.recreated n r d) := by
  have hne : ¬cmpDiff r.host d.host = "" := by rwa [cmpDiff_eq_empty]
  simp [ensureHost, diffHost_ok hr hd, hne, recreate_ok hf hr hd, World.recreated,
    World.copyDesired, HostConfiguredContainer.started]

section Config

variable [DecidableEq C]

omit [DecidableEq H] in
theorem diffContainer_ok (hr : w.currentState.get n = some r) (hd : w.desiredState.get n = some d) :
    diffContainer n w = (.ok (cmpDiff r.container.config d.container.config), w) := by
  simp [diffContainer, isUpdatable_ok hr hd, hr, hd]

theorem ensureContainer_same (hr : w.currentState.get n = some r)
    (hd : w.desiredState.get n = some d) (h : r.container.config = d.container.config) :
    ensureContainer n w = (.ok (), w) := by
  simp [ensureContainer, diffContainer_ok hr hd, cmpDiff_eq_empty.2 h]

theorem ensureContainer_drift (hf : w.hosts.NoFaults) (hr : w.currentState.get n = some r)
    (hd : w.desiredState.get n = some d) (h : r.container.config ≠ d.container.config) :
    ensureContainer n w = (.ok (), w.recreated n r d) := by
  have hne : ¬cmpDiff r.container.config d.container.config = "" := by rwa [cmpDiff_eq_empty]
  simp [ensureContainer, diffContainer_ok hr hd, hne, recreate_ok hf hr hd, World.recreated,
    World.copyDesired, HostConfiguredContainer.started]

end Config

/-! ## The pass bodies -/

theorem pass1Step_gone (h : r.container.exists = false) :
    pass1Step n r w = (.ok (), w.deleteCurrent n) := by
  simp [pass1Step, h]

theorem pass1Step_running (h : r.container.exists) (hr : r.container.isRunning) :
    pass1Step n r w = (.ok (), w) := by
  simp [pass1Step, h, ensureRunning_running hr]

theorem pass1Step_stopped (hf : w.hosts.NoFaults) (h : r.container.exists)
    (hr : r.container.isRunning = false) :
    pass1Step n r w = (.ok (), (w.record (.start n)).start r) := by
  simp [pass1Step, h, ensureRunning_stopped hf hr]

theorem pass2Step_present (hf : w.hosts.NoFaults) (hd : w.desiredState.get n = some d)
    (h : ((w.currentState.get n).getD d).container.exists) :
    pass2Step n w = (.ok (), w.configured n d) := by
  have h' : ((w.configured n d).currentState.get n).any (·.container.exists) := by
    simpa [World.configured, configuredEntry_exists] using h
  simp [pass2Step, ensureConfigured_ok hf hd, ensureExists_present h']

theorem pass2Step_create (hf : w.hosts.NoFaults) (hd : w.desiredState.get n = some d)
    (h : ((w.currentState.get n).getD d).container.exists = false) :
    pass2Step n w = (.ok (), (((w.configured n d).record (.createAndStart n)).createAndStart n
      d).setCurrent n ((configuredEntry d (w.currentState.get n)).withStatus
        (some ⟨w.hosts.nextId, true⟩))) := by
  have h' : ((w.configured n d).currentState.get n).any (·.container.exists) = false := by
    simpa [World.configured, configuredEntry_exists] using h
  have hf' : (w.configured n d).hosts.NoFaults := hf
  have hd' : (w.configured n d).desiredState.get n = some d := by simpa [World.configured] using hd
  simp [pass2Step, ensureConfigured_ok hf hd, ensureExists_ok hf' hd' h', createdEntry,
    HostConfiguredContainer.started]

@[simp] theorem World.recreated_hosts_nextId (w : World H C) n r d :
    (w.recreated n r d).hosts.nextId = w.hosts.nextId + 1 := rfl

@[simp] theorem World.recreated_current_self (w : World H C) n r d :
    (w.recreated n r d).currentState.get n = some (d.started w.hosts.nextId) := by
  simp [World.recreated]

@[simp] theorem World.recreated_desired_self (w : World H C) n r d :
    (w.recreated n r d).desiredState.get n = some (d.started w.hosts.nextId) := by
  simp [World.recreated, HostConfiguredContainer.started]

section Config

variable [DecidableEq C]

/-- Pass 3 on a name scheduled for removal stops `Execute`: `ensureHost` asks
`isUpdatable` first, before the loop would reach `RemoveContainer`. -/
theorem pass3Step_removed (hr : w.currentState.get n = some r) (hd : w.desiredState.get n = none) :
    pass3Step n w = (.error ("failed updating host configuration of container " ++ n ++ ": " ++
      ("failed to check host diff: " ++ ("can't diff container: " ++
        ("can't update container '" ++ n ++ "', which is scheduler for removal")))), w) := by
  simp [pass3Step, ensureHost, diffHost, isUpdatable_removed hr hd, String.append_assoc]

theorem pass3Step_hostDrift (hf : w.hosts.NoFaults) (hr : w.currentState.get n = some r)
    (hd : w.desiredState.get n = some d) (h : r.host ≠ d.host) :
    pass3Step n w = (.ok (), (w.recreated n r d).configured n (d.started w.hosts.nextId)) := by
  have hf1 : (w.recreated n r d).hosts.NoFaults := hf
  have hc := ensureConfigured_ok hf1 (World.recreated_desired_self w n r d)
  have hr2 : ((w.recreated n r d).configured n (d.started w.hosts.nextId)).currentState.get n =
      some (d.started w.hosts.nextId) := by simp
  have hd2 : ((w.recreated n r d).configured n (d.started w.hosts.nextId)).desiredState.get n =
      some (d.started w.hosts.nextId) := by simp [World.configured]
  simp [pass3Step, ensureHost_drift hf hr hd h, hc, ensureContainer_same hr2 hd2 rfl, hd2]

theorem pass3Step_configDrift (hf : w.hosts.NoFaults) (hr : w.currentState.get n = some r)
    (hd : w.desiredState.get n = some d) (h : r.host = d.host)
    (h' : r.container.config ≠ d.container.config) :
    pass3Step n w =
      (.ok (), (w.configured n d).recreated n (r.withFiles d.configFiles) d) := by
  have hf1 : (w.configured n d).hosts.NoFaults := hf
  have hr1 : (w.configured n d).currentState.get n = some (r.withFiles d.configFiles) := by
    simp [hr, configuredEntry]
  have hd1 : (w.configured n d).desiredState.get n = some d := by simpa [World.configured] using hd
  simp [pass3Step, ensureHost_same hr hd h, ensureConfigured_ok hf hd,
    ensureContainer_drift hf1 hr1 hd1 h', World.recreated]

theorem pass3Step_noDrift (hf : w.hosts.NoFaults) (hr : w.currentState.get n = some r)
    (hd : w.desiredState.get n = some d) (h : r.host = d.host)
    (h' : r.container.config = d.container.config) :
    pass3Step n w = (.ok (), w.configured n d) := by
  have hr1 : (w.configured n d).currentState.get n = some (r.withFiles d.configFiles) := by
    simp [hr, configuredEntry]
  have hd1 : (w.configured n d).desiredState.get n = some d := by simpa [World.configured] using hd
  simp [pass3Step, ensureHost_same hr hd h, ensureConfigured_ok hf hd,
    ensureContainer_same hr1 hd1 h', hd1]

end Config

end Flexkube
