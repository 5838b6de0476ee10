import Flexkube.Container.Containers

/-!
# Failures Only Abort

A remote operation that fails returns its error and has no effect, and every function of
the reconciler hands an error it receives back to its caller, under a prefix. So a run
that returns `nil` met no failing operation, and did exactly what the same run does on
hosts where nothing fails: the failure pattern of the hosts decides whether `Deploy`
returns `nil`, never what a `Deploy` that returns `nil` does (`deploy_ok_without_faults`).

The proof carries a successful run along `World.clearFaults` (`Exec.Transports`), one
lemma per function of the reconciler, assembled as the functions are.
-/

namespace Flexkube

open Exec

variable {H C : Type}

/-- The same hosts, where no remote operation fails. -/
def Hosts.clearFaults (h : Hosts H C) : Hosts H C := { h with fails := fun _ => none }

/-- The same world, on hosts where no remote operation fails. -/
def World.clearFaults (w : World H C) : World H C := { w with hosts := w.hosts.clearFaults }

theorem Hosts.noFaults_clearFaults (h : Hosts H C) : h.clearFaults.NoFaults := fun _ => rfl

@[simp] theorem Hosts.clearFaults_instances (h : Hosts H C) :
    h.clearFaults.instances = h.instances := rfl
@[simp] theorem Hosts.clearFaults_nextId (h : Hosts H C) : h.clearFaults.nextId = h.nextId := rfl
@[simp] theorem Hosts.clearFaults_files (h : Hosts H C) : h.clearFaults.files = h.files := rfl
@[simp] theorem Hosts.clearFaults_log (h : Hosts H C) : h.clearFaults.log = h.log := rfl

@[simp] theorem World.clearFaults_currentState (w : World H C) :
    w.clearFaults.currentState = w.currentState := rfl
@[simp] theorem World.clearFaults_desiredState (w : World H C) :
    w.clearFaults.desiredState = w.desiredState := rfl
@[simp] theorem World.clearFaults_hosts (w : World H C) : w.clearFaults.hosts = w.hosts.clearFaults :=
  rfl

/-! ## The remote operations -/

/-- A remote operation whose effect does not look at the failure pattern. -/
theorem remote_transports {e : Event} {f : World H C → World H C}
    (hf : ∀ w, f w.clearFaults = (f w).clearFaults) : Transports World.clearFaults (remote e f) :=
  fun w a w' h => by
    unfold remote at h
    split at h
    · cases h
    · cases h
      exact congrArg _ (hf (w.record e))

theorem World.copyDesired_clearFaults (w : World H C) (n : String) :
    w.clearFaults.copyDesired n = (w.copyDesired n).clearFaults := by
  simp only [World.copyDesired, World.clearFaults_desiredState]
  split <;> rfl

theorem isUpdatable_transports (n : String) :
    Transports World.clearFaults (isUpdatable (H := H) (C := C) n) :=
  .get_bind (fun _ => rfl) fun _ =>
    .ite (.bind (.fail _) fun _ => .ite (.fail _) (.pure _))
      (.bind (.pure _) fun _ => .ite (.fail _) (.pure _))

variable [DecidableEq H]

theorem checkState_transports : Transports World.clearFaults (checkState (H := H) (C := C)) :=
  remote_transports fun _ => rfl

theorem configure_transports (n : String) (d : HostConfiguredContainer H C) (fs : List String) :
    Transports World.clearFaults (configure n d fs) :=
  remote_transports fun _ => rfl

theorem start_transports (n : String) (r : HostConfiguredContainer H C) :
    Transports World.clearFaults (start n r) :=
  remote_transports fun _ => rfl

theorem createAndStart_transports (n : String) :
    Transports World.clearFaults (createAndStart (H := H) (C := C) n) := fun w a w' h => by
  unfold createAndStart at h ⊢
  cases hd : w.desiredState.get n with
  | none => rw [hd] at h; cases h
  | some d =>
    rw [hd] at h
    rw [World.clearFaults_desiredState, hd]
    exact remote_transports (f := fun w => w.createAndStart n d) (fun _ => rfl) w a w' h

theorem removeContainer_transports (n : String) :
    Transports World.clearFaults (removeContainer (H := H) (C := C) n) := fun w a w' h => by
  unfold removeContainer at h ⊢
  cases hr : w.currentState.get n with
  | none => rw [hr] at h; cases h
  | some r =>
    rw [hr] at h
    rw [World.clearFaults_currentState, hr]
    exact remote_transports (f := fun w => w.removeContainer n r) (fun _ => rfl) w a w' h

/-! ## The reconciler -/

theorem ensureConfigured_transports (n : String) :
    Transports World.clearFaults (ensureConfigured (H := H) (C := C) n) :=
  .get_bind (fun _ => rfl) fun w => by
    dsimp only
    split
    · exact .pure ()
    · exact .bind (.wrap _ (configure_transports n _ _)) fun _ => by
        split <;> exact .modify fun _ => rfl

theorem ensureRunning_transports (n : String) (c : Option (HostConfiguredContainer H C)) :
    Transports World.clearFaults (ensureRunning n c) := by
  cases c with
  | none => exact .fail _
  | some c => exact .ite (.pure ()) (start_transports n c)

theorem ensureExists_transports (n : String) :
    Transports World.clearFaults (ensureExists (H := H) (C := C) n) :=
  .get_bind (fun _ => rfl) fun w => by
    dsimp only
    refine .ite (.pure ()) (.bind (.pure ()) fun _ => .bind (.wrap _ (createAndStart_transports n))
      fun _ => .get_bind (fun _ => rfl) fun w' => ?_)
    split <;> first | exact .pure () | exact .modify fun _ => rfl

theorem diffHost_transports (n : String) :
    Transports World.clearFaults (diffHost (H := H) (C := C) n) :=
  .bind (.wrap _ (isUpdatable_transports n)) fun _ => .get_bind (fun _ => rfl) fun _ => by
    split <;> exact .pure _

theorem recreate_transports (n : String) :
    Transports World.clearFaults (recreate (H := H) (C := C) n) :=
  .bind (.wrap _ (removeContainer_transports n)) fun _ => createAndStart_transports n

theorem ensureHost_transports (n : String) :
    Transports World.clearFaults (ensureHost (H := H) (C := C) n) :=
  .bind (.wrap _ (diffHost_transports n)) fun _ => .ite (.pure ())
    (.bind (.pure ()) fun _ => .bind (.wrap _ (recreate_transports n)) fun _ => .modify fun w => w.copyDesired_clearFaults n)

theorem pass1Step_transports (n : String) (r : HostConfiguredContainer H C) :
    Transports World.clearFaults (pass1Step n r) := by
  unfold pass1Step
  exact .ite (.modify fun _ => rfl) (.wrap _ (ensureRunning_transports n (some r)))

theorem pass2Step_transports (i : String) :
    Transports World.clearFaults (pass2Step (H := H) (C := C) i) :=
  .bind (.wrap _ (ensureConfigured_transports i)) fun _ => .wrap _ (ensureExists_transports i)

variable [DecidableEq C]

omit [DecidableEq H] in
theorem diffContainer_transports (n : String) :
    Transports World.clearFaults (diffContainer (H := H) (C := C) n) :=
  .bind (.wrap _ (isUpdatable_transports n)) fun _ => .get_bind (fun _ => rfl) fun _ => by
    split <;> exact .pure _

theorem ensureContainer_transports (n : String) :
    Transports World.clearFaults (ensureContainer (H := H) (C := C) n) :=
  .bind (.wrap _ (diffContainer_transports n)) fun _ => .ite (.pure ())
    (.bind (.pure ()) fun _ => .bind (.wrap _ (recreate_transports n)) fun _ => .modify fun w => w.copyDesired_clearFaults n)

theorem pass3Step_transports (i : String) :
    Transports World.clearFaults (pass3Step (H := H) (C := C) i) :=
  .bind (.wrap _ (ensureHost_transports i)) fun _ =>
  .bind (.wrap _ (ensureConfigured_transports i)) fun _ =>
  .bind (.wrap _ (ensureContainer_transports i)) fun _ =>
  .get_bind (fun _ => rfl) fun _ => .ite (.pure ())
    (.bind (.pure ()) fun _ => .wrap _ (removeContainer_transports i))

omit [DecidableEq H] [DecidableEq C] in
/-- A loop whose body carries every successful run carries every successful run. -/
theorem rangeMap_transports {sel : World H C → ContainersState H C}
    {body : String → HostConfiguredContainer H C → Exec (World H C) Unit}
    (hsel : ∀ w, sel w.clearFaults = sel w) (hb : ∀ k v, Transports World.clearFaults (body k v)) :
    ∀ ks, Transports World.clearFaults (rangeMap sel body ks)
  | [] => .pure ()
  | k :: ks => by
    unfold rangeMap
    refine .get_bind (fun w => by dsimp only; rw [hsel]) fun w => ?_
    dsimp only
    split
    · exact .bind (.pure ()) fun _ => rangeMap_transports hsel hb ks
    · exact .bind (hb _ _) fun _ => rangeMap_transports hsel hb ks

theorem executePasses_transports (o : Orders) :
    Transports World.clearFaults (executePasses (H := H) (C := C) o) := by
  unfold executePasses
  exact .bind (rangeMap_transports (by intro; rfl) pass1Step_transports _) fun _ =>
    .bind (rangeMap_transports (by intro; rfl) (fun i _ => pass2Step_transports i) _) fun _ =>
      rangeMap_transports (by intro; rfl) (fun i _ => pass3Step_transports i) _

/-! ## The engine and `Deploy` -/

section Engine

variable {c c' : containers H C} {h h' : Hosts H C}

omit [DecidableEq H] [DecidableEq C] in
theorem containers.run_clearFaults {x : Exec (World H C) Unit} (hx : Transports World.clearFaults x)
    (hrun : c.run h x = (.ok (), c', h')) : c.run h.clearFaults x = (.ok (), c', h'.clearFaults) := by
  rcases hxw : x (c.world h) with ⟨res, w'⟩
  rw [containers.run_eq hxw, Prod.mk.injEq] at hrun
  obtain ⟨rfl, rfl, rfl⟩ := hrun
  exact containers.run_eq (hx _ () _ hxw)

omit [DecidableEq C] in
theorem containers.checkCurrentState_clearFaults (hok : c.checkCurrentState h = (.ok (), c', h')) :
    c.checkCurrentState h.clearFaults = (.ok (), c', h'.clearFaults) :=
  containers.run_clearFaults checkState_transports hok

theorem containers.execute_clearFaults {o : Orders} (hok : c.execute o h = (.ok (), c', h')) :
    c.execute o h.clearFaults = (.ok (), c', h'.clearFaults) := by
  cases hc : c.hasCurrentState
  · simp [containers.execute, hc] at hok
  · rw [containers.execute_of_hasCurrentState hc] at hok ⊢
    exact containers.run_clearFaults (executePasses_transports o) hok

end Engine

/-- **Failures only abort.** Whatever remote operations of the hosts fail, a `Deploy` that
returns `nil` returns the value, and leaves the hosts, that `Deploy` returns and leaves on
the same hosts where no remote operation fails. -/
theorem Containers.deploy_ok_without_faults {v : HostConfiguredContainer H C → Except String Unit} {o : Orders} {c c' : Containers H C}
    {h h' : Hosts H C} (hok : c.deploy v o h = (.ok (), c', h')) :
    c.deploy v o h.clearFaults = (.ok (), c', h'.clearFaults) := by
  unfold Containers.deploy at hok ⊢
  rcases hn : c.new v with _ | cs <;> rw [hn] at hok <;> dsimp only at hok ⊢
  · cases hok
  rcases hc : cs.checkCurrentState h with ⟨_ | ⟨⟩, c₁, h₁⟩ <;> rw [hc] at hok <;> dsimp only at hok
  · cases hok
  rw [containers.checkCurrentState_clearFaults hc]
  dsimp only
  rcases he : c₁.execute o h₁ with ⟨_ | ⟨⟩, c₂, h₂⟩ <;> rw [he] at hok <;> dsimp only at hok
  · cases hok
  rw [containers.execute_clearFaults he]
  cases hok
  rfl

/-- A caller's value desiring `"a"` on `"h1"` with one config file, with nothing recorded. -/
def firstDeploy : Containers String String :=
  ⟨none, some (GoMap.ofList [("a", ⟨"h1", ⟨"cfg", none⟩, GoMap.ofList [("/etc/a.conf", "x")]⟩)])⟩

/-- Hosts with no container, whose sixth remote operation fails. -/
def lateFault : Hosts String String :=
  ⟨fun _ => none, 1, fun _ _ => rfl, fun _ _ => none, [],
    fun i => if i = 5 then some "connection reset" else none⟩

/-- `Deploy` of `firstDeploy` issues four remote operations, so the failing sixth one is
never reached: it returns `nil`, as on hosts where nothing fails. -/
theorem late_fault_deploy_faultless :
    firstDeploy.deploy (fun _ => .ok ()) ⟨[], ["a"], ["a"]⟩ lateFault =
      (.ok (), (firstDeploy.deploy (fun _ => .ok ()) ⟨[], ["a"], ["a"]⟩ lateFault).2.1,
        (firstDeploy.deploy (fun _ => .ok ()) ⟨[], ["a"], ["a"]⟩ lateFault).2.2) ∧
    firstDeploy.deploy (fun _ => .ok ()) ⟨[], ["a"], ["a"]⟩ lateFault.clearFaults =
      (.ok (), (firstDeploy.deploy (fun _ => .ok ()) ⟨[], ["a"], ["a"]⟩ lateFault).2.1,
        (firstDeploy.deploy (fun _ => .ok ()) ⟨[], ["a"], ["a"]⟩ lateFault).2.2.clearFaults) :=
  have hok : firstDeploy.deploy (fun _ => .ok ()) ⟨[], ["a"], ["a"]⟩ lateFault =
      (.ok (), (firstDeploy.deploy (fun _ => .ok ()) ⟨[], ["a"], ["a"]⟩ lateFault).2.1,
        (firstDeploy.deploy (fun _ => .ok ()) ⟨[], ["a"], ["a"]⟩ lateFault).2.2) :=
    Prod.ext (by decide) rfl
  ⟨hok, Containers.deploy_ok_without_faults hok⟩

end Flexkube
