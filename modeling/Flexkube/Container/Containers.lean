import Flexkube.Container.Engine

/-!
# Exported and Validated Containers

A caller holds `Containers`, the pair of states it persists; `New` validates it into the
engine `containers`, whose `CheckCurrentState`, `Execute` and `ToExported` are the
public operations (`ContainersInterface`). `Containers.Deploy` chains them.

In Go, `containers.currentState` is nil until `CheckCurrentState` assigns it the very map
`previousState` is, and it is never assigned again: from then on the two names denote
one map, which `ToExported` exports. The model keeps that one map and a flag.

The validation of a single entry, `HostConfiguredContainer.New`, is not under `src/`; it is
the parameter `validateHcc`. A nil Go map is `none`.

`Containers.Deploy` replaces the caller's value by the exported engine only when all of
`New`, `CheckCurrentState` and `Execute` succeed (`Containers.deploy_error`). When
`Execute` fails after `CreateAndStart(n)` succeeded, the caller keeps the value it had, in
which `n` has no current entry, although the container the run created keeps running. The
next `Deploy` then creates a second container for `n` (`deploy_again_duplicates`).
-/

namespace Flexkube

open Exec

variable {H C : Type}

/-- `Containers`: the states a caller persists. -/
structure Containers (H C : Type) where
  previousState : Option (ContainersState H C)
  desiredState : Option (ContainersState H C)

/-- `containers`: the validated engine. `hasCurrentState` says whether `currentState` is
set; it then is `previousState`. -/
structure containers (H C : Type) where
  previousState : ContainersState H C
  hasCurrentState : Bool
  desiredState : ContainersState H C

/-- A `mapM` in `Except` fails once one of its elements fails. -/
theorem mapM_error_of_mem {α β ε : Type} {f : α → Except ε β} {a : α} {e : ε} (hf : f a = .error e) :
    ∀ {l : List α}, a ∈ l → ∃ e', l.mapM f = .error e'
  | k :: l, hl => by
    rw [List.mapM_cons]
    cases hk : f k with
    | error e' => exact ⟨e', rfl⟩
    | ok b =>
      rcases List.mem_cons.1 hl with rfl | hl
      · cases hf.symm.trans hk
      · obtain ⟨e', h⟩ := mapM_error_of_mem hf hl
        exact ⟨e', by rw [h]; rfl⟩

section

variable (validateHcc : HostConfiguredContainer H C → Except String Unit)

/-- `ContainersState.New`: validate every entry (in key order); a nil map gives an empty one. -/
def ContainersState.new : Option (ContainersState H C) → Except String (ContainersState H C)
  | none => .ok GoMap.empty
  | some s => (s.keys.mapM fun n => (s.get n).elim (.ok ()) validateHcc).map fun _ => s

/-- `Containers.Validate`. -/
def Containers.validate (c : Containers H C) : Except String Unit :=
  if c.previousState.isNone ∧ c.desiredState.isNone then
    .error "either current state or desired state must be defined"
  else do
    let previousState ← ContainersState.new validateHcc c.previousState
    let desiredState ← ContainersState.new validateHcc c.desiredState
    if previousState.len = 0 ∧ desiredState.len = 0 then
      .error "either current state or desired state should have containers defined"
    pure ()

/-- A state holding an entry that `HostConfiguredContainer.New` rejects is rejected. -/
theorem ContainersState.new_error {s : ContainersState H C} {n : String}
    {r : HostConfiguredContainer H C} {e : String} (hr : s.get n = some r)
    (he : validateHcc r = .error e) : ∃ e', ContainersState.new validateHcc (some s) = .error e' := by
  obtain ⟨e', h⟩ := @mapM_error_of_mem _ _ _ (fun n => (s.get n).elim (.ok ()) validateHcc) n e
    (by simp only [hr]; exact he) _ (s.mem_keys_of_get hr)
  exact ⟨e', by simp only [ContainersState.new, h]; rfl⟩

/-- `Containers.New`: the engine, with no current state yet. -/
def Containers.new (c : Containers H C) : Except String (containers H C) :=
  match c.validate validateHcc with
  | .error e => .error ("failed to validate containers configuration: " ++ e)
  | .ok () => do
    let previousState ← ContainersState.new validateHcc c.previousState
    let desiredState ← ContainersState.new validateHcc c.desiredState
    pure ⟨previousState, false, desiredState⟩

/-- A previous state holding an entry that `HostConfiguredContainer.New` rejects makes
`Containers.New` fail, whatever the desired state. -/
theorem Containers.new_error_of_previous {s : ContainersState H C} {n : String}
    {r : HostConfiguredContainer H C} {e : String} (hr : s.get n = some r)
    (he : validateHcc r = .error e) (d : Option (ContainersState H C)) :
    ∃ e', (⟨some s, d⟩ : Containers H C).new validateHcc = .error e' := by
  obtain ⟨e', h⟩ := ContainersState.new_error validateHcc hr he
  have hv : (⟨some s, d⟩ : Containers H C).validate validateHcc = .error e' := by
    rw [Containers.validate, if_neg (fun h => by cases h.1), h]
    rfl
  exact ⟨_, by rw [Containers.new, hv]⟩

end

/-- Modelled from the spec (§4.5, §6): `Export` keeps host, config, status and config
files, which are all the fields an entry of the model has. -/
def ContainersState.export (s : ContainersState H C) : ContainersState H C := s

/-- Run an engine function over the current state (`previousState`) and the hosts. -/
def containers.run (c : containers H C) (h : Hosts H C) (x : Exec (World H C) Unit) :
    Except String Unit × containers H C × Hosts H C :=
  let r := x ⟨c.previousState, c.desiredState, h⟩
  (r.1, { c with previousState := r.2.currentState, desiredState := r.2.desiredState }, r.2.hosts)

/-- The engine's maps and the hosts, as the functions of the reconciler see them. -/
def containers.world (c : containers H C) (h : Hosts H C) : World H C :=
  ⟨c.previousState, c.desiredState, h⟩

@[simp] theorem containers.world_currentState (c : containers H C) (h : Hosts H C) :
    (c.world h).currentState = c.previousState := rfl
@[simp] theorem containers.world_desiredState (c : containers H C) (h : Hosts H C) :
    (c.world h).desiredState = c.desiredState := rfl
@[simp] theorem containers.world_hosts (c : containers H C) (h : Hosts H C) :
    (c.world h).hosts = h := rfl

theorem containers.run_fst (c : containers H C) (h : Hosts H C) (x : Exec (World H C) Unit) :
    (c.run h x).1 = (x (c.world h)).1 := rfl

/-- The maps and hosts a run leaves are the world the engine function leaves. -/
theorem containers.run_world (c : containers H C) (h : Hosts H C) (x : Exec (World H C) Unit) :
    (c.run h x).2.1.world (c.run h x).2.2 = (x (c.world h)).2 := rfl

theorem containers.run_eq {c : containers H C} {h : Hosts H C} {x : Exec (World H C) Unit}
    {res : Except String Unit} {w' : World H C} (hx : x (c.world h) = (res, w')) :
    c.run h x = (res, { c with previousState := w'.currentState, desiredState := w'.desiredState },
      w'.hosts) := by
  simp only [containers.run]
  rw [show (⟨c.previousState, c.desiredState, h⟩ : World H C) = c.world h from rfl, hx]

variable [DecidableEq H] [DecidableEq C]

/-- `containers.CheckCurrentState`: make `previousState` the current state and refresh it. -/
def containers.checkCurrentState (c : containers H C) (h : Hosts H C) :
    Except String Unit × containers H C × Hosts H C :=
  { c with hasCurrentState := true }.run h checkState

/-- `containers.Execute`, with the passes visiting names in the orders `o`. -/
def containers.execute (o : Orders) (c : containers H C) (h : Hosts H C) :
    Except String Unit × containers H C × Hosts H C :=
  if !c.hasCurrentState then
    (.error "can't execute without knowing current state of the containers", c, h)
  else c.run h (executePasses o)

theorem containers.execute_of_hasCurrentState {o : Orders} {c : containers H C} {h : Hosts H C}
    (hc : c.hasCurrentState) : c.execute o h = c.run h (executePasses o) := by
  simp [containers.execute, hc]

/-- `CheckCurrentState` and then, if it succeeded, `Execute`: the two calls `Deploy` makes
on a validated engine. -/
def containers.checkThenExecute (o : Orders) (c : containers H C) (h : Hosts H C) :
    Except String Unit × containers H C × Hosts H C :=
  match c.checkCurrentState h with
  | (.error e, c, h) => (.error e, c, h)
  | (.ok (), c, h) => c.execute o h

/-- `containers.ToExported`. -/
def containers.toExported (c : containers H C) : Containers H C :=
  ⟨some c.previousState.export, some c.desiredState.export⟩

/-- `Containers.CheckCurrentState`: validate and refresh; the caller's value is replaced by
the exported engine only when both succeed. -/
def Containers.checkCurrentState (validateHcc : HostConfiguredContainer H C → Except String Unit)
    (c : Containers H C) (h : Hosts H C) : Except String Unit × Containers H C × Hosts H C :=
  match c.new validateHcc with
  | .error e => (.error e, c, h)
  | .ok cs =>
    match cs.checkCurrentState h with
    | (.error e, _, h) => (.error e, c, h)
    | (.ok (), cs, h) => (.ok (), cs.toExported, h)

/-- `Containers.Deploy`: validate, refresh, execute; the caller's value is replaced by
the exported engine only when all of them succeed. -/
def Containers.deploy (validateHcc : HostConfiguredContainer H C → Except String Unit)
    (o : Orders) (c : Containers H C) (h : Hosts H C) :
    Except String Unit × Containers H C × Hosts H C :=
  match c.new validateHcc with
  | .error e => (.error e, c, h)
  | .ok cs =>
    match cs.checkCurrentState h with
    | (.error e, _, h) => (.error e, c, h)
    | (.ok (), cs, h) =>
      match cs.execute o h with
      | (.error e, _, h) => (.error e, c, h)
      | (.ok (), cs, h) => (.ok (), cs.toExported, h)

omit [DecidableEq C] in
/-- A failed `Containers.CheckCurrentState` leaves the caller's value as it was. -/
theorem Containers.checkCurrentState_error {v : HostConfiguredContainer H C → Except String Unit}
    {c : Containers H C} {h : Hosts H C} {e : String} (he : (c.checkCurrentState v h).1 = .error e) :
    (c.checkCurrentState v h).2.1 = c := by
  unfold Containers.checkCurrentState at he ⊢
  split <;> (try split) <;> simp_all

/-- A failed `Deploy` leaves the caller's value as it was. -/
theorem Containers.deploy_error {v : HostConfiguredContainer H C → Except String Unit} {o : Orders}
    {c : Containers H C} {h : Hosts H C} {e : String} (he : (c.deploy v o h).1 = .error e) :
    (c.deploy v o h).2.1 = c := by
  unfold Containers.deploy at he ⊢
  split <;> (try split) <;> (try split) <;> simp_all

/-! ## Deploying again after a failure -/

/-- No previous state; `"a"` is desired on `"h1"` with one config file. -/
def freshA : Containers String String :=
  ⟨none, some (GoMap.ofList [("a", ⟨"h1", ⟨"cfg", none⟩, GoMap.ofList [("/etc/a.conf", "x")]⟩)])⟩

/-- Hosts with no container, on which the fourth remote operation fails. -/
def flakyHosts : Hosts String String :=
  ⟨fun _ => none, 1, fun _ _ => rfl, fun _ _ => none, [],
    fun i => if i = 3 then some "connection reset" else none⟩

set_option maxRecDepth 8000 in
/-- `Deploy` twice on `freshA`, each on the value and the hosts the one before left: the
first run creates container `1` of `"a"` and then fails configuring it; the second creates
container `2` of `"a"`, with container `1` still there and never removed. -/
theorem deploy_again_duplicates :
    (freshA.deploy (fun _ => .ok ()) ⟨[], ["a"], ["a"]⟩ flakyHosts).1 = .error
      "failed updating configuration for container a: failed creating config files: connection reset" ∧
    ((freshA.deploy (fun _ => .ok ()) ⟨[], ["a"], ["a"]⟩ flakyHosts).2.1.deploy (fun _ => .ok ())
      ⟨[], ["a"], ["a"]⟩ (freshA.deploy (fun _ => .ok ()) ⟨[], ["a"], ["a"]⟩ flakyHosts).2.2).1 = .ok () ∧
    ((freshA.deploy (fun _ => .ok ()) ⟨[], ["a"], ["a"]⟩ flakyHosts).2.1.deploy (fun _ => .ok ())
      ⟨[], ["a"], ["a"]⟩ (freshA.deploy (fun _ => .ok ()) ⟨[], ["a"], ["a"]⟩ flakyHosts).2.2).2.2.log =
      [.checkState, .configure "a" ["/etc/a.conf"], .createAndStart "a", .configure "a" [],
       .checkState, .configure "a" ["/etc/a.conf"], .createAndStart "a", .configure "a" []] ∧
    (((freshA.deploy (fun _ => .ok ()) ⟨[], ["a"], ["a"]⟩ flakyHosts).2.1.deploy (fun _ => .ok ())
      ⟨[], ["a"], ["a"]⟩ (freshA.deploy (fun _ => .ok ()) ⟨[], ["a"], ["a"]⟩ flakyHosts).2.2).2.2.instances
        1).map (·.name) = some "a" ∧
    (((freshA.deploy (fun _ => .ok ()) ⟨[], ["a"], ["a"]⟩ flakyHosts).2.1.deploy (fun _ => .ok ())
      ⟨[], ["a"], ["a"]⟩ (freshA.deploy (fun _ => .ok ()) ⟨[], ["a"], ["a"]⟩ flakyHosts).2.2).2.2.instances
        2).map (·.name) = some "a" := by
  decide

end Flexkube
