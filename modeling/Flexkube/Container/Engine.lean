import Flexkube.Container.Runtime

/-!
# The Reconciler

`containers.Execute` of `pkg/container/containers.go` and the helpers it calls, each
under its Go name. `Execute` makes three passes:

1. over `currentState`: drop entries whose container is gone, start stopped ones;
2. over `desiredState`: `ensureConfigured` then `ensureExists` for every name;
3. over `currentState`: `ensureHost`, `ensureConfigured`, `ensureContainer`, and remove
   the entry if its name is not desired.

Go ranges over a map in an order it leaves open, and a key deleted before its turn is
not produced; a key deleted and inserted again during the loop (as `recreate` does in
pass 3) may be produced again. `rangeMap` takes the order as a list of keys and skips a
key that is absent when its turn comes, so every order Go may take is one of its inputs.

Printing of drift reports is not modelled. `cmp.Diff` is modelled by `cmpDiff`: the
spec only fixes that the diff is empty exactly when the two values are equal.
-/

namespace Flexkube

open Exec

variable {H C : Type}

/-! ## Helpers of the three passes -/

/-- Modelled from the spec (§9): `cmp.Diff`, empty exactly for equal values. -/
def cmpDiff {α : Type} [DecidableEq α] (x y : α) : String := if x = y then "" else "-+"

/-- `filesToUpdate`: the paths of `d`'s config files that the current entry `c` lacks or
holds with another content; all of them when there is no current entry. -/
def filesToUpdate (d : HostConfiguredContainer H C) (c : Option (HostConfiguredContainer H C)) :
    List String :=
  match c with
  | none => d.configFiles.keys
  | some c => d.configFiles.keys.filter fun p =>
      match c.configFiles.get p with
      | none => true
      | some currentContent => d.configFiles.get p != some currentContent

/-- `c.currentState[n] = v`. -/
def World.setCurrent (w : World H C) (n : String) (v : HostConfiguredContainer H C) : World H C :=
  { w with currentState := w.currentState.set n v }

/-- `delete(c.currentState, n)`. -/
def World.deleteCurrent (w : World H C) (n : String) : World H C :=
  { w with currentState := w.currentState.delete n }

/-- `c.currentState[n] = c.desiredState[n]`, for a desired `n`. -/
def World.copyDesired (w : World H C) (n : String) : World H C :=
  match w.desiredState.get n with
  | some d => w.setCurrent n d
  | none => w

@[simp] theorem World.setCurrent_currentState (w : World H C) n v :
    (w.setCurrent n v).currentState = w.currentState.set n v := rfl
@[simp] theorem World.setCurrent_desiredState (w : World H C) n v :
    (w.setCurrent n v).desiredState = w.desiredState := rfl
@[simp] theorem World.setCurrent_hosts (w : World H C) n v :
    (w.setCurrent n v).hosts = w.hosts := rfl
@[simp] theorem World.deleteCurrent_currentState (w : World H C) n :
    (w.deleteCurrent n).currentState = w.currentState.delete n := rfl
@[simp] theorem World.deleteCurrent_desiredState (w : World H C) n :
    (w.deleteCurrent n).desiredState = w.desiredState := rfl
@[simp] theorem World.deleteCurrent_hosts (w : World H C) n :
    (w.deleteCurrent n).hosts = w.hosts := rfl

theorem World.copyDesired_of_get {w : World H C} {n : String} {d : HostConfiguredContainer H C}
    (hd : w.desiredState.get n = some d) : w.copyDesired n = w.setCurrent n d := by
  simp [copyDesired, hd]

@[simp] theorem World.copyDesired_hosts (w : World H C) (n : String) :
    (w.copyDesired n).hosts = w.hosts := by
  unfold copyDesired; split <;> rfl

variable [DecidableEq H] [DecidableEq C]

/-- `ensureConfigured`: write the drifted config files of a desired name and record
the desired files as current. -/
def ensureConfigured (n : String) : Exec (World H C) Unit := do
  let w ← get
  match w.desiredState.get n with
  | none => pure ()
  | some d =>
    let r := w.currentState.get n
    wrap "failed creating config files: " (configure n d (filesToUpdate d r))
    match r with
    | none => modify fun w => w.setCurrent n d
    | some r => modify fun w => w.setCurrent n (r.withFiles d.configFiles)

/-- `ensureRunning`: start the entry `c` of name `n` unless it runs. -/
def ensureRunning (n : String) (c : Option (HostConfiguredContainer H C)) :
    Exec (World H C) Unit :=
  match c with
  | none => fail "can't start non-existing container"
  | some c => if c.container.isRunning then pure () else start n c

/-- `ensureExists`: create the container of `n` unless the current entry exists. -/
def ensureExists (n : String) : Exec (World H C) Unit := do
  let r := (← get).currentState.get n
  if r.any (·.container.exists) then return ()
  wrap "failed creating new container: " (createAndStart n)
  match r, (← get).desiredState.get n with
  | none, some d => modify fun w => w.setCurrent n d
  | some r, some d => modify fun w => w.setCurrent n (r.withStatus d.container.status)
  -- unreachable: a successful `CreateAndStart(n)` leaves `n` in `desiredState`
  | _, none => pure ()

/-- `isUpdatable`: the name is both current and desired. -/
def isUpdatable (n : String) : Exec (World H C) Unit := do
  let w ← get
  if (w.currentState.get n).isNone then
    fail ("can't update non-existing container '" ++ n ++ "'")
  if (w.desiredState.get n).isNone then
    fail ("can't update container '" ++ n ++ "', which is scheduler for removal")

/-- `diffHost`: the diff of the current and desired hosts of an updatable name. -/
def diffHost (n : String) : Exec (World H C) String := do
  wrap "can't diff container: " (isUpdatable n)
  let w ← get
  match w.currentState.get n, w.desiredState.get n with
  | some r, some d => pure (cmpDiff r.host d.host)
  | _, _ => pure ""

/-- `recreate`: remove the current container and create the desired one. -/
def recreate (n : String) : Exec (World H C) Unit := do
  wrap "failed removing old container: " (removeContainer n)
  createAndStart n

/-- `ensureHost`: recreate the container when its host changed. -/
def ensureHost (n : String) : Exec (World H C) Unit := do
  let diff ← wrap "failed to check host diff: " (diffHost n)
  if diff == "" then return ()
  wrap "failed updating container: " (recreate n)
  modify fun w => w.copyDesired n

/-- `diffContainer`: the diff of the current and desired runtime configs. -/
def diffContainer (n : String) : Exec (World H C) String := do
  wrap "can't diff container: " (isUpdatable n)
  let w ← get
  match w.currentState.get n, w.desiredState.get n with
  | some r, some d => pure (cmpDiff r.container.config d.container.config)
  | _, _ => pure ""

/-- `ensureContainer`: recreate the container when its runtime config changed. -/
def ensureContainer (n : String) : Exec (World H C) Unit := do
  let diff ← wrap "failed to check container diff: " (diffContainer n)
  if diff == "" then return ()
  wrap "failed updating container: " (recreate n)
  modify fun w => w.copyDesired n

/-! ## `Execute` -/

/-- `for k, v := range sel(c)` visiting the keys in the order `ks`: a key absent when its
turn comes is not produced, and its value is read when it is. -/
def rangeMap (sel : World H C → ContainersState H C)
    (body : String → HostConfiguredContainer H C → Exec (World H C) Unit) :
    List String → Exec (World H C) Unit
  | [] => pure ()
  | k :: ks => do
    match (sel (← get)).get k with
    | none => pure ()
    | some v => body k v
    rangeMap sel body ks

/-- The body of pass 1 for the entry `r` of name `n`. -/
def pass1Step (n : String) (r : HostConfiguredContainer H C) : Exec (World H C) Unit :=
  if !r.container.exists then modify fun w => w.deleteCurrent n
  else wrap "failed to start stopped container: " (ensureRunning n (some r))

/-- The body of pass 2 for the name `i`. -/
def pass2Step (i : String) : Exec (World H C) Unit := do
  wrap ("failed configuring container " ++ i ++ ": ") (ensureConfigured i)
  wrap ("failed creating new container " ++ i ++ ": ") (ensureExists i)

/-- The body of pass 3 for the name `i`. -/
def pass3Step (i : String) : Exec (World H C) Unit := do
  wrap ("failed updating host configuration of container " ++ i ++ ": ") (ensureHost i)
  wrap ("failed updating configuration for container " ++ i ++ ": ") (ensureConfigured i)
  wrap ("failed updating container " ++ i ++ ": ") (ensureContainer i)
  if ((← get).desiredState.get i).isSome then return ()
  wrap "failed removing old container: " (removeContainer i)

/-- The orders in which the three passes of `Execute` visit names. -/
structure Orders where
  pass1 : List String
  pass2 : List String
  pass3 : List String

/-- The three passes of `Execute`, on a known current state. -/
def executePasses (o : Orders) : Exec (World H C) Unit := do
  rangeMap (·.currentState) (fun n r => pass1Step n r) o.pass1
  rangeMap (·.desiredState) (fun i _ => pass2Step i) o.pass2
  rangeMap (·.currentState) (fun i _ => pass3Step i) o.pass3

end Flexkube
