import Flexkube.Container.Converge
import Flexkube.Container.Faults

/-!
# No Orphaned or Duplicated Containers

The engine reaches the containers it manages only through the statuses it records: a
container the hosts hold under a name, that the current entry of that name does not
record, is never checked, started or removed again. `World.Owned w n` says that `n` has no
such container: every container the hosts hold under the name `n` is the one the current
entry of `n` records, on that entry's host. So `n` has at most one container.

Every run of `CheckCurrentState` and `Execute` keeps `Owned n`, for every name, whatever
the failure pattern of the hosts, in every order Go may take, and also where a run fails
and the engine keeps the maps it had reached: `CheckState` keeps the identifier of a
container it finds, pass 1 drops an entry only when its name has no container, pass 2
creates a container only for a name whose entry records none, on the host of that entry
(`World.Placed`), and pass 3 records the container it creates in place of the one it
removed.

A step of another name `k` keeps `Owned n`: it leaves the entry of `n` alone
(`World.Frame`), and every container it creates is named `k` (`World.Spawns`, kept by
every run of every function called for `k`, failed runs included). The steps of `n`
itself are taken apart by where they may stop (`remote_cases`): a remote operation that
fails leaves only its log entry, and the one world between two operations that does not
keep `Owned n`, after `CreateAndStart` and before the entry records the new container,
issues no operation and so cannot be where a run stops.

By induction over runs, the same holds across any number of runs on one engine, each from
the maps and hosts the previous one left (`containers.runs_keep_owned`).

All of this rests on reading `CreateAndStart` as one remote operation that has no effect
when it fails (`Flexkube.createAndStart`). The spec (§4.5, §6, §7) has it create the
container, start it and record its status as separate runtime calls: a start that fails
after the create leaves a container that no entry records, and the next run creates a
second one. The results of this module do not cover that failure.
-/

namespace Flexkube

open Exec

variable {H C : Type}

/-! ## Owned names -/

namespace World

/-- Where the current entry of `n` says its container is: the identifier its status
records, and its host. -/
def placement (w : World H C) (n : String) : Option (Option Nat × H) :=
  (w.currentState.get n).map fun r => (r.container.status.map (·.id), r.host)

/-- Every container the hosts hold under the name `n` is the one the current entry of `n`
records, on that entry's host. -/
def Owned (w : World H C) (n : String) : Prop :=
  ∀ i inst, w.hosts.instances i = some inst → inst.name = n →
    w.placement n = some (some i, inst.host)

/-- From `w` to `w'` every container the hosts hold was held before, under the same name
and on the same host, or is named `k`. -/
def Spawns (k : String) (w w' : World H C) : Prop :=
  ∀ i inst', w'.hosts.instances i = some inst' → inst'.name = k ∨
    ∃ inst, w.hosts.instances i = some inst ∧ inst.name = inst'.name ∧ inst.host = inst'.host

variable {k n : String} {w w' w₁ w₂ : World H C}

/-- `Owned n` depends only on the containers the hosts hold under `n` and on the
placement of `n`. -/
theorem Owned.congr (ho : w.Owned n) (hp : w'.placement n = w.placement n)
    (hi : ∀ i inst', w'.hosts.instances i = some inst' → inst'.name = n →
      ∃ inst, w.hosts.instances i = some inst ∧ inst.name = n ∧ inst.host = inst'.host) :
    w'.Owned n := fun i inst' h hn => by
  obtain ⟨inst, hi', hn', hh⟩ := hi i inst' h hn
  rw [hp, ← hh]
  exact ho i inst hi' hn'

/-- A name with no container is owned. -/
theorem Owned.of_unnamed (h : ∀ i inst, w.hosts.instances i = some inst → inst.name ≠ n) :
    w.Owned n := fun i inst hi hn => absurd hn (h i inst hi)

/-- An owned name whose entry records no container has no container. -/
theorem Owned.unnamed (ho : w.Owned n) (hp : (w.placement n).bind Prod.fst = none) :
    ∀ i inst, w.hosts.instances i = some inst → inst.name ≠ n := fun i inst hi hn => by
  rw [ho i inst hi hn] at hp
  cases hp

/-- A step of another name, which leaves the placement of `n` alone and creates only
containers named after itself, keeps `n` owned. -/
theorem Owned.of_spawns (ho : w.Owned n) (hp : w'.placement n = w.placement n)
    (hs : Spawns k w w') (hk : k ≠ n) : w'.Owned n :=
  ho.congr hp fun i inst' h hn => by
    rcases hs i inst' h with h' | ⟨inst, hi, hname, hh⟩
    · exact absurd (h'.symm.trans hn) hk
    · exact ⟨inst, hi, hname.trans hn, hh⟩

theorem Spawns.refl (k : String) (w : World H C) : Spawns k w w :=
  fun _ inst h => .inr ⟨inst, h, rfl, rfl⟩

theorem Spawns.trans (h₁ : Spawns k w w₁) (h₂ : Spawns k w₁ w₂) : Spawns k w w₂ := fun i inst h => by
  rcases h₂ i inst h with h | ⟨inst₁, hi₁, hn, hh⟩
  · exact .inl h
  · rcases h₁ i inst₁ hi₁ with h' | ⟨inst₀, hi₀, hn', hh'⟩
    · exact .inl (hn ▸ h')
    · exact .inr ⟨inst₀, hi₀, hn'.trans hn, hh'.trans hh⟩

theorem Spawns.of_instances (h : w'.hosts.instances = w.hosts.instances) : Spawns k w w' :=
  fun _ inst hi => .inr ⟨inst, h ▸ hi, rfl, rfl⟩

/-- From `w` to `w'` the hosts created no container: each one they hold was held before,
under the same name and on the same host. -/
def Keeps (w w' : World H C) : Prop :=
  ∀ i inst', w'.hosts.instances i = some inst' →
    ∃ inst, w.hosts.instances i = some inst ∧ inst.name = inst'.name ∧ inst.host = inst'.host

theorem Keeps.of_instances (h : w'.hosts.instances = w.hosts.instances) : Keeps w w' :=
  fun _ inst hi => ⟨inst, h ▸ hi, rfl, rfl⟩

theorem Keeps.spawns (h : Keeps w w') : Spawns k w w' := fun i inst h' => .inr (h i inst h')

/-- A step that creates no container and leaves the placement of `n` alone keeps `n`
owned. -/
theorem Owned.keep (ho : w.Owned n) (hp : w'.placement n = w.placement n) (hk : Keeps w w') :
    w'.Owned n :=
  ho.congr hp fun i inst' h hn =>
    let ⟨inst, hi, hname, hh⟩ := hk i inst' h
    ⟨inst, hi, hname.trans hn, hh⟩

end World

/-! ## Every container a step creates carries its name -/

/-- Every run of `x`, from any world and whatever it returns, creates only containers
named `k`. -/
def Spawned {α : Type} (k : String) (x : Exec (World H C) α) : Prop := Stable (World.Spawns k) x

namespace Spawned

variable {α β : Type} {k : String} {x : Exec (World H C) α}

theorem pure (a : α) : Spawned k (Pure.pure a : Exec (World H C) α) := World.Spawns.refl k

theorem get : Spawned k (Exec.get : Exec (World H C) (World H C)) := World.Spawns.refl k

theorem fail (e : String) : Spawned k (Exec.fail e : Exec (World H C) α) := World.Spawns.refl k

/-- A change of the maps alone. -/
theorem modify {f : World H C → World H C} (hf : ∀ w, (f w).hosts = w.hosts) :
    Spawned k (Exec.modify f) := fun w => World.Spawns.of_instances (congrArg Hosts.instances (hf w))

theorem bind {f : α → Exec (World H C) β} (hx : Spawned k x) (hf : ∀ a, Spawned k (f a)) :
    Spawned k (x >>= f) := Stable.bind (R := World.Spawns k) (fun _ _ _ => World.Spawns.trans) hx hf

theorem wrap (msg : String) (hx : Spawned k x) : Spawned k (Exec.wrap msg x) := Stable.wrap msg hx

theorem ite {c : Prop} [Decidable c] {y : Exec (World H C) α} (hx : Spawned k x)
    (hy : Spawned k y) : Spawned k (if c then x else y) := Stable.ite hx hy

/-- A function that never changes the world. -/
theorem of_snd (hx : ∀ w, (x w).2 = w) : Spawned k x := fun w => by
  rw [hx]; exact World.Spawns.refl k w

theorem remote (e : Event) {f : World H C → World H C} (hf : ∀ w, World.Spawns k w (f w)) :
    Spawned k (Flexkube.remote e f) := fun w => by
  unfold Flexkube.remote; split
  exacts [World.Spawns.of_instances rfl, (World.Spawns.of_instances rfl).trans (hf _)]

end Spawned

section Effects

variable [DecidableEq H] {k : String} {w : World H C}

theorem World.Keeps.start (r : HostConfiguredContainer H C) : World.Keeps w (w.start r) :=
  fun i inst h => by
    simp only [World.start_hosts, Hosts.startAt] at h
    split at h
    · obtain ⟨inst₀, h₀, rfl⟩ := Option.map_eq_some'.1 h
      exact ⟨inst₀, h₀, rfl, rfl⟩
    · exact ⟨inst, h, rfl, rfl⟩

theorem World.Keeps.removeContainer (n : String) (r : HostConfiguredContainer H C) :
    World.Keeps w (w.removeContainer n r) := fun i inst h => by
  simp only [World.removeContainer_hosts, Hosts.removeFiles_instances, Hosts.removeAt] at h
  split at h
  · cases h
  · exact ⟨inst, h, rfl, rfl⟩

theorem World.Spawns.createAndStart (d : HostConfiguredContainer H C) :
    World.Spawns k w (w.createAndStart k d) := fun i inst h => by
  simp only [World.createAndStart_hosts, Hosts.spawn_instances, Hosts.writeFiles_instances,
    Hosts.writeFiles_nextId] at h
  rcases eq_or_ne i w.hosts.nextId with rfl | hi
  · rw [Function.update_same] at h
    cases h
    exact .inl rfl
  · rw [Function.update_noteq hi] at h
    exact .inr ⟨inst, h, rfl, rfl⟩

end Effects

section Engine

variable [DecidableEq H] {k : String}

theorem configure_spawned (n : String) (d : HostConfiguredContainer H C) (fs : List String) :
    Spawned k (configure n d fs) :=
  Spawned.remote _ fun _ => World.Spawns.of_instances rfl

theorem createAndStart_spawned : Spawned k (createAndStart k : Exec (World H C) Unit) := fun w => by
  unfold createAndStart; split
  exacts [World.Spawns.refl k w, Spawned.remote _ (fun _ => World.Spawns.createAndStart _) w]

theorem removeContainer_spawned (n : String) :
    Spawned k (removeContainer n : Exec (World H C) Unit) := fun w => by
  unfold removeContainer; split
  exacts [World.Spawns.refl k w, Spawned.remote _ (fun _ => (World.Keeps.removeContainer n _).spawns) w]

theorem ensureConfigured_spawned (n : String) :
    Spawned k (ensureConfigured n : Exec (World H C) Unit) := by
  refine Spawned.bind Spawned.get fun w => ?_
  split
  · exact Spawned.pure _
  · refine Spawned.bind (Spawned.wrap _ (configure_spawned _ _ _)) fun _ => ?_
    split <;> exact Spawned.modify fun _ => rfl

theorem ensureRunning_spawned (n : String) (c : Option (HostConfiguredContainer H C)) :
    Spawned k (ensureRunning n c) := by
  unfold ensureRunning; split
  · exact Spawned.fail _
  · exact Spawned.ite (Spawned.pure _) (Spawned.remote _ fun _ => (World.Keeps.start _).spawns)

theorem ensureExists_spawned : Spawned k (ensureExists k : Exec (World H C) Unit) := by
  refine Spawned.bind Spawned.get fun w => ?_
  dsimp only
  refine Spawned.ite (Spawned.pure _) (Spawned.bind (Spawned.pure _) fun _ =>
    Spawned.bind (Spawned.wrap _ createAndStart_spawned) fun _ => Spawned.bind Spawned.get fun _ => ?_)
  split <;> first | exact Spawned.pure _ | exact Spawned.modify fun _ => rfl

theorem recreate_spawned : Spawned k (recreate k : Exec (World H C) Unit) :=
  Spawned.bind (Spawned.wrap _ (removeContainer_spawned k)) fun _ => createAndStart_spawned

theorem diffHost_spawned (n : String) : Spawned k (diffHost n : Exec (World H C) String) :=
  Spawned.bind (Spawned.wrap _ (Spawned.of_snd isUpdatable_snd)) fun _ =>
    Spawned.bind Spawned.get fun _ => by split <;> exact Spawned.pure _

theorem ensureHost_spawned : Spawned k (ensureHost k : Exec (World H C) Unit) :=
  Spawned.bind (Spawned.wrap _ (diffHost_spawned k)) fun _ => Spawned.ite (Spawned.pure _)
    (Spawned.bind (Spawned.pure _) fun _ => Spawned.bind (Spawned.wrap _ recreate_spawned) fun _ =>
      Spawned.modify fun w => w.copyDesired_hosts k)

theorem pass1Step_spawned (r : HostConfiguredContainer H C) : Spawned k (pass1Step k r) :=
  Spawned.ite (Spawned.modify fun _ => rfl) (Spawned.wrap _ (ensureRunning_spawned _ _))

theorem pass2Step_spawned : Spawned k (pass2Step k : Exec (World H C) Unit) :=
  Spawned.bind (Spawned.wrap _ (ensureConfigured_spawned k)) fun _ => Spawned.wrap _ ensureExists_spawned

section Config

variable [DecidableEq C]

omit [DecidableEq H] in
theorem diffContainer_spawned (n : String) : Spawned k (diffContainer n : Exec (World H C) String) :=
  Spawned.bind (Spawned.wrap _ (Spawned.of_snd isUpdatable_snd)) fun _ =>
    Spawned.bind Spawned.get fun _ => by split <;> exact Spawned.pure _

theorem ensureContainer_spawned : Spawned k (ensureContainer k : Exec (World H C) Unit) :=
  Spawned.bind (Spawned.wrap _ (diffContainer_spawned k)) fun _ => Spawned.ite (Spawned.pure _)
    (Spawned.bind (Spawned.pure _) fun _ => Spawned.bind (Spawned.wrap _ recreate_spawned) fun _ =>
      Spawned.modify fun w => w.copyDesired_hosts k)

theorem pass3Step_spawned : Spawned k (pass3Step k : Exec (World H C) Unit) :=
  Spawned.bind (Spawned.wrap _ ensureHost_spawned) fun _ =>
    Spawned.bind (Spawned.wrap _ (ensureConfigured_spawned k)) fun _ =>
      Spawned.bind (Spawned.wrap _ ensureContainer_spawned) fun _ => Spawned.bind Spawned.get fun _ =>
        Spawned.ite (Spawned.pure _) (Spawned.bind (Spawned.pure _) fun _ =>
          Spawned.wrap _ (removeContainer_spawned k))

end Config

end Engine

theorem Spawned.frame {α : Type} {k : String} {x : Exec (World H C) α} (hx : Spawned k x)
    {w w' : World H C} {res : Except String α} (h : x w = (res, w')) : World.Spawns k w w' :=
  Stable.frame hx h

/-! ## What a step can leave, whatever fails

A remote operation fails before its effect, leaving only its log entry, or has its effect.
So each function of the reconciler ends in one of a few worlds, one for each operation it
may stop at. -/

section Cases

variable {n : String} {w : World H C} {r d : HostConfiguredContainer H C}

theorem remote_cases (e : Event) (f : World H C → World H C) (w : World H C) :
    (∃ err, remote e f w = (.error err, w.record e)) ∨ remote e f w = (.ok (), f (w.record e)) := by
  unfold remote
  split
  · exact .inl ⟨_, rfl⟩
  · exact .inr rfl

/-- A remote operation keeps what logging it and its effect keep. -/
theorem remote_preserves {I : World H C → Prop} (e : Event) {f : World H C → World H C}
    (hrec : ∀ w, I w → I (w.record e)) (hf : ∀ w, I w → I (f w)) : Preserves I (remote e f) :=
  fun w hw => by
    rcases remote_cases e f w with ⟨_, h⟩ | h <;> rw [h]
    · exact hrec w hw
    · exact hf _ (hrec w hw)

theorem remote_of_ok {e : Event} {f : World H C → World H C} (h : (remote e f w).1 = .ok ()) :
    (remote e f w).2 = f (w.record e) := by
  rcases remote_cases e f w with ⟨_, h'⟩ | h' <;> rw [h'] at h ⊢
  cases h

variable [DecidableEq H]

theorem createAndStart_cases (w : World H C) (n : String) :
    (∃ e, createAndStart n w = (.error e, w)) ∨
      (∃ e, createAndStart n w = (.error e, w.record (.createAndStart n))) ∨
      ∃ d, w.desiredState.get n = some d ∧
        createAndStart n w = (.ok (), (w.record (.createAndStart n)).createAndStart n d) := by
  unfold createAndStart
  split
  · exact .inl ⟨_, rfl⟩
  · next d hd =>
    rcases remote_cases (.createAndStart n) (fun w => w.createAndStart n d) w with ⟨e, h⟩ | h
    · exact .inr (.inl ⟨e, h⟩)
    · exact .inr (.inr ⟨d, hd, h⟩)

theorem ensureConfigured_cases (hd : w.desiredState.get n = some d) :
    (∃ e, ensureConfigured n w =
      (.error e, w.record (.configure n (filesToUpdate d (w.currentState.get n))))) ∨
      ensureConfigured n w = (.ok (), w.configured n d) := by
  rcases remote_cases (.configure n (filesToUpdate d (w.currentState.get n)))
    (fun w' => w'.configure d (filesToUpdate d (w.currentState.get n))) w with ⟨e, h⟩ | h
  · exact .inl ⟨"failed creating config files: " ++ e,
      by simp only [ensureConfigured, bind_apply, get_apply, hd, configure, h, wrap_apply]⟩
  · refine .inr ?_
    cases hr : w.currentState.get n <;> rw [hr] at h <;>
      simp only [ensureConfigured, bind_apply, get_apply, hd, hr, configure, h, wrap_apply,
        modify_apply, World.configured, configuredEntry]

/-- `ensureExists` of a desired name whose entry records no container. -/
theorem ensureExists_cases (h : (w.currentState.get n).any (·.container.exists) = false)
    (hd : w.desiredState.get n = some d) :
    (∃ e, ensureExists n w = (.error e, w.record (.createAndStart n))) ∨
      ensureExists n w = (.ok (), ((w.record (.createAndStart n)).createAndStart n d).setCurrent n
        (createdEntry (d.started w.hosts.nextId) (w.currentState.get n))) := by
  have hcs : createAndStart n w = remote (.createAndStart n) (fun w => w.createAndStart n d) w := by
    simp [createAndStart, hd]
  rcases remote_cases (.createAndStart n) (fun w => w.createAndStart n d) w with ⟨e, hc⟩ | hc <;>
    rw [hc] at hcs
  · refine .inl ⟨"failed creating new container: " ++ e, ?_⟩
    cases hr : w.currentState.get n <;> rw [hr] at h <;>
      simp only [ensureExists, bind_apply, get_apply, hr, h, hcs, wrap_apply, pure_apply,
        Bool.false_eq_true, ite_false]
  · refine .inr ?_
    have hd' : (((w.record (.createAndStart n)).createAndStart n d).desiredState.get n) =
        some (d.started w.hosts.nextId) := by simp [HostConfiguredContainer.started]
    cases hr : w.currentState.get n <;> rw [hr] at h <;>
      simp only [ensureExists, bind_apply, get_apply, hr, h, hcs, wrap_apply,
        World.createAndStart_currentState, World.record_currentState, hd', modify_apply, createdEntry,
        HostConfiguredContainer.started, Bool.false_eq_true, ite_false, pure_apply]

/-- `diffHost` only reads the world. -/
theorem diffHost_preserves (I : World H C → Prop) :
    Preserves I (diffHost n : Exec (World H C) String) :=
  .bind (.wrap _ (.of_snd isUpdatable_snd)) fun _ => .get_bind fun _ _ => by split <;> exact .pure _

omit [DecidableEq H] in
/-- `diffContainer` only reads the world. -/
theorem diffContainer_preserves [DecidableEq C] (I : World H C → Prop) :
    Preserves I (diffContainer n : Exec (World H C) String) :=
  .bind (.wrap _ (.of_snd isUpdatable_snd)) fun _ => .get_bind fun _ _ => by split <;> exact .pure _

end Cases

/-! ## What the steps of a name do to it -/

section Own

variable [DecidableEq H] {n : String} {w : World H C} {r d v : HostConfiguredContainer H C}

namespace World

omit [DecidableEq H] in
theorem Owned.record (ho : w.Owned n) (e : Event) : (w.record e).Owned n := ho

/-- `CheckState` keeps the identifier of every container it finds. -/
theorem Owned.checkState (ho : w.Owned n) : w.checkState.Owned n := fun i inst hi hn => by
  obtain ⟨r, hr, hp⟩ := Option.map_eq_some'.1 (ho i inst hi hn)
  simp only [Prod.mk.injEq] at hp
  obtain ⟨s, hs, rfl⟩ := Option.map_eq_some'.1 hp.1
  have hfind : w.hosts.find inst.host s.id = some inst := by
    simp [Hosts.find, show w.hosts.instances s.id = some inst from hi, Option.filter]
  simp [placement, hr, HostConfiguredContainer.refresh, Hosts.probe, hs, hfind, hp.2]

/-- `ensureConfigured` of `n` leaves where its container is, or records one for a name
with no container. -/
theorem Owned.configured (ho : w.Owned n) (d : HostConfiguredContainer H C) :
    (w.configured n d).Owned n := by
  cases hr : w.currentState.get n with
  | none => exact Owned.of_unnamed (ho.unnamed (by simp [placement, hr]))
  | some r =>
    exact ho.keep (by simp [placement, hr, configuredEntry]) (Keeps.of_instances rfl)

omit [DecidableEq H] in
/-- Dropping the entry of a name whose entry records no container. -/
theorem Owned.deleteCurrent (ho : w.Owned n) (hr : w.currentState.get n = some r)
    (hs : r.container.status = none) : (w.deleteCurrent n).Owned n :=
  Owned.of_unnamed (ho.unnamed (by simp [placement, hr, hs]))

/-- `RemoveContainer(n)` removes the only container of an owned name. -/
theorem Owned.removeContainer_unnamed (ho : w.Owned n) (hr : w.currentState.get n = some r) :
    ∀ i inst, (w.removeContainer n r).hosts.instances i = some inst → inst.name ≠ n := by
  intro i inst hi hn
  simp only [World.removeContainer_hosts, Hosts.removeFiles_instances, Hosts.removeAt] at hi
  split at hi
  · cases hi
  · rename_i hkeep
    obtain ⟨r', hr', hp⟩ := Option.map_eq_some'.1 (ho i inst hi hn)
    obtain rfl := Option.some.inj (hr'.symm.trans hr)
    simp only [Prod.mk.injEq] at hp
    exact hkeep ⟨hp.1, by simp [Hosts.find, hi, hp.2, Option.filter]⟩

/-- `CreateAndStart(n)` for a name with no container, recording the new container in an
entry placed on the desired host. -/
theorem Owned.created (hno : ∀ i inst, w.hosts.instances i = some inst → inst.name ≠ n)
    (hv : v.host = d.host) (hs : v.container.status.map (·.id) = some w.hosts.nextId) :
    ((w.createAndStart n d).setCurrent n v).Owned n := fun i inst hi hn => by
  simp only [World.setCurrent_hosts, World.createAndStart_hosts, Hosts.spawn_instances,
    Hosts.writeFiles_instances, Hosts.writeFiles_nextId] at hi
  rcases eq_or_ne i w.hosts.nextId with rfl | hne
  · rw [Function.update_same, Option.some.injEq] at hi
    subst hi
    simp [placement, hs, hv]
  · rw [Function.update_noteq hne] at hi
    exact absurd hn (hno i inst hi)

/-- `recreate` of an owned name, recording the new container. -/
theorem Owned.recreated (ho : w.Owned n) (hr : w.currentState.get n = some r) :
    (w.recreated n r d).Owned n :=
  Owned.created (ho.removeContainer_unnamed hr) rfl (by simp [HostConfiguredContainer.started])


/-- The entry of `n` records a container, or sits on the host `n` is desired on: what pass 1
leaves, so that a container pass 2 creates for the entry is where the entry says. -/
def Placed (w : World H C) (n : String) : Prop :=
  ∀ r, w.currentState.get n = some r → r.container.exists ∨
    ∃ d, w.desiredState.get n = some d ∧ r.host = d.host

omit [DecidableEq H] in
theorem Placed.frame {k : String} {w' : World H C} (hp : w.Placed n) (hfr : Frame k w w')
    (hk : k ≠ n) : w'.Placed n := by
  unfold Placed
  rwa [hfr.current n (Ne.symm hk), hfr.desired n (Ne.symm hk)]

end World

end Own

/-! ## Every run of a step of `n` keeps `n` owned -/

section Steps

variable [DecidableEq H] {n : String} {w : World H C} {r : HostConfiguredContainer H C}

theorem checkState_owned : Preserves (·.Owned n) (checkState : Exec (World H C) Unit) :=
  remote_preserves _ (fun _ ho => ho.record _) fun _ ho => ho.checkState

theorem start_owned (k : String) (r : HostConfiguredContainer H C) :
    Preserves (·.Owned n) (start k r : Exec (World H C) Unit) :=
  remote_preserves _ (fun _ ho => ho.record _) fun _ ho => ho.keep rfl (World.Keeps.start r)

theorem removeContainer_owned :
    Preserves (·.Owned n) (removeContainer n : Exec (World H C) Unit) := fun w ho => by
  unfold removeContainer
  split
  · exact ho
  · next r hr =>
    rcases remote_cases (.removeContainer n) (fun w => w.removeContainer n r) w with ⟨_, h⟩ | h <;>
      rw [h]
    · exact ho.record _
    · exact World.Owned.of_unnamed (ho.removeContainer_unnamed hr)

theorem ensureConfigured_owned :
    Preserves (·.Owned n) (ensureConfigured n : Exec (World H C) Unit) := fun w ho => by
  cases hd : w.desiredState.get n with
  | none => rwa [ensureConfigured_absent hd]
  | some d =>
    rcases ensureConfigured_cases hd with ⟨_, h⟩ | h <;> rw [h]
    · exact ho.record _
    · exact ho.configured d

theorem ensureConfigured_placed :
    Preserves (·.Placed n) (ensureConfigured n : Exec (World H C) Unit) := fun w hp => by
  cases hd : w.desiredState.get n with
  | none => rwa [ensureConfigured_absent hd]
  | some d =>
    rcases ensureConfigured_cases hd with ⟨_, h⟩ | h <;> rw [h]
    · exact hp
    · intro r' hr'
      rw [World.configured_get_self, Option.some.injEq] at hr'
      subst hr'
      cases hr : w.currentState.get n with
      | none => exact .inr ⟨d, hd, rfl⟩
      | some r => simpa [configuredEntry, hr] using hp r hr

/-- `ensureExists` creates a container only for a name with none, on the host of its entry. -/
theorem ensureExists_owned :
    Preserves (fun w => w.Owned n ∧ w.Placed n) (ensureExists n : Exec (World H C) Unit) :=
  fun w ⟨ho, hp⟩ => by
    cases hx : (w.currentState.get n).any (·.container.exists)
    · cases hd : w.desiredState.get n with
      | none =>
        have : (ensureExists n w).2 = w := by simp [ensureExists, hx, createAndStart, hd]
        rw [this]
        exact ⟨ho, hp⟩
      | some d =>
        rcases ensureExists_cases hx hd with ⟨_, h⟩ | h <;> rw [h]
        · exact ⟨ho.record _, hp⟩
        have hno : (w.placement n).bind Prod.fst = none ∧
            (createdEntry (d.started w.hosts.nextId) (w.currentState.get n)).host = d.host := by
          cases hr : w.currentState.get n with
          | none => simp [World.placement, hr, createdEntry, HostConfiguredContainer.started]
          | some r =>
            rw [hr] at hx
            have hs : r.container.status = none := by simpa [Container.exists] using hx
            obtain ⟨d', hd', hh⟩ := (hp r hr).resolve_left (by simpa using hx)
            obtain rfl : d' = d := Option.some.inj (hd'.symm.trans hd)
            simp [World.placement, hr, hs, createdEntry, hh]
        refine ⟨World.Owned.created (ho.unnamed hno.1) hno.2 ?_, fun r' hr' => .inl ?_⟩
        · cases w.currentState.get n <;> simp [createdEntry, HostConfiguredContainer.started]
        · simp only [World.setCurrent_currentState, GoMap.get_set_self, Option.some.injEq] at hr'
          subst hr'
          cases w.currentState.get n <;> rfl
    · rw [ensureExists_present hx]
      exact ⟨ho, hp⟩

/-- Recreating the container of an owned name and recording the desired entry keeps the
name owned, whichever of `RemoveContainer` and `CreateAndStart` fails. -/
theorem recreate_copyDesired_owned (m : String) :
    Preserves (·.Owned n)
      (wrap m (recreate n) >>= fun _ => modify fun w : World H C => w.copyDesired n) := fun w ho => by
  cases hr : w.currentState.get n with
  | none => simpa [recreate, removeContainer, hr, bind_apply, wrap_apply] using ho
  | some r =>
    have hu := ho.removeContainer_unnamed hr
    rcases remote_cases (.removeContainer n) (fun w => w.removeContainer n r) w with ⟨_, h₁⟩ | h₁
    · simpa [recreate, removeContainer, hr, bind_apply, wrap_apply, h₁] using ho.record _
    have hrm : removeContainer n w = (.ok (), (w.record (.removeContainer n)).removeContainer n r) := by
      simp [removeContainer, hr, h₁]
    rcases createAndStart_cases ((w.record (.removeContainer n)).removeContainer n r) n with
      ⟨_, h₂⟩ | ⟨_, h₂⟩ | ⟨d, hd, h₂⟩ <;>
      simp only [recreate, bind_apply, wrap_apply, hrm, h₂, modify_apply]
    · exact World.Owned.of_unnamed hu
    · exact World.Owned.of_unnamed hu
    · rw [World.copyDesired_of_get (d := d.started w.hosts.nextId)
        (by simp [HostConfiguredContainer.started])]
      exact ho.recreated hr

theorem ensureHost_owned : Preserves (·.Owned n) (ensureHost n : Exec (World H C) Unit) :=
  .bind (.wrap _ (diffHost_preserves _)) fun _ =>
    .ite (.pure _) (.bind (.pure _) fun _ => recreate_copyDesired_owned _)

theorem pass1Step_owned (ho : w.Owned n) (hr : w.currentState.get n = some r) :
    (pass1Step n r w).2.Owned n := by
  cases he : r.container.exists
  · rw [pass1Step_gone he]
    exact ho.deleteCurrent hr (by simpa [Container.exists] using he)
  · have hx : Preserves (·.Owned n) (ensureRunning n (some r) : Exec (World H C) Unit) :=
      .ite (.pure _) (start_owned n r)
    simpa [pass1Step, he] using Preserves.wrap _ hx w ho

theorem pass2Step_owned :
    Preserves (fun w => w.Owned n ∧ w.Placed n) (pass2Step n : Exec (World H C) Unit) :=
  .bind (.wrap _ (ensureConfigured_owned.and ensureConfigured_placed)) fun _ =>
    .wrap _ ensureExists_owned

variable [DecidableEq C]

theorem ensureContainer_owned : Preserves (·.Owned n) (ensureContainer n : Exec (World H C) Unit) :=
  .bind (.wrap _ (diffContainer_preserves _)) fun _ =>
    .ite (.pure _) (.bind (.pure _) fun _ => recreate_copyDesired_owned _)

theorem pass3Step_owned : Preserves (·.Owned n) (pass3Step n : Exec (World H C) Unit) :=
  .bind (.wrap _ ensureHost_owned) fun _ => .bind (.wrap _ ensureConfigured_owned) fun _ =>
    .bind (.wrap _ ensureContainer_owned) fun _ => .get_bind fun _ _ =>
      .ite (.pure _) (.bind (.pure _) fun _ => .wrap _ removeContainer_owned)

end Steps

/-! ## The passes -/

section Passes

variable [DecidableEq H] {n : String} {w w₁ : World H C}

omit [DecidableEq H] in
/-- A step of another name keeps `n` owned. -/
theorem World.Owned.step {k : String} {w' : World H C} (ho : w.Owned n) (hfr : World.Frame k w w')
    (hs : World.Spawns k w w') (hk : k ≠ n) : w'.Owned n :=
  ho.of_spawns (by simp [World.placement, hfr.current n (Ne.symm hk)]) hs hk

theorem pass1_owned (ks : List String) : Preserves (·.Owned n)
    (rangeMap (·.currentState) (fun n r => pass1Step n r) ks : Exec (World H C) Unit) :=
  rangeMap_preserves (fun k v w ho hk => by
    by_cases hkn : k = n
    · subst hkn
      exact pass1Step_owned ho hk
    · exact ho.step (pass1Step_framed v w) (pass1Step_spawned v w) hkn) ks

theorem pass2_owned (ks : List String) : Preserves (fun w => w.Owned n ∧ w.Placed n)
    (rangeMap (·.desiredState) (fun i _ => pass2Step i) ks : Exec (World H C) Unit) :=
  rangeMap_preserves (fun k _ w ⟨ho, hp⟩ _ => by
    by_cases hkn : k = n
    · subst hkn
      exact pass2Step_owned w ⟨ho, hp⟩
    · exact ⟨ho.step (pass2Step_framed w) (pass2Step_spawned w) hkn,
        hp.frame (pass2Step_framed w) hkn⟩) ks

/-- A pass 1 that returns `nil` leaves only entries that record a container, whatever the
failure pattern of the hosts: it ran as it would on hosts that never fail. -/
theorem pass1_placed {o : Orders} (ho : o.Covers w)
    (h : rangeMap (·.currentState) (fun n r => pass1Step n r) o.pass1 w = (.ok (), w₁)) :
    w₁.Placed n := fun r hr => .inl <| by
  have hcl := rangeMap_transports
    (show ∀ w : World H C, w.clearFaults.currentState = w.currentState from fun _ => rfl)
    pass1Step_transports o.pass1 w () w₁ h
  obtain ⟨w₁', h₁', -, hv₁⟩ := pass1_views (w := w.clearFaults)
    (by simpa using w.hosts.noFaults_clearFaults) o.pass1 ho.nodup1 ho.cover1
  obtain rfl : w₁.clearFaults = w₁' := (Prod.mk.inj (hcl.symm.trans h₁')).2
  have hv := hv₁ n
  simp only [World.view, Prod.mk.injEq, World.clearFaults_currentState] at hv
  rw [hv.1] at hr
  obtain ⟨r', hr', he⟩ := plan1_isSome (by rw [hr]; rfl)
  rw [hr', plan1_exists he, Option.some.injEq] at hr
  exact hr ▸ he

variable [DecidableEq C]

theorem pass3_owned (ks : List String) : Preserves (·.Owned n)
    (rangeMap (·.currentState) (fun i _ => pass3Step i) ks : Exec (World H C) Unit) :=
  rangeMap_preserves (fun k _ w ho _ => by
    by_cases hkn : k = n
    · subst hkn
      exact pass3Step_owned w ho
    · exact ho.step (pass3Step_framed w) (pass3Step_spawned w) hkn) ks

/-- Every run of `Execute` in an order Go may take, failed runs included, keeps every name
owned. -/
theorem executePasses_owned {o : Orders} (ho : o.Covers w) (hown : w.Owned n) :
    (executePasses o w).2.Owned n := by
  have h₁ := pass1_owned o.pass1 w hown
  unfold executePasses
  refine bind_snd_of (P := fun w : World H C => w.Owned n) (fun _ _ => h₁) fun _ w₁ hw₁ => ?_
  rw [hw₁] at h₁
  have h₂ := pass2_owned o.pass2 w₁ ⟨h₁, pass1_placed ho hw₁⟩
  refine bind_snd_of (P := fun w : World H C => w.Owned n) (fun _ _ => h₂.1) fun _ w₂ hw₂ => ?_
  rw [hw₂] at h₂
  exact pass3_owned o.pass3 w₂ h₂.1

end Passes

/-! ## `CheckCurrentState` and `Execute` -/

section Engine

variable [DecidableEq H] [DecidableEq C] {o : Orders} {c : containers H C} {h : Hosts H C}
  {n : String}

/-- One run of `CheckCurrentState` and `Execute`, failed runs included, keeps `Owned n`:
with `CreateAndStart` one remote operation that has no effect when it fails. -/
theorem containers.checkThenExecute_owned (ho : o.Covers (c.world h)) (hown : (c.world h).Owned n) :
    ((c.checkThenExecute o h).2.1.world (c.checkThenExecute o h).2.2).Owned n := by
  have hc : ((c.checkCurrentState h).2.1.world (c.checkCurrentState h).2.2).Owned n :=
    checkState_owned _ hown
  unfold containers.checkThenExecute
  split
  next hcs => rw [hcs] at hc; exact hc
  next c₁ h₁ hcs =>
    rw [hcs] at hc
    have hw : c₁.world h₁ = ((c.world h).record .checkState).checkState :=
      (congrArg (fun x => x.2.1.world x.2.2) hcs).symm.trans (remote_of_ok (congrArg Prod.fst hcs))
    unfold containers.execute
    split
    · exact hc
    · exact executePasses_owned (show o.Covers (c₁.world h₁) from hw ▸ ho.checkState) hc

end Engine

/-! ## Runs one after the other -/

section Runs

/-- The orders visiting the keys of the maps as they are listed: one of the orders Go may
take. -/
def Orders.ofKeys (w : World H C) : Orders :=
  ⟨w.currentState.keys, w.desiredState.keys, w.desiredState.keys ++ w.currentState.keys⟩

theorem Orders.ofKeys_covers (w : World H C) : (Orders.ofKeys w).Covers w :=
  Orders.covers_of_perm (.refl _) (.refl _) fun _ h => h

variable [DecidableEq H] [DecidableEq C]

/-- `k` runs of `CheckCurrentState` and `Execute` one after the other on one engine, each
from the maps and hosts the previous one left, whatever it returned, in the orders `ord`
picks for the world it starts from. -/
def containers.runs (ord : World H C → Orders) : Nat → containers H C → Hosts H C →
    containers H C × Hosts H C
  | 0, c, h => (c, h)
  | k + 1, c, h => containers.runs ord k (c.checkThenExecute (ord (c.world h)) h).2.1
      (c.checkThenExecute (ord (c.world h)) h).2.2

/-- **At most one container per name across runs**, with `CreateAndStart` one remote
operation that has no effect when it fails. Whatever remote operations of the hosts
fail, however many runs of `CheckCurrentState` and `Execute` follow one another on the maps
the previous run left, failed runs included, and in whatever orders Go takes: if every
container the hosts hold under `n` is the one the previous entry of `n` records, then after
every run every container the hosts hold under `n` is the one the current entry of `n`
records. No run creates a second container for `n` or loses track of one. -/
theorem containers.runs_keep_owned {ord : World H C → Orders} (hord : ∀ w, (ord w).Covers w)
    {n : String} : ∀ (k : Nat) (c : containers H C) (h : Hosts H C), (c.world h).Owned n →
      ((containers.runs ord k c h).1.world (containers.runs ord k c h).2).Owned n
  | 0, _, _, hown => hown
  | k + 1, _, _, hown =>
    containers.runs_keep_owned hord k _ _ (containers.checkThenExecute_owned (hord _) hown)

end Runs

end Flexkube
