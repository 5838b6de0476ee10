import Flexkube.Container.Owned

/-!
# What a Run Can Touch

Whatever remote operations of the hosts fail, in every order Go may take and whatever
`CheckCurrentState` and `Execute` return, a run stays within what the engine's entries at
its start account for (`checkThenExecute_touches_only_entries`):

- it writes and deletes config files only at locations some name owns (`World.owns`): a
  path of one of the name's entries, on the host of one of its entries;
- the only existing containers it starts or removes are ones some entry records;
- every container it creates carries a desired name, and sits on the host and runs the
  runtime config that name desires.

`World.Within w₀ w` says this of a world `w` reached from `w₀`. Every entry the engine
writes is built from entries it read (`World.Budgeted`: on the host of an entry of the
same name, with paths of such entries, recording a container they record or a new one),
so `Within w₀` is kept by every run of every function the passes call, failed runs
included. This is an `Exec.Preserves` fact and not a `Stable` one: a step writes what an
earlier read returned, so it keeps `Within w₀` only because the world it read did.
-/

namespace Flexkube

open Exec

variable {H C : Type}

/-! ## Entries built from the entries of a world -/

namespace World

/-- An entry `e` of `n` built from the entries of `n` in `w₀`: it is placed on the host of
one of them, each of its paths is a path of one of them, and the container it records is
one they record or one created after `w₀`. -/
structure Budgeted (w₀ : World H C) (n : String) (e : HostConfiguredContainer H C) : Prop where
  host : ∃ r ∈ w₀.entries n, r.host = e.host
  paths : ∀ p ∈ e.configFiles.keys, ∃ r ∈ w₀.entries n, p ∈ r.configFiles.keys
  status : ∀ i, e.container.status.map (·.id) = some i →
    (∃ r ∈ w₀.entries n, r.container.status.map (·.id) = some i) ∨ w₀.hosts.nextId ≤ i

/-- Everything `w` holds is accounted for by `w₀`: its entries are built from the entries
`w₀` holds under the same name, its desired entries are those of `w₀` up to their status,
and its hosts differ from those of `w₀` only at locations some name owns, at containers
some entry records, and by new containers of desired entries. -/
structure Within (w₀ w : World H C) : Prop where
  entries : ∀ n, ∀ e ∈ w.entries n, w₀.Budgeted n e
  desired : ∀ n d, w.desiredState.get n = some d → ∃ d₀, w₀.desiredState.get n = some d₀ ∧
    d.host = d₀.host ∧ d.container.config = d₀.container.config
  nextId : w₀.hosts.nextId ≤ w.hosts.nextId
  files : ∀ x p, (∀ n, ¬ w₀.owns n x p) → w.hosts.files x p = w₀.hosts.files x p
  instances : ∀ i, i < w₀.hosts.nextId →
    (∀ n, ∀ r ∈ w₀.entries n, r.container.status.map (·.id) ≠ some i) →
    w.hosts.instances i = w₀.hosts.instances i
  created : ∀ i inst, w₀.hosts.nextId ≤ i → w.hosts.instances i = some inst →
    ∃ d, w₀.desiredState.get inst.name = some d ∧ inst.host = d.host ∧
      inst.config = d.container.config

section Budget

variable {w₀ w : World H C} {n : String} {r d : HostConfiguredContainer H C}

theorem Budgeted.of_mem (he : r ∈ w₀.entries n) : w₀.Budgeted n r :=
  ⟨⟨r, he, rfl⟩, fun _ hp => ⟨r, he, hp⟩, fun _ hi => .inl ⟨r, he, hi⟩⟩

theorem Budgeted.withFiles (hr : w₀.Budgeted n r) (hd : w₀.Budgeted n d) :
    w₀.Budgeted n (r.withFiles d.configFiles) :=
  ⟨hr.host, hd.paths, hr.status⟩

theorem Budgeted.withStatus (hr : w₀.Budgeted n r) (hd : w₀.Budgeted n d) :
    w₀.Budgeted n (r.withStatus d.container.status) :=
  ⟨hr.host, hr.paths, hd.status⟩

/-- A location a budgeted entry writes or deletes is owned in `w₀`. -/
theorem Budgeted.owns (hr : w₀.Budgeted n r) {p : String} (hp : p ∈ r.configFiles.keys) :
    w₀.owns n r.host p :=
  ⟨hr.host, hr.paths p hp⟩

/-- A budgeted entry records no container of `w₀` that no entry records. -/
theorem Budgeted.id_ne (hr : w₀.Budgeted n r) {i : Nat} (hi : i < w₀.hosts.nextId)
    (hu : ∀ m, ∀ e ∈ w₀.entries m, e.container.status.map (·.id) ≠ some i) :
    r.container.status.map (·.id) ≠ some i := fun h =>
  (hr.status i h).elim (fun ⟨e, he, h⟩ => hu n e he h) fun h => absurd hi (not_lt.2 h)

theorem Within.refl (w : World H C) : Within w w where
  entries _ _ he := .of_mem he
  desired _ d hd := ⟨d, hd, rfl, rfl⟩
  nextId := le_rfl
  files _ _ _ := rfl
  instances _ _ _ := rfl
  created i _ hi h := by rw [w.hosts.fresh i hi] at h; cases h

theorem Within.budgeted (hw : Within w₀ w) (he : r ∈ w.entries n) : w₀.Budgeted n r :=
  hw.entries n r he

/-! ## The effects on the maps -/

/-- A change of the maps alone, whose entries stay budgeted and whose desired entries stay. -/
theorem Within.of_maps {w' : World H C} (hw : Within w₀ w) (hh : w'.hosts = w.hosts)
    (hd : w'.desiredState = w.desiredState) (he : ∀ n, ∀ e ∈ w'.entries n, w₀.Budgeted n e) :
    Within w₀ w' where
  entries := he
  desired n d h := hw.desired n d (hd ▸ h)
  nextId := by rw [hh]; exact hw.nextId
  files x p h := by rw [hh]; exact hw.files x p h
  instances i hi h := by rw [hh]; exact hw.instances i hi h
  created i inst hi h := hw.created i inst hi (by rwa [hh] at h)

theorem Within.record (hw : Within w₀ w) (e : Event) : Within w₀ (w.record e) :=
  ⟨hw.entries, hw.desired, hw.nextId, hw.files, hw.instances, hw.created⟩

theorem Within.setCurrent {v : HostConfiguredContainer H C} (hw : Within w₀ w) (hv : w₀.Budgeted n v) :
    Within w₀ (w.setCurrent n v) :=
  hw.of_maps rfl rfl fun m e he => by
    simp only [World.entries, setCurrent_currentState, setCurrent_desiredState, GoMap.get_set,
      List.mem_append, Option.mem_toList, Option.mem_def] at he
    split_ifs at he with hm
    · rcases he with he | he
      · cases he; exact hm ▸ hv
      · exact hw.budgeted (mem_entries_desired he)
    · exact hw.budgeted (by simpa [World.entries] using he)

theorem Within.deleteCurrent (hw : Within w₀ w) : Within w₀ (w.deleteCurrent n) :=
  hw.of_maps rfl rfl fun m e he => hw.budgeted <| by
    simp only [World.entries, deleteCurrent_currentState, deleteCurrent_desiredState, GoMap.get_delete,
      List.mem_append, Option.mem_toList, Option.mem_def] at he ⊢
    split_ifs at he <;> simp_all

theorem Within.copyDesired (hw : Within w₀ w) : Within w₀ (w.copyDesired n) := by
  unfold World.copyDesired
  split
  · exact hw.setCurrent (hw.budgeted (mem_entries_desired ‹_›))
  · exact hw

/-! ## The effects on the hosts -/

variable [DecidableEq H]

theorem Within.configure (hw : Within w₀ w) (hd : w₀.Budgeted n d) (fs : List String) :
    Within w₀ (w.configure d fs) where
  entries := hw.entries
  desired := hw.desired
  nextId := hw.nextId
  files x p hx := by
    simp only [configure_hosts, Hosts.writeFiles]
    rw [if_neg, hw.files x p hx]
    rintro ⟨rfl, -, hp⟩
    exact hx n (hd.owns ((d.configFiles.mem_keys p).2 hp))
  instances := hw.instances
  created := hw.created

/-- The state `CheckState` reads back for an entry keeps to the entry. -/
theorem Budgeted.refresh (hr : w₀.Budgeted n r) (h : Hosts H C) : w₀.Budgeted n (r.refresh h) where
  host := hr.host
  paths p hp := hr.paths p (List.mem_filter.1 hp).1
  status i hi := hr.status i <| by
    simp only [HostConfiguredContainer.refresh, Hosts.probe] at hi
    cases hs : r.container.status <;> simp_all

theorem Within.checkState (hw : Within w₀ w) : Within w₀ w.checkState :=
  hw.of_maps rfl rfl fun m e he => by
    simp only [World.entries, checkState_currentState, checkState_desiredState, GoMap.get_map,
      List.mem_append, Option.mem_toList, Option.mem_def, Option.map_eq_some'] at he
    rcases he with ⟨r, hr, rfl⟩ | he
    · exact (hw.budgeted (mem_entries_current hr)).refresh w.hosts
    · exact hw.budgeted (mem_entries_desired he)

theorem Within.start (hw : Within w₀ w) (hr : w₀.Budgeted n r) : Within w₀ (w.start r) where
  entries := hw.entries
  desired := hw.desired
  nextId := hw.nextId
  files := hw.files
  instances i hi hu := by
    simp only [start_hosts, Hosts.startAt]
    rw [if_neg fun h => hr.id_ne hi hu h.1]
    exact hw.instances i hi hu
  created i inst hi h := by
    simp only [start_hosts, Hosts.startAt] at h
    split at h
    · obtain ⟨inst₀, h₀, rfl⟩ := Option.map_eq_some'.1 h
      exact hw.created i inst₀ hi h₀
    · exact hw.created i inst hi h

theorem Within.removeContainer (hw : Within w₀ w) (hr : w₀.Budgeted n r) :
    Within w₀ (w.removeContainer n r) where
  entries m e he := hw.budgeted <| by
    simp only [World.entries, removeContainer_currentState, removeContainer_desiredState,
      GoMap.get_delete, List.mem_append, Option.mem_toList, Option.mem_def] at he ⊢
    split_ifs at he <;> simp_all
  desired := hw.desired
  nextId := hw.nextId
  files x p hx := by
    simp only [removeContainer_hosts, Hosts.removeFiles, Hosts.removeAt]
    rw [if_neg, hw.files x p hx]
    rintro ⟨rfl, hp⟩
    exact hx n (hr.owns hp)
  instances i hi hu := by
    simp only [removeContainer_hosts, Hosts.removeFiles_instances, Hosts.removeAt]
    rw [if_neg fun h => hr.id_ne hi hu h.1]
    exact hw.instances i hi hu
  created i inst hi h := by
    simp only [removeContainer_hosts, Hosts.removeFiles_instances, Hosts.removeAt] at h
    split at h
    · cases h
    · exact hw.created i inst hi h

/-- `CreateAndStart(n)` of an entry built from those of `n`, placed on the desired host
and running the desired config of `n`. -/
theorem Within.createAndStart (hw : Within w₀ w) (hd : w₀.Budgeted n d)
    (hd₀ : ∃ d₀, w₀.desiredState.get n = some d₀ ∧ d.host = d₀.host ∧
      d.container.config = d₀.container.config) :
    Within w₀ (w.createAndStart n d) where
  entries m e he := by
    simp only [World.entries, createAndStart_currentState, createAndStart_desiredState, GoMap.get_set,
      List.mem_append, Option.mem_toList, Option.mem_def] at he
    split_ifs at he with hm
    · rcases he with he | he
      · exact hw.budgeted (mem_entries_current he)
      · cases he
        exact hm ▸ ⟨hd.host, hd.paths, fun i hi => .inr (by cases hi; exact hw.nextId)⟩
    · exact hw.budgeted (by simpa [World.entries] using he)
  desired m d' h := by
    simp only [createAndStart_desiredState, GoMap.get_set] at h
    split_ifs at h with hm
    · cases h; exact hm ▸ hd₀
    · exact hw.desired m d' h
  nextId := Nat.le_succ_of_le hw.nextId
  files x p hx := by
    simp only [createAndStart_hosts, Hosts.spawn_files, Hosts.writeFiles]
    rw [if_neg, hw.files x p hx]
    rintro ⟨rfl, hp, -⟩
    exact hx n (hd.owns hp)
  instances i hi hu := by
    simp only [createAndStart_hosts, Hosts.spawn_instances, Hosts.writeFiles_instances,
      Hosts.writeFiles_nextId]
    rw [Function.update_noteq (by have := hw.nextId; omega)]
    exact hw.instances i hi hu
  created i inst hi h := by
    simp only [createAndStart_hosts, Hosts.spawn_instances, Hosts.writeFiles_instances,
      Hosts.writeFiles_nextId] at h
    rcases eq_or_ne i w.hosts.nextId with rfl | hne
    · rw [Function.update_same] at h
      cases h
      exact hd₀
    · rw [Function.update_noteq hne] at h
      exact hw.created i inst hi h

end Budget

end World

/-! ## Every function of the reconciler stays within -/

section Engine

variable {w₀ : World H C}

variable {n : String}

variable [DecidableEq H]

theorem configure_within {d : HostConfiguredContainer H C} (hd : w₀.Budgeted n d) (fs : List String) :
    Preserves w₀.Within (configure n d fs) :=
  remote_preserves _ (fun _ hw => hw.record _) fun _ hw => hw.configure hd fs

theorem checkState_within : Preserves w₀.Within (checkState : Exec (World H C) Unit) :=
  remote_preserves _ (fun _ hw => hw.record _) fun _ hw => hw.checkState

theorem start_within {r : HostConfiguredContainer H C} (hr : w₀.Budgeted n r) :
    Preserves w₀.Within (start n r) :=
  remote_preserves _ (fun _ hw => hw.record _) fun _ hw => hw.start hr

theorem createAndStart_within : Preserves w₀.Within (createAndStart n : Exec (World H C) Unit) :=
  fun w hw => by
    unfold createAndStart
    split
    · exact hw
    next d hd => exact remote_preserves _ (fun _ hw' => hw'.record _) (fun _ hw' =>
      hw'.createAndStart (hw.budgeted (World.mem_entries_desired hd)) (hw.desired n d hd)) w hw

theorem removeContainer_within : Preserves w₀.Within (removeContainer n : Exec (World H C) Unit) :=
  fun w hw => by
    unfold removeContainer
    split
    · exact hw
    next r hr => exact remote_preserves _ (fun _ hw' => hw'.record _) (fun _ hw' =>
      hw'.removeContainer (hw.budgeted (World.mem_entries_current hr))) w hw

theorem ensureConfigured_within : Preserves w₀.Within (ensureConfigured n : Exec (World H C) Unit) :=
  .get_bind fun w hw => by
    split
    · exact .pure _
    next d hd =>
      have hb := hw.budgeted (World.mem_entries_desired hd)
      refine .bind (.wrap _ (configure_within hb _)) fun _ => ?_
      split
      · exact .modify fun _ h => h.setCurrent hb
      next r hr =>
        exact .modify fun _ h => h.setCurrent ((hw.budgeted (World.mem_entries_current hr)).withFiles hb)

theorem ensureExists_within : Preserves w₀.Within (ensureExists n : Exec (World H C) Unit) :=
  .get_bind fun w hw => .ite (.pure _) (.bind (.pure _) fun _ =>
    .bind (.wrap _ createAndStart_within) fun _ => .get_bind fun w' hw' => by
      split
      next d _ hd => exact .modify fun _ h => h.setCurrent (hw'.budgeted (World.mem_entries_desired hd))
      next r d hr hd =>
        have hb := hw'.budgeted (World.mem_entries_desired hd)
        exact .modify fun _ h => h.setCurrent ((hw.budgeted (World.mem_entries_current hr)).withStatus hb)
      next => exact .pure _)

theorem recreate_within : Preserves w₀.Within (recreate n : Exec (World H C) Unit) :=
  .bind (.wrap _ removeContainer_within) fun _ => createAndStart_within

theorem ensureHost_within : Preserves w₀.Within (ensureHost n : Exec (World H C) Unit) :=
  .bind (.wrap _ (diffHost_preserves _)) fun _ => .ite (.pure _) (.bind (.pure _) fun _ =>
    .bind (.wrap _ recreate_within) fun _ => .modify fun _ h => h.copyDesired)

theorem pass1Step_within {r : HostConfiguredContainer H C} (hr : w₀.Budgeted n r) :
    Preserves w₀.Within (pass1Step n r) :=
  .ite (.modify fun _ h => h.deleteCurrent) (.wrap _ (.ite (.pure _) (start_within hr)))

theorem pass2Step_within : Preserves w₀.Within (pass2Step n : Exec (World H C) Unit) :=
  .bind (.wrap _ ensureConfigured_within) fun _ => .wrap _ ensureExists_within

variable [DecidableEq C]

theorem ensureContainer_within : Preserves w₀.Within (ensureContainer n : Exec (World H C) Unit) :=
  .bind (.wrap _ (diffContainer_preserves _)) fun _ => .ite (.pure _) (.bind (.pure _) fun _ =>
    .bind (.wrap _ recreate_within) fun _ => .modify fun _ h => h.copyDesired)

theorem pass3Step_within : Preserves w₀.Within (pass3Step n : Exec (World H C) Unit) :=
  .bind (.wrap _ ensureHost_within) fun _ => .bind (.wrap _ ensureConfigured_within) fun _ =>
    .bind (.wrap _ ensureContainer_within) fun _ => .get_bind fun _ _ =>
      .ite (.pure _) (.bind (.pure _) fun _ => .wrap _ removeContainer_within)

theorem executePasses_within (o : Orders) : Preserves w₀.Within (executePasses (H := H) (C := C) o) :=
  .bind (rangeMap_preserves (fun _ _ w hw hv => pass1Step_within (hw.budgeted
    (World.mem_entries_current hv)) w hw) _) fun _ =>
  .bind (rangeMap_preserves (fun _ _ w hw _ => pass2Step_within w hw) _) fun _ =>
    rangeMap_preserves (fun _ _ w hw _ => pass3Step_within w hw) _

/-- The world `CheckCurrentState` and then `Execute` leave, failed runs included, stays
within the world they start from. -/
theorem containers.checkThenExecute_within (o : Orders) (c : containers H C) (h : Hosts H C) :
    (c.world h).Within ((c.checkThenExecute o h).2.1.world (c.checkThenExecute o h).2.2) := by
  have hc : (c.world h).Within ((c.checkCurrentState h).2.1.world (c.checkCurrentState h).2.2) :=
    checkState_within _ (World.Within.refl _)
  unfold containers.checkThenExecute
  split
  next hcs => rw [hcs] at hc; exact hc
  next hcs =>
    rw [hcs] at hc
    unfold containers.execute
    split
    · exact hc
    · exact executePasses_within o _ hc

end Engine

/-- **A run touches only what its entries account for.** Whatever remote operations of the
hosts fail, in every order Go may take and whatever `CheckCurrentState` and `Execute`
return: every config file the run changed lies at a location some name owns, a path of one
of its entries on the host of one of its entries; every existing container it started or
removed is one some entry records; and every container it created carries a desired name,
on the host and with the runtime config that name desires. -/
theorem checkThenExecute_touches_only_entries [DecidableEq H] [DecidableEq C] (o : Orders)
    (c : containers H C) (h : Hosts H C) :
    (∀ x p, (c.checkThenExecute o h).2.2.files x p ≠ h.files x p → ∃ n, (c.world h).owns n x p) ∧
    (∀ i, i < h.nextId → (c.checkThenExecute o h).2.2.instances i ≠ h.instances i →
      ∃ n, ∃ r ∈ (c.world h).entries n, r.container.status.map (·.id) = some i) ∧
    (∀ i inst, h.nextId ≤ i → (c.checkThenExecute o h).2.2.instances i = some inst →
      ∃ d, c.desiredState.get inst.name = some d ∧ inst.host = d.host ∧
        inst.config = d.container.config) :=
  have hw := containers.checkThenExecute_within o c h
  ⟨fun x p hx => Classical.byContradiction fun hno =>
      hx (hw.files x p fun n hn => hno ⟨n, hn⟩),
    fun i hi hx => Classical.byContradiction fun hno =>
      hx (hw.instances i hi fun n r hr hid => hno ⟨n, r, hr, hid⟩),
    hw.created⟩

end Flexkube
