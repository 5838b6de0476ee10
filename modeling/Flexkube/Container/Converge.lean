import Flexkube.Container.Order
import Flexkube.Container.Footprint

/-!
# What a Successful Execute Leaves

With no failing remote operation, `Execute` returns `nil` only when no container is
scheduled for removal, and it then leaves in `currentState` exactly the desired names,
each with its desired host, runtime config and config files
(`execute_converges_recorded`). Name by name, it does what the per-name plan `planView`
computes from that name's own entries (`execute_implements_plan`).

Against the hosts, `CheckCurrentState` reads back the files an entry lists, so a run
rewrites exactly the desired files whose content on the host drifted, or that the previous
entry does not list (`checkThenExecute_repairs_drift`).

The statuses it records, and the containers on the hosts, need not follow.
`ensureConfigured` makes a name with no current entry current by storing its desired
entry, status included, and `ensureExists` creates a container only for an entry with no
status. A desired entry that carries a status, as the `DesiredState` that `Deploy` writes
back does, is therefore never created again once its container is gone: `Execute`
succeeds, records the old status as current and configures all the name's files
(`execute_trusts_desired_status`), and so does every later run.
-/

namespace Flexkube

open HostConfiguredContainer

variable {H C : Type} [DecidableEq H] [DecidableEq C]

/-! ## Entries up to their status -/

section Plans

variable {n : String} {d : HostConfiguredContainer H C}

omit [DecidableEq H] [DecidableEq C] in
@[simp] theorem withStatus_withStatus (r : HostConfiguredContainer H C) (s s' : Option ContainerStatus) :
    (r.withStatus s).withStatus s' = r.withStatus s' := rfl

omit [DecidableEq H] [DecidableEq C] in
@[simp] theorem started_withStatus (r : HostConfiguredContainer H C) (k : Nat) (s : Option ContainerStatus) :
    (r.started k).withStatus s = r.withStatus s := rfl

omit [DecidableEq H] [DecidableEq C] in
/-- Pass 2 changes at most the status of a desired entry. -/
theorem plan2_desired_withStatus (d : HostConfiguredContainer H C) (r : Option (HostConfiguredContainer H C))
    (k : Nat) : (plan2 n d r k).2.1.withStatus none = d.withStatus none := by
  unfold plan2
  split <;> rfl

/-- After its first visit in pass 3, a name's current entry is its desired one but for the
status. -/
theorem plan3_current_withStatus (c d : HostConfiguredContainer H C) (k : Nat) :
    (plan3 n c d k).1.withStatus none = d.withStatus none := by
  by_cases h1 : c.host = d.host
  · by_cases h2 : c.container.config = d.container.config
    · rw [plan3_noDrift h1 h2]
      simp [withStatus, withFiles, h1, h2]
    · rw [plan3_configDrift h1 h2]; rfl
  · rw [plan3_hostDrift h1]; rfl

/-- The desired entry pass 3 leaves differs from the one it found at most in its status. -/
theorem plan3_desired_withStatus (c d : HostConfiguredContainer H C) (k : Nat) :
    (plan3 n c d k).2.1.withStatus none = d.withStatus none := by
  unfold plan3
  split_ifs <;> rfl

/-- A desired name stays desired, with its entry but for the status. -/
theorem planView_desired_desired (r : Option (HostConfiguredContainer H C)) (l : List Event)
    (k₂ k₃ m : Nat) :
    (planView n r (some d) l k₂ k₃ m).2.1.map (·.withStatus none) = some (d.withStatus none) := by
  simp [planView, stage2View, plan2View, plan3View, plan3_desired_withStatus, plan2_desired_withStatus]

/-- A desired name ends current, with its desired entry but for the status. -/
theorem planView_desired_withStatus (r : Option (HostConfiguredContainer H C)) (l : List Event)
    (k₂ k₃ m : Nat) :
    (planView n r (some d) l k₂ k₃ m).1.map (·.withStatus none) = some (d.withStatus none) := by
  simp [planView, stage2View, plan2View, plan3View, plan3_current_withStatus, plan2_desired_withStatus]

omit [DecidableEq H] [DecidableEq C] in
/-- Pass 1 drops a name whose container does not exist, and issues nothing for it. -/
theorem plan1_of_not_exists {r : Option (HostConfiguredContainer H C)}
    (hr : ∀ r', r = some r' → r'.container.exists = false) : plan1 n r = (none, []) := by
  rcases r with _ | r
  · rfl
  · simp [plan1, hr r rfl]

/-- The plan of a desired name without an existing container whose desired entry carries
a status: configure all its files, create nothing, and make the desired entry current. -/
theorem planView_of_status {r : Option (HostConfiguredContainer H C)}
    (hr : ∀ r', r = some r' → r'.container.exists = false) (hs : d.container.exists)
    (l : List Event) (k₂ k₃ m : Nat) :
    planView n r (some d) l k₂ k₃ m =
      (some d, some d, l ++ .configure n d.configFiles.keys :: List.replicate (m + 1) (.configure n [])) := by
  simp [planView, stage2View, plan2View, plan3View, plan1_of_not_exists hr, plan2, hs, configuredEntry,
    show filesToUpdate d none = d.configFiles.keys from rfl, plan3_noDrift rfl rfl,
    filesToUpdate_of_configFiles_eq rfl, List.replicate_succ]

end Plans

/-! ## A successful run -/

section Execute

variable {o : Orders} {c : containers H C} {h : Hosts H C}

/-- A successful `Execute` had no container scheduled for removal. -/
theorem noRemovals_of_execute_ok (hcs : c.hasCurrentState) (hf : h.NoFaults)
    (ho : o.Covers (c.world h)) (hok : (c.execute o h).1 = .ok ()) : NoRemovals (c.world h) := by
  intro n r hr he
  by_contra hd
  obtain ⟨e, he'⟩ := executePasses_error_of_removal hf ho hr he (Option.not_isSome_iff_eq_none.1 hd)
  rw [containers.execute_of_hasCurrentState hcs, containers.run_fst] at hok
  cases hok.symm.trans he'

/-- **`Execute` implements the per-name plan.** With no failing remote operation and no
container scheduled for removal, in every order Go may take, `Execute` returns `nil` and
leaves every name with the current and desired entries and the operations that
`planView` computes from that name's own entries and operations alone; only the
identifiers its creations get and the number of its further pass-3 visits depend on the
other names. -/
theorem execute_implements_plan (hcs : c.hasCurrentState) (hf : h.NoFaults)
    (ho : o.Covers (c.world h)) (hrm : NoRemovals (c.world h)) :
    (c.execute o h).1 = .ok () ∧ ∀ n, ∃ k₂ k₃ m,
      ((c.execute o h).2.1.previousState.get n, (c.execute o h).2.1.desiredState.get n,
        (c.execute o h).2.2.log.filter (Event.named n)) =
      planView n (c.previousState.get n) (c.desiredState.get n) (h.log.filter (Event.named n))
        k₂ k₃ m := by
  rw [containers.execute_of_hasCurrentState hcs]
  obtain ⟨w', hrun, -, hv⟩ := executePasses_views hf ho hrm
  rw [containers.run_eq hrun]
  exact ⟨rfl, hv⟩

theorem stale_file_follows_plan :
    (staleFiles.hasCurrentState ∧ twoRunning.NoFaults ∧
      (⟨["a", "b"], ["a", "b"], ["a", "b"]⟩ : Orders).Covers (staleFiles.world twoRunning) ∧
      NoRemovals (staleFiles.world twoRunning)) ∧
    (staleFiles.execute ⟨["a", "b"], ["a", "b"], ["a", "b"]⟩ twoRunning).1 = .ok () ∧ ∀ n, ∃ k₂ k₃ m,
      ((staleFiles.execute ⟨["a", "b"], ["a", "b"], ["a", "b"]⟩ twoRunning).2.1.previousState.get n,
        (staleFiles.execute ⟨["a", "b"], ["a", "b"], ["a", "b"]⟩ twoRunning).2.1.desiredState.get n,
        (staleFiles.execute ⟨["a", "b"], ["a", "b"], ["a", "b"]⟩ twoRunning).2.2.log.filter (Event.named n)) =
      planView n (staleFiles.previousState.get n) (staleFiles.desiredState.get n)
        (twoRunning.log.filter (Event.named n)) k₂ k₃ m :=
  have ho : (⟨["a", "b"], ["a", "b"], ["a", "b"]⟩ : Orders).Covers (staleFiles.world twoRunning) :=
    Orders.covers_of_perm (by decide) (by decide) (by decide)
  have hrm : NoRemovals (staleFiles.world twoRunning) := fun n r hr _ => by
    rcases GoMap.get_ofList_pair hr with ⟨rfl, -⟩ | ⟨rfl, -⟩ <;> rfl
  ⟨⟨rfl, fun _ => rfl, ho, hrm⟩, execute_implements_plan rfl (fun _ => rfl) ho hrm⟩

/-- **What a successful `Execute` records.** With no failing remote operation, when
`Execute` returns `nil` its current state holds exactly the desired names, each with the
desired host, runtime config and config files. -/
theorem execute_converges_recorded (hcs : c.hasCurrentState) (hf : h.NoFaults)
    (ho : o.Covers (c.world h)) (hok : (c.execute o h).1 = .ok ()) (n : String) :
    ((c.execute o h).2.1.previousState.get n).map (·.withStatus none) =
      (c.desiredState.get n).map (·.withStatus none) := by
  have hrm := noRemovals_of_execute_ok hcs hf ho hok
  rw [containers.execute_of_hasCurrentState hcs]
  obtain ⟨w', hrun, -, hv⟩ := executePasses_views hf ho hrm
  obtain ⟨k₂, k₃, m, hn⟩ := hv n
  simp only [World.view, containers.world_currentState, containers.world_desiredState] at hn
  rw [containers.run_eq hrun]
  show (w'.currentState.get n).map _ = _
  rw [show w'.currentState.get n = _ from congrArg Prod.fst hn]
  cases hd : c.desiredState.get n with
  | some d => exact planView_desired_withStatus _ _ _ _ _
  | none =>
    -- an undesired name survives pass 1 only with an existing container, which `hrm` excludes
    have h1 : (plan1 n (c.previousState.get n)).1 = none := by
      cases h1 : (plan1 n (c.previousState.get n)).1 with
      | none => rfl
      | some _ =>
        obtain ⟨r, hr, he⟩ := plan1_isSome (by rw [h1]; rfl)
        simpa [hd] using hrm n r hr he
    simp [planView, stage2View, h1]

/-- **A desired entry with a status is trusted.** With no failing remote operation and no
container scheduled for removal, a desired name without an existing container, whose
desired entry carries a status, is not created: `Execute` returns `nil`, configures all
its files and then none, and makes the desired entry, status included, its current one. -/
theorem execute_trusts_desired_status {n : String} {d : HostConfiguredContainer H C}
    (hcs : c.hasCurrentState) (hf : h.NoFaults) (ho : o.Covers (c.world h))
    (hrm : NoRemovals (c.world h)) (hd : c.desiredState.get n = some d) (hs : d.container.exists)
    (hgone : ∀ r, c.previousState.get n = some r → r.container.exists = false) :
    (c.execute o h).1 = .ok () ∧
      (∃ m, (c.execute o h).2.2.log.filter (Event.named n) = h.log.filter (Event.named n) ++
        .configure n d.configFiles.keys :: List.replicate (m + 1) (.configure n [])) ∧
      (c.execute o h).2.1.previousState.get n = some d := by
  rw [containers.execute_of_hasCurrentState hcs]
  obtain ⟨w', hrun, -, hv⟩ := executePasses_views hf ho hrm
  obtain ⟨k₂, k₃, m, hn⟩ := hv n
  simp only [World.view, containers.world_currentState, containers.world_desiredState, hd,
    planView_of_status hgone hs, Prod.mk.injEq] at hn
  rw [containers.run_eq hrun]
  exact ⟨rfl, ⟨m, hn.2.2⟩, hn.1⟩

end Execute

/-! ## On the hosts -/

section Hosts

variable {o : Orders} {c : containers H C} {h : Hosts H C}

omit [DecidableEq C] in
theorem refresh_exists {r : HostConfiguredContainer H C} (he : (r.refresh h).container.exists) :
    r.container.exists := by
  cases hs : r.container.status <;> simp_all [HostConfiguredContainer.refresh, Hosts.probe, Container.exists]

omit [DecidableEq C] in
/-- The orders Go may take stay the same through `CheckState`. -/
theorem Orders.Covers.checkState {w : World H C} (ho : o.Covers w) :
    o.Covers (w.record .checkState).checkState where
  nodup1 := ho.nodup1
  nodup2 := ho.nodup2
  cover1 n hn := ho.cover1 n (by simpa using hn)
  cover2 n hn := ho.cover2 n hn
  cover3 n hn := ho.cover3 n <| by
    rcases hn with hn | ⟨r, hr, he⟩
    · exact .inl hn
    · simp only [World.checkState_currentState, World.record_currentState, GoMap.get_map,
        Option.map_eq_some'] at hr
      obtain ⟨r₀, hr₀, rfl⟩ := hr
      exact .inr ⟨r₀, hr₀, refresh_exists he⟩

/-- With no failing remote operation, `CheckCurrentState` succeeds and `Execute` runs on
the refreshed world, where still no remote operation fails and the orders still cover the
maps. -/
theorem checkThenExecute_of_noFaults (hf : h.NoFaults) (ho : o.Covers (c.world h)) :
    ∃ (c₁ : containers H C) (h₁ : Hosts H C),
      c.checkThenExecute o h = c₁.execute o h₁ ∧ c₁.hasCurrentState ∧
      c₁.world h₁ = ((c.world h).record .checkState).checkState ∧ c₁.desiredState = c.desiredState ∧
      h₁.NoFaults ∧ o.Covers (c₁.world h₁) :=
  ⟨⟨c.previousState.map fun _ r => r.refresh (h.record .checkState), true, c.desiredState⟩,
    h.record .checkState, by simp [containers.checkThenExecute, containers.checkCurrentState,
      containers.run, checkState_ok (w := ⟨c.previousState, c.desiredState, h⟩) hf], rfl, rfl, rfl,
    hf, ho.checkState⟩

omit [DecidableEq H] [DecidableEq C] in
/-- Entries equal but for their status agree on host, runtime config and config files. -/
theorem agree_of_withStatus_none {r d : HostConfiguredContainer H C}
    (h : r.withStatus none = d.withStatus none) :
    r.host = d.host ∧ r.container.config = d.container.config ∧ r.configFiles = d.configFiles :=
  ⟨by simpa using congrArg HostConfiguredContainer.host h,
    by simpa using congrArg (·.container.config) h,
    by simpa using congrArg HostConfiguredContainer.configFiles h⟩

/-- What a successful run leaves under the conditions of `checkThenExecute_converges`:
still no failing remote operation, the desired entries recorded but for their status, and
for every recorded entry a running container with its runtime config and all of its
config files on its host. -/
theorem checkThenExecute_settled (hf : h.NoFaults) (ho : o.Covers (c.world h))
    (hap : (c.world h).Apart)
    (hcfg : ∀ n r s i, c.previousState.get n = some r → r.container.status = some s →
      h.find r.host s.id = some i → i.config = r.container.config)
    (hA : ∀ n d, c.desiredState.get n = some d → d.container.status = none)
    (hok : (c.checkThenExecute o h).1 = .ok ()) :
    (c.checkThenExecute o h).2.2.NoFaults ∧ ∀ n,
      ((c.checkThenExecute o h).2.1.previousState.get n).map (·.withStatus none) =
        (c.desiredState.get n).map (·.withStatus none) ∧
      ∀ r, (c.checkThenExecute o h).2.1.previousState.get n = some r → ∃ s i,
        r.container.status = some s ∧ (c.checkThenExecute o h).2.2.find r.host s.id = some i ∧
        i.config = r.container.config ∧ i.running ∧
        ∀ p v, r.configFiles.get p = some v → (c.checkThenExecute o h).2.2.files r.host p = some v := by
  obtain ⟨c₁, h₁, heq, hcs, hw, hdes, hf₁, ho₁⟩ := checkThenExecute_of_noFaults hf ho
  rw [heq] at hok ⊢
  rw [← hdes]
  have hrm := noRemovals_of_execute_ok hcs hf₁ ho₁ hok
  have hs : (c₁.world h₁).Separated := hw ▸ World.Apart.checkState ⟨hap.ids, hap.files⟩
  have ht : ∀ n, (c₁.world h₁).Truthful n := hw ▸ World.truthful_checkState hcfg
  have hA₁ : ∀ n d, (c₁.world h₁).desiredState.get n = some d → d.container.status = none := by
    simpa [hw] using hA
  obtain ⟨w₃, hrun, hR⟩ := World.executePasses_hosts hf₁ ho₁ hrm hs ht hA₁
  obtain ⟨w₃', hrun', hf₃, hv⟩ := executePasses_views hf₁ ho₁ hrm
  obtain rfl : w₃ = w₃' := (Prod.mk.inj (hrun.symm.trans hrun')).2
  have hrec := execute_converges_recorded hcs hf₁ ho₁ hok
  rw [containers.execute_of_hasCurrentState hcs, containers.run_eq hrun] at hrec ⊢
  refine ⟨hf₃, fun n => ⟨hrec n, fun r hr => ?_⟩⟩
  -- the desired entry of a recorded name, before and after the run
  obtain ⟨d, hd, hdr⟩ := Option.map_eq_some'.1 ((hrec n).symm.trans (by rw [hr]; rfl))
  obtain ⟨k₂, k₃, m, hn⟩ := hv n
  rw [containers.world_desiredState, hd] at hn
  obtain ⟨d₃, hd₃, hd₃'⟩ := Option.map_eq_some'.1
    ((congrArg (fun x => x.2.1.map (·.withStatus none)) hn).trans (planView_desired_desired _ _ k₂ k₃ m))
  obtain ⟨s, hst⟩ := Option.isSome_iff_exists.1 ((hR n).present r hr).1
  obtain ⟨i, hi, hic, -⟩ := (hR n).truthful.container r s hr hst
  obtain ⟨i', hi', hrun_i⟩ := (hR n).running r s hr hst
  obtain rfl : i = i' := Option.some.inj (hi.symm.trans hi')
  have hhost : r.host = d₃.host :=
    (agree_of_withStatus_none hdr).1.symm.trans (agree_of_withStatus_none hd₃').1.symm
  exact ⟨s, i, hst, hi, hic, hrun_i, (hR n).truthful.files r d₃ hr (by simpa [World.view] using hd₃) hhost⟩

/-- **Convergence on the hosts.** When no remote operation fails, distinct names record
distinct containers and own disjoint locations, every recorded container its host holds
has the recorded runtime config, and no desired entry records a container: if
`CheckCurrentState` and `Execute` return `nil`, then `currentState` holds exactly the
desired names, each with its desired host, runtime config and config files, and for every
desired name the container its status names runs on the desired host with the desired
runtime config, and every desired config file is on that host. -/
theorem checkThenExecute_converges (hf : h.NoFaults) (ho : o.Covers (c.world h))
    (hap : (c.world h).Apart)
    (hcfg : ∀ n r s i, c.previousState.get n = some r → r.container.status = some s →
      h.find r.host s.id = some i → i.config = r.container.config)
    (hA : ∀ n d, c.desiredState.get n = some d → d.container.status = none)
    (hok : (c.checkThenExecute o h).1 = .ok ()) (n : String) :
    ((c.checkThenExecute o h).2.1.previousState.get n).map (·.withStatus none) =
        (c.desiredState.get n).map (·.withStatus none) ∧
      ∀ d, c.desiredState.get n = some d → ∃ r s i,
        (c.checkThenExecute o h).2.1.previousState.get n = some r ∧ r.container.status = some s ∧
        (c.checkThenExecute o h).2.2.find d.host s.id = some i ∧
        i.config = d.container.config ∧ i.running ∧
        ∀ p v, d.configFiles.get p = some v → (c.checkThenExecute o h).2.2.files d.host p = some v := by
  obtain ⟨-, hset⟩ := checkThenExecute_settled hf ho hap hcfg hA hok
  refine ⟨(hset n).1, fun d hd => ?_⟩
  obtain ⟨r, hr, hrd⟩ := Option.map_eq_some'.1 ((hset n).1.trans (by rw [hd]; rfl))
  obtain ⟨s, i, hst, hi, hic, hrun, hfl⟩ := (hset n).2 r hr
  obtain ⟨hhost, hconf, hfiles⟩ := agree_of_withStatus_none hrd
  exact ⟨r, s, i, hr, hst, hhost ▸ hi, hic.trans hconf, hrun, fun p v hp => hhost ▸ hfl p v (hfiles ▸ hp)⟩

end Hosts

theorem stale_file_converges :
    (twoRunning.NoFaults ∧ (⟨["a", "b"], ["a", "b"], ["a", "b"]⟩ : Orders).Covers (staleFiles.world twoRunning) ∧
      (staleFiles.world twoRunning).Apart ∧
      (∀ n r s i, staleFiles.previousState.get n = some r → r.container.status = some s →
        twoRunning.find r.host s.id = some i → i.config = r.container.config) ∧
      (∀ n d, staleFiles.desiredState.get n = some d → d.container.status = none) ∧
      (staleFiles.checkThenExecute ⟨["a", "b"], ["a", "b"], ["a", "b"]⟩ twoRunning).1 = .ok ()) ∧
    (((staleFiles.checkThenExecute ⟨["a", "b"], ["a", "b"], ["a", "b"]⟩ twoRunning).2.1.previousState.get "a").map
        (·.withStatus none) = (staleFiles.desiredState.get "a").map (·.withStatus none) ∧
      ∀ d, staleFiles.desiredState.get "a" = some d → ∃ r s i,
        (staleFiles.checkThenExecute ⟨["a", "b"], ["a", "b"], ["a", "b"]⟩ twoRunning).2.1.previousState.get "a" = some r ∧
        r.container.status = some s ∧
        (staleFiles.checkThenExecute ⟨["a", "b"], ["a", "b"], ["a", "b"]⟩ twoRunning).2.2.find d.host s.id = some i ∧
        i.config = d.container.config ∧ i.running ∧
        ∀ p v, d.configFiles.get p = some v →
          (staleFiles.checkThenExecute ⟨["a", "b"], ["a", "b"], ["a", "b"]⟩ twoRunning).2.2.files d.host p = some v) :=
  have ho : (⟨["a", "b"], ["a", "b"], ["a", "b"]⟩ : Orders).Covers (staleFiles.world twoRunning) :=
    Orders.covers_of_perm (by decide) (by decide) (by decide)
  have hap : (staleFiles.world twoRunning).Apart := World.Apart.of_pair (a := "a") (b := "b")
    (fun n hn => by
      by_contra hk
      simp only [not_or] at hk
      exact hn (by simp [World.entries, staleFiles, GoMap.ofList, GoMap.get_set, hk.1, hk.2]))
    (fun i ha hb => by
      have h1 : (staleFiles.world twoRunning).recordedId "a" = some 1 := rfl
      have h2 : (staleFiles.world twoRunning).recordedId "b" = some 2 := rfl
      rw [h1] at ha; rw [h2] at hb; cases ha; cases hb)
    (fun x p _ ⟨_, r, hr, hp⟩ => by
      have hb : (staleFiles.world twoRunning).entries "b" = [runningB, runningB.withStatus none] := rfl
      rw [hb] at hr
      rcases List.mem_pair.1 hr with rfl | rfl <;> exact List.not_mem_nil p hp)
  have hcfg : ∀ n r s i, staleFiles.previousState.get n = some r → r.container.status = some s →
      twoRunning.find r.host s.id = some i → i.config = r.container.config := fun n r s i hr hs hi => by
    rcases GoMap.get_ofList_pair hr with ⟨rfl, rfl⟩ | ⟨rfl, rfl⟩ <;> cases hs <;> cases hi <;> rfl
  have hA : ∀ n d, staleFiles.desiredState.get n = some d → d.container.status = none := fun n d hd => by
    rcases GoMap.get_ofList_pair hd with ⟨rfl, rfl⟩ | ⟨rfl, rfl⟩ <;> rfl
  have hok : (staleFiles.checkThenExecute ⟨["a", "b"], ["a", "b"], ["a", "b"]⟩ twoRunning).1 = .ok () := by decide
  ⟨⟨fun _ => rfl, ho, hap, hcfg, hA, hok⟩, checkThenExecute_converges (fun _ => rfl) ho hap hcfg hA hok "a"⟩

/-! ## Drift on the hosts -/

section HostDrift

variable {o : Orders} {c : containers H C} {h : Hosts H C} {n : String}
  {r d : HostConfiguredContainer H C} {s : ContainerStatus}

omit [DecidableEq C] in
/-- The content `CheckState` reads back for a path: the host's, for a path the entry lists. -/
theorem refresh_configFiles_get (r : HostConfiguredContainer H C) (p : String) :
    (r.refresh h).configFiles.get p = (r.configFiles.get p).bind fun _ => h.files r.host p := by
  simp [HostConfiguredContainer.refresh]

/-- **Drift on the hosts is repaired, and only it.** With no failing remote operation and
in every order Go may take, for a name whose previous entry records a container its host
still holds, with the desired host and runtime config: over `CheckCurrentState` and
`Execute` the run writes exactly the desired config files whose content on the host is not
the desired one, or that the previous entry does not list, each once, and neither removes
nor creates the container. -/
theorem checkThenExecute_repairs_drift (hf : h.NoFaults) (ho : o.Covers (c.world h))
    (hr : c.previousState.get n = some r) (hs : r.container.status = some s)
    (hi : (h.find r.host s.id).isSome) (hd : c.desiredState.get n = some d) (hh : r.host = d.host)
    (hc : r.container.config = d.container.config) :
    ∃ es, (c.checkThenExecute o h).2.2.log.filter (Event.named n) = h.log.filter (Event.named n) ++ es ∧
      (∀ p, p ∈ es.flatMap Event.configuredFiles ↔ ∃ x, d.configFiles.get p = some x ∧
        ((r.configFiles.get p).isNone ∨ h.files d.host p ≠ some x)) ∧
      (es.flatMap Event.configuredFiles).Nodup ∧
      Event.removeContainer n ∉ es ∧ Event.createAndStart n ∉ es := by
  obtain ⟨c₁, h₁, heq, hcs, hw, -, hf₁, ho₁⟩ := checkThenExecute_of_noFaults hf ho
  rw [heq, containers.execute_of_hasCurrentState hcs]
  obtain ⟨k₂, hv⟩ := executePasses_views_abort hf₁ ho₁ n
  -- the entry `CheckState` leaves for `n`
  let r' := r.refresh (h.record .checkState)
  have he' : r'.container.exists := by
    simpa [r', HostConfiguredContainer.refresh, Hosts.probe, Container.exists, hs,
      Option.isSome_iff_exists] using hi
  rw [hw] at hv
  simp only [World.checkState_currentState, World.checkState_desiredState, World.record_currentState,
    World.record_desiredState, World.checkState_hosts, World.record_hosts, Hosts.record_log,
    containers.world_currentState, containers.world_desiredState, containers.world_hosts,
    GoMap.get_map, hr, hd, Option.map_some', List.filter_append] at hv
  obtain ⟨m, hm⟩ := undrifted_log (r := r') he' hh hc (by simpa [Event.named] using hv)
  have hfiles : ((plan1 n (some r')).2 ++ Event.configure n (filesToUpdate d (some r')) ::
      List.replicate m (Event.configure n [])).flatMap Event.configuredFiles =
        filesToUpdate d (some r') := by
    simp [plan1_exists he', List.flatMap_replicate, Event.configuredFiles]
  refine ⟨_, ?_, fun p => ?_, by rw [hfiles]; exact filesToUpdate_nodup d _, ?_⟩
  · show (executePasses o (c₁.world h₁)).2.hosts.log.filter (Event.named n) = _
    rw [hw]; exact hm
  · rw [hfiles, mem_filesToUpdate, refresh_configFiles_get, ← hh]
    refine exists_congr fun x => and_congr_right fun _ => ?_
    cases r.configFiles.get p <;> simp
  · simp only [plan1_exists he']
    split <;> simp [List.mem_replicate]

theorem stale_file_repaired :
    (twoRunning.NoFaults ∧ (⟨["a"], ["a"], ["a"]⟩ : Orders).Covers (staleFile.world twoRunning) ∧
      staleFile.previousState.get "a" = some oldConf ∧ oldConf.container.status = some ⟨1, true⟩ ∧
      (twoRunning.find oldConf.host 1).isSome ∧ staleFile.desiredState.get "a" = some newConf ∧
      oldConf.host = newConf.host ∧ oldConf.container.config = newConf.container.config) ∧
    ∃ es, (staleFile.checkThenExecute ⟨["a"], ["a"], ["a"]⟩ twoRunning).2.2.log.filter
        (Event.named "a") = twoRunning.log.filter (Event.named "a") ++ es ∧
      (∀ p, p ∈ es.flatMap Event.configuredFiles ↔ ∃ x, newConf.configFiles.get p = some x ∧
        ((oldConf.configFiles.get p).isNone ∨ twoRunning.files newConf.host p ≠ some x)) ∧
      (es.flatMap Event.configuredFiles).Nodup ∧
      Event.removeContainer "a" ∉ es ∧ Event.createAndStart "a" ∉ es :=
  have ho : (⟨["a"], ["a"], ["a"]⟩ : Orders).Covers (staleFile.world twoRunning) :=
    Orders.covers_of_perm (by decide) (by decide) (by decide)
  ⟨⟨fun _ => rfl, ho, rfl, rfl, rfl, rfl, rfl, rfl⟩,
    checkThenExecute_repairs_drift (fun _ => rfl) ho rfl rfl rfl rfl rfl rfl⟩

end HostDrift

/-! ## A container lost after `Deploy` -/

/-- The entry `Deploy` writes back for `"a"` once it created its container `1` on `"h1"`. -/
def createdA : HostConfiguredContainer String String :=
  ⟨"h1", ⟨"cfg", some ⟨1, true⟩⟩, GoMap.ofList [("/etc/a.conf", "x")]⟩

/-- The value `Deploy` writes back once it created `"a"`: `createdA` is its previous and
its desired entry. -/
def deployedA : Containers String String :=
  ⟨some (GoMap.ofList [("a", createdA)]), some (GoMap.ofList [("a", createdA)])⟩

/-- The engine `Containers.New` makes of `deployedA`. -/
def deployedEngine : containers String String :=
  ⟨GoMap.ofList [("a", createdA)], false, GoMap.ofList [("a", createdA)]⟩

/-- `deployedEngine` after `CheckCurrentState` on hosts where container `1` is gone. -/
def lostChecked : containers String String := (deployedEngine.checkCurrentState noContainers).2.1

/-- The hosts after that `CheckCurrentState`. -/
def lostHosts : Hosts String String := (deployedEngine.checkCurrentState noContainers).2.2

theorem lost_container_never_recreated :
    (lostChecked.hasCurrentState ∧ lostHosts.NoFaults ∧
      (⟨["a"], ["a"], ["a"]⟩ : Orders).Covers (lostChecked.world lostHosts) ∧
      NoRemovals (lostChecked.world lostHosts) ∧ lostChecked.desiredState.get "a" = some createdA ∧
      createdA.container.exists ∧
      ∀ r, lostChecked.previousState.get "a" = some r → r.container.exists = false) ∧
    ((lostChecked.execute ⟨["a"], ["a"], ["a"]⟩ lostHosts).1 = .ok () ∧
      (∃ m, (lostChecked.execute ⟨["a"], ["a"], ["a"]⟩ lostHosts).2.2.log.filter (Event.named "a") =
        lostHosts.log.filter (Event.named "a") ++
          .configure "a" createdA.configFiles.keys :: List.replicate (m + 1) (.configure "a" [])) ∧
      (lostChecked.execute ⟨["a"], ["a"], ["a"]⟩ lostHosts).2.1.previousState.get "a" = some createdA) ∧
    ∀ i, (lostChecked.execute ⟨["a"], ["a"], ["a"]⟩ lostHosts).2.2.instances i = none :=
  have ho : (⟨["a"], ["a"], ["a"]⟩ : Orders).Covers (lostChecked.world lostHosts) :=
    Orders.covers_of_perm (by decide) (by decide) (by decide)
  have hgone : ∀ r, lostChecked.previousState.get "a" = some r → r.container.exists = false :=
    fun _ hr => by cases hr; rfl
  have hrm : NoRemovals (lostChecked.world lostHosts) := fun n r hr he => by
    obtain rfl : n = "a" := List.mem_singleton.1 (lostChecked.previousState.mem_keys_of_get hr)
    cases (hgone r hr).symm.trans he
  ⟨⟨rfl, fun _ => rfl, ho, hrm, rfl, rfl, hgone⟩,
    execute_trusts_desired_status rfl (fun _ => rfl) ho hrm rfl rfl hgone, fun _ => rfl⟩

/-- `Deploy` twice from `deployedA` on hosts where container `1` of `"a"` is gone: both
runs return `nil`, neither creates a container, and the second writes `/etc/a.conf`
again. -/
theorem redeploy_rewrites_files :
    (deployedA.deploy (fun _ => .ok ()) ⟨["a"], ["a"], ["a"]⟩ noContainers).1 = .ok () ∧
    ((deployedA.deploy (fun _ => .ok ()) ⟨["a"], ["a"], ["a"]⟩ noContainers).2.1.deploy (fun _ => .ok ())
      ⟨["a"], ["a"], ["a"]⟩ (deployedA.deploy (fun _ => .ok ()) ⟨["a"], ["a"], ["a"]⟩ noContainers).2.2).1 =
      .ok () ∧
    ((deployedA.deploy (fun _ => .ok ()) ⟨["a"], ["a"], ["a"]⟩ noContainers).2.1.deploy (fun _ => .ok ())
      ⟨["a"], ["a"], ["a"]⟩ (deployedA.deploy (fun _ => .ok ()) ⟨["a"], ["a"], ["a"]⟩ noContainers).2.2).2.2.log =
      [.checkState, .configure "a" ["/etc/a.conf"], .configure "a" [],
       .checkState, .configure "a" ["/etc/a.conf"], .configure "a" []] := by
  decide

end Flexkube
