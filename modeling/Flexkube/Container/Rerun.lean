import Flexkube.Container.Converge

/-!
# Running Deploy Again

A caller that persists what `Deploy` exported runs it again: `Containers.New` on the
exported previous state and the same desired state, `CheckCurrentState`, `Execute`.
Under the conditions of `checkThenExecute_converges`, a first run that returns `nil`
leaves nothing for the second to do: against the hosts the first run left, the second
returns `nil`, issues for every name only `Configure` calls of no file, and records every
name's entry as the first run did, its status now saying that its container runs
(`rerun_only_reconfigures`).

That running flag is the one thing the second run changes. Pass 1 starts a stopped
container without recording it, so the first run may export a status that says stopped
for a container it started; the second run's `CheckState` reads the flag back.
-/

namespace Flexkube

variable {H C : Type} [DecidableEq H] [DecidableEq C]

/-! ## A settled name -/

section Settled

variable {n : String} {r d : HostConfiguredContainer H C}

omit [DecidableEq C] in
/-- `CheckState` on an entry whose container runs and whose config files are all on its
host only sets the running flag. -/
theorem refresh_of_running {h : Hosts H C} {s : ContainerStatus} {i : Instance H C}
    (hs : r.container.status = some s) (hi : h.find r.host s.id = some i) (hrun : i.running)
    (hfl : ∀ p v, r.configFiles.get p = some v → h.files r.host p = some v) :
    r.refresh h = r.withStatus (some ⟨s.id, true⟩) := by
  have hfiles : (r.configFiles.filterMap fun p _ => h.files r.host p) = r.configFiles :=
    GoMap.filterMap_eq_self hfl
  simp [HostConfiguredContainer.refresh, HostConfiguredContainer.withStatus, Hosts.probe, hs, hi,
    hrun, hfiles]

/-- The plan of a name whose current entry is its desired one but for a status that says
its container runs: every visit configures no file. -/
theorem planView_settled {k : Nat} (hs : r.container.status = some ⟨k, true⟩)
    (hrd : r.withStatus none = d.withStatus none) (l : List Event) (k₂ k₃ m : Nat) :
    planView n (some r) (some d) l k₂ k₃ m =
      (some r, some d, l ++ List.replicate (m + 2) (.configure n [])) := by
  obtain ⟨h1, h2, h3⟩ := agree_of_withStatus_none hrd
  have he : r.container.exists := by simp [Container.exists, hs]
  simp [planView, stage2View, plan2View, plan3View, plan1_exists he, plan2_exists he,
    Container.isRunning, hs, plan3_noDrift h1 h2, filesToUpdate_of_configFiles_eq h3, ← h3,
    List.replicate_succ]

end Settled

omit [DecidableEq H] [DecidableEq C] in
/-- What `Containers.New` makes of two given states, when it succeeds. -/
theorem Containers.new_eq_ok {v : HostConfiguredContainer H C → Except String Unit}
    {p d : ContainersState H C} {c : containers H C}
    (h : (⟨some p, some d⟩ : Containers H C).new v = .ok c) : c = ⟨p, false, d⟩ := by
  unfold Containers.new at h
  split at h
  · cases h
  · simp only [ContainersState.new] at h
    cases hp : p.keys.mapM fun n => (p.get n).elim (.ok ()) v <;>
      cases hd : d.keys.mapM fun n => (d.get n).elim (.ok ()) v <;>
      rw [hp, hd] at h <;> first | exact (Except.ok.inj h).symm | cases h

/-! ## The second run -/

section Rerun

variable {o o₂ : Orders} {c c₁ c₂ : containers H C} {h h₁ : Hosts H C}

/-- **Reruns only reconfigure.** Under the conditions of `checkThenExecute_converges`, let
`CheckCurrentState` and `Execute` return `nil`, and let `Containers.New` accept the
exported previous state with the same desired state. Then `CheckCurrentState` and
`Execute` of that engine, against the hosts the first run left and in any order Go may
take, return `nil`; for every name they issue only `Configure` calls of no file; and every
name's recorded entry is the one the first run exported, with a status that says its
container runs. -/
theorem rerun_only_reconfigures (v : HostConfiguredContainer H C → Except String Unit)
    (hf : h.NoFaults) (ho : o.Covers (c.world h)) (hap : (c.world h).Apart)
    (hcfg : ∀ n r s i, c.previousState.get n = some r → r.container.status = some s →
      h.find r.host s.id = some i → i.config = r.container.config)
    (hA : ∀ n d, c.desiredState.get n = some d → d.container.status = none)
    (hrun : c.checkThenExecute o h = (.ok (), c₁, h₁))
    (hnew : (⟨some c₁.previousState.export, some c.desiredState⟩ : Containers H C).new v = .ok c₂)
    (ho₂ : o₂.Covers (c₂.world h₁)) :
    (c₂.checkThenExecute o₂ h₁).1 = .ok () ∧ ∀ n,
      (∃ m, (c₂.checkThenExecute o₂ h₁).2.2.log.filter (Event.named n) =
        h₁.log.filter (Event.named n) ++ List.replicate m (.configure n [])) ∧
      (c₂.checkThenExecute o₂ h₁).2.1.previousState.get n = (c₁.previousState.get n).map
        fun r => r.withStatus (r.container.status.map fun s => ⟨s.id, true⟩) := by
  obtain ⟨hf₁, hset⟩ := checkThenExecute_settled hf ho hap hcfg hA (by rw [hrun])
  rw [hrun] at hf₁ hset
  obtain rfl := Containers.new_eq_ok hnew
  obtain ⟨c₃, h₃, heq, hcs, hw, -, hf₃, ho₃⟩ := checkThenExecute_of_noFaults hf₁ ho₂
  -- `CheckState` finds every recorded container running and all its files in place
  have hcur : ∀ n, (c₃.world h₃).currentState.get n = (c₁.previousState.get n).map
      fun r => r.withStatus (r.container.status.map fun s => ⟨s.id, true⟩) := fun n => by
    rw [hw]
    cases hr : c₁.previousState.get n with
    | none => simp [ContainersState.export, hr]
    | some r =>
      obtain ⟨s, i, hs, hi, -, hrun, hfl⟩ := (hset n).2 r hr
      simp [ContainersState.export, hr, hs, refresh_of_running (h := h₁.record .checkState) hs hi hrun hfl]
  have hdes : ∀ n, (c₃.world h₃).desiredState.get n = c.desiredState.get n := fun n => by
    rw [hw]; rfl
  have hrm : NoRemovals (c₃.world h₃) := fun n r hr _ => by
    rw [hcur] at hr
    obtain ⟨r₁, hr₁, -⟩ := Option.map_eq_some'.1 hr
    obtain ⟨d, hd, -⟩ := Option.map_eq_some'.1 ((hset n).1.symm.trans (by rw [hr₁]; rfl))
    rw [hdes, hd]; rfl
  obtain ⟨w', hrun', -, hv⟩ := executePasses_views hf₃ ho₃ hrm
  rw [heq, containers.execute_of_hasCurrentState hcs, containers.run_eq hrun']
  refine ⟨rfl, fun n => ?_⟩
  obtain ⟨k₂, k₃, m, hn⟩ := hv n
  have hlog : (c₃.world h₃).hosts.log.filter (Event.named n) = h₁.log.filter (Event.named n) := by
    rw [hw]; simp [Event.named]
  rw [hcur, hdes, hlog] at hn
  show (∃ m, w'.hosts.log.filter (Event.named n) = _) ∧ w'.currentState.get n = _
  cases hd : c.desiredState.get n with
  | none =>
    have hr : c₁.previousState.get n = none := by simpa [hd] using (hset n).1
    simp only [hr, hd, Option.map_none', planView, stage2View, plan1, World.view, Prod.mk.injEq] at hn
    exact ⟨⟨0, by simp [hn.2.2]⟩, by rw [hn.1, hr]; rfl⟩
  | some d =>
    obtain ⟨r, hr, hrd⟩ := Option.map_eq_some'.1 ((hset n).1.trans (by rw [hd]; rfl))
    obtain ⟨s, -, hs, -⟩ := (hset n).2 r hr
    rw [hr, hd, Option.map_some', hs, Option.map_some', planView_settled (r := r.withStatus _) rfl hrd] at hn
    simp only [World.view, Prod.mk.injEq] at hn
    exact ⟨⟨m + 2, hn.2.2⟩, by rw [hn.1, hr, Option.map_some', hs]; rfl⟩

end Rerun

/-! ## A container pass 1 starts -/

/-- The entry of `"a"` recording its stopped container `1`, with an old config file. -/
def stoppedConf : HostConfiguredContainer String String :=
  ⟨"h1", ⟨"cfg", some ⟨1, false⟩⟩, GoMap.ofList [("/etc/a.conf", "old")]⟩

/-- Hosts where the container `1` of `"a"` is stopped on `"h1"` and the container `2` of
`"b"` runs there, and no file is. -/
def oneStopped : Hosts String String where
  instances i := if i = 1 then some ⟨"a", "h1", "cfg", false⟩
    else if i = 2 then some ⟨"b", "h1", "cfg", true⟩ else none
  nextId := 3
  fresh i hi := by simp only [if_neg (show i ≠ 1 by omega), if_neg (show i ≠ 2 by omega)]
  files _ _ := none
  log := []
  fails _ := none

/-- The engine recording `stoppedConf` for `"a"` and desiring `newConf`, and recording
`runningB` for `"b"` as it is desired. -/
def stoppedA : containers String String :=
  ⟨GoMap.ofList [("a", stoppedConf), ("b", runningB)], false,
    GoMap.ofList [("a", newConf), ("b", runningB.withStatus none)]⟩

/-- The engine the first run of `stoppedA` on `oneStopped` leaves. -/
def startedEngine : containers String String :=
  (stoppedA.checkThenExecute ⟨["a", "b"], ["a", "b"], ["a", "b"]⟩ oneStopped).2.1

/-- The hosts that run leaves. -/
def startedHosts : Hosts String String :=
  (stoppedA.checkThenExecute ⟨["a", "b"], ["a", "b"], ["a", "b"]⟩ oneStopped).2.2

/-- The engine `Containers.New` makes of the previous state that run exported, with the
desired state of `stoppedA`. -/
def rerunEngine : containers String String :=
  ⟨startedEngine.previousState.export, false, stoppedA.desiredState⟩

/-- The first run starts container `1` and records it as stopped; the second records it
as running, and does nothing else. -/
theorem stopped_rerun_records_running :
    (oneStopped.NoFaults ∧ (⟨["a", "b"], ["a", "b"], ["a", "b"]⟩ : Orders).Covers (stoppedA.world oneStopped) ∧
      (stoppedA.world oneStopped).Apart ∧
      (∀ n r s i, stoppedA.previousState.get n = some r → r.container.status = some s →
        oneStopped.find r.host s.id = some i → i.config = r.container.config) ∧
      (∀ n d, stoppedA.desiredState.get n = some d → d.container.status = none) ∧
      stoppedA.checkThenExecute ⟨["a", "b"], ["a", "b"], ["a", "b"]⟩ oneStopped = (.ok (), startedEngine, startedHosts) ∧
      (⟨some startedEngine.previousState.export, some stoppedA.desiredState⟩ : Containers String String).new
        (fun _ => .ok ()) = .ok rerunEngine ∧
      (⟨["a", "b"], ["a", "b"], ["a", "b"]⟩ : Orders).Covers (rerunEngine.world startedHosts)) ∧
    ((rerunEngine.checkThenExecute ⟨["a", "b"], ["a", "b"], ["a", "b"]⟩ startedHosts).1 = .ok () ∧ ∀ n,
      (∃ m, (rerunEngine.checkThenExecute ⟨["a", "b"], ["a", "b"], ["a", "b"]⟩ startedHosts).2.2.log.filter (Event.named n) =
        startedHosts.log.filter (Event.named n) ++ List.replicate m (.configure n [])) ∧
      (rerunEngine.checkThenExecute ⟨["a", "b"], ["a", "b"], ["a", "b"]⟩ startedHosts).2.1.previousState.get n =
        (startedEngine.previousState.get n).map
          fun r => r.withStatus (r.container.status.map fun s => ⟨s.id, true⟩)) ∧
    (startedEngine.previousState.get "a").map (·.container.status) = some (some ⟨1, false⟩) ∧
    ((rerunEngine.checkThenExecute ⟨["a", "b"], ["a", "b"], ["a", "b"]⟩ startedHosts).2.1.previousState.get "a").map
      (·.container.status) = some (some ⟨1, true⟩) :=
  have ho : (⟨["a", "b"], ["a", "b"], ["a", "b"]⟩ : Orders).Covers (stoppedA.world oneStopped) :=
    Orders.covers_of_perm (by decide) (by decide) (by decide)
  have hap : (stoppedA.world oneStopped).Apart := World.Apart.of_pair (a := "a") (b := "b")
    (fun n hn => by
      by_contra hk
      simp only [not_or] at hk
      exact hn (by simp [World.entries, stoppedA, GoMap.ofList, GoMap.get_set, hk.1, hk.2]))
    (fun i ha hb => by
      have h1 : (stoppedA.world oneStopped).recordedId "a" = some 1 := rfl
      have h2 : (stoppedA.world oneStopped).recordedId "b" = some 2 := rfl
      rw [h1] at ha; rw [h2] at hb; cases ha; cases hb)
    (fun x p _ ⟨_, r, hr, hp⟩ => by
      have hb : (stoppedA.world oneStopped).entries "b" = [runningB, runningB.withStatus none] := rfl
      rw [hb] at hr
      rcases List.mem_pair.1 hr with rfl | rfl <;> exact List.not_mem_nil p hp)
  have hcfg : ∀ n r s i, stoppedA.previousState.get n = some r → r.container.status = some s →
      oneStopped.find r.host s.id = some i → i.config = r.container.config := fun n r s i hr hs hi => by
    rcases GoMap.get_ofList_pair hr with ⟨rfl, rfl⟩ | ⟨rfl, rfl⟩ <;> cases hs <;> cases hi <;> rfl
  have hA : ∀ n d, stoppedA.desiredState.get n = some d → d.container.status = none := fun n d hd => by
    rcases GoMap.get_ofList_pair hd with ⟨rfl, rfl⟩ | ⟨rfl, rfl⟩ <;> rfl
  have hrun : stoppedA.checkThenExecute ⟨["a", "b"], ["a", "b"], ["a", "b"]⟩ oneStopped =
      (.ok (), startedEngine, startedHosts) := Prod.ext (by decide) rfl
  have hnew : (⟨some startedEngine.previousState.export, some stoppedA.desiredState⟩ :
      Containers String String).new (fun _ => .ok ()) = .ok rerunEngine := rfl
  have ho₂ : (⟨["a", "b"], ["a", "b"], ["a", "b"]⟩ : Orders).Covers (rerunEngine.world startedHosts) :=
    Orders.covers_of_perm (by decide) (by decide) (by decide)
  ⟨⟨fun _ => rfl, ho, hap, hcfg, hA, hrun, hnew, ho₂⟩,
    rerun_only_reconfigures (fun _ => .ok ()) (fun _ => rfl) ho hap hcfg hA hrun hnew ho₂,
    by decide, by decide⟩

end Flexkube
