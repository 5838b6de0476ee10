import Flexkube.Container.Containers
import Flexkube.Container.Plan

/-!
# Drift

How `Execute` treats a name whose current entry drifted from its desired one. A name
whose host and runtime config are the desired ones gets the config files it lacks
written once, and is neither removed nor created (`execute_drift_isolation`); a changed
host or runtime config recreates the container exactly once, when no container is
scheduled for removal (`execute_recreates_on_drift`).

Both rest on `filesToUpdate`, which lists each drifted path once and exactly the drifted
paths: those of the desired config files that the current entry lacks or holds with
another content (`filesToUpdate_exact`).

Together they make `Execute` follow the per-container state machine of the design: the
starts, creations and removals it issues for a name are those `stateMachine` calls for on
the name's previous and desired entries (`execute_follows_state_machine`).
-/

namespace Flexkube

open Exec

variable {H C : Type}

/-! ## Drift detection -/

section Files

variable {d c : HostConfiguredContainer H C} {p : String}

/-- `filesToUpdate` against a current entry lists the paths whose desired content the
entry does not hold. -/
theorem mem_filesToUpdate :
    p ∈ filesToUpdate d (some c) ↔
      ∃ x, d.configFiles.get p = some x ∧ c.configFiles.get p ≠ some x := by
  simp only [filesToUpdate, List.mem_filter, GoMap.mem_keys_iff]
  constructor
  · rintro ⟨⟨x, hx⟩, h⟩
    refine ⟨x, hx, fun hc => ?_⟩
    simp [hc, hx] at h
  · rintro ⟨x, hx, hne⟩
    refine ⟨⟨x, hx⟩, ?_⟩
    cases hc : c.configFiles.get p with
    | none => rfl
    | some y =>
      simp only [hx, bne_iff_ne, ne_eq, Option.some.injEq]
      exact fun h => hne (by rw [hc, h])

theorem filesToUpdate_nodup (d : HostConfiguredContainer H C) (c) : (filesToUpdate d c).Nodup := by
  cases c
  exacts [d.configFiles.nodup, d.configFiles.nodup.filter _]

end Files

/-- The config files an operation names: those of a `Configure`. (`CreateAndStart` writes
all the files of the desired entry.) -/
def Event.configuredFiles : Event → List String
  | .configure _ fs => fs
  | _ => []

/-- Operations that create or remove a container. -/
def Event.lifecycle : Event → Bool
  | .createAndStart _ | .removeContainer _ => true
  | _ => false

/-! ## Names that did not drift -/

section Undrifted

variable [DecidableEq H] [DecidableEq C] {n : String} {r d : HostConfiguredContainer H C}

omit [DecidableEq H] [DecidableEq C] in
/-- An existing desired name after pass 2: its files are the desired ones, and it was
configured once. -/
theorem stage2View_exists {l : List Event} {k₂ : Nat} (he : r.container.exists) :
    stage2View n (some r) (some d) l k₂ = (some (r.withFiles d.configFiles), some d,
      l ++ (plan1 n (some r)).2 ++ [.configure n (filesToUpdate d (some r))]) := by
  simp [stage2View, plan2View, plan1_exists he, plan2_exists he]

/-- The operations `Execute` issues for an existing name whose host and runtime config
are the desired ones, whether or not pass 3 reached it: a `Start` if it was stopped, one
`Configure` of the files it lacks, then `Configure`s of no file. -/
theorem undrifted_log {l : List Event} {k₂ : Nat}
    {x : Option (HostConfiguredContainer H C) × Option (HostConfiguredContainer H C) × List Event}
    (he : r.container.exists) (hh : r.host = d.host) (hc : r.container.config = d.container.config)
    (hx : x = stage2View n (some r) (some d) l k₂ ∨ ∃ k₃ m, x = planView n (some r) (some d) l k₂ k₃ m) :
    ∃ m, x.2.2 = l ++ ((plan1 n (some r)).2 ++
      .configure n (filesToUpdate d (some r)) :: List.replicate m (.configure n [])) := by
  rcases hx with rfl | ⟨k₃, m, rfl⟩
  · exact ⟨0, by simp [stage2View_exists he]⟩
  · refine ⟨m + 1, ?_⟩
    simp [planView, stage2View_exists he, plan3View, plan3_noDrift (show (r.withFiles d.configFiles).host = d.host from hh)
      (show (r.withFiles d.configFiles).container.config = d.container.config from hc),
      filesToUpdate_of_configFiles_eq, List.replicate_succ]

/-- **Drift isolation.** With no failing remote operation, an existing name whose host and
runtime config are the desired ones gets written, over the whole run, exactly the desired
config files its current entry lacks or holds with another content, each once, and is
neither removed nor created. Its current entry `r` is the one pass 2 starts from: pass 1
keeps an existing entry. -/
theorem execute_drift_isolation {o : Orders} {c : containers H C} {h : Hosts H C}
    (hcs : c.hasCurrentState) (hf : h.NoFaults) (ho : o.Covers (c.world h))
    (hr : c.previousState.get n = some r) (he : r.container.exists)
    (hd : c.desiredState.get n = some d) (hh : r.host = d.host)
    (hc : r.container.config = d.container.config) :
    ∃ es, (c.execute o h).2.2.log.filter (Event.named n) = h.log.filter (Event.named n) ++ es ∧
      (∀ p, p ∈ es.flatMap Event.configuredFiles ↔
        ∃ x, d.configFiles.get p = some x ∧ r.configFiles.get p ≠ some x) ∧
      (es.flatMap Event.configuredFiles).Nodup ∧
      Event.removeContainer n ∉ es ∧ Event.createAndStart n ∉ es := by
  rw [containers.execute_of_hasCurrentState hcs]
  obtain ⟨k₂, hv⟩ := executePasses_views_abort hf ho n
  obtain ⟨m, hm⟩ := undrifted_log he hh hc (hr ▸ hd ▸ hv)
  have hfiles : ((plan1 n (some r)).2 ++ Event.configure n (filesToUpdate d (some r)) ::
      List.replicate m (Event.configure n [])).flatMap Event.configuredFiles =
        filesToUpdate d (some r) := by
    simp [plan1_exists he, List.flatMap_replicate, Event.configuredFiles]
  refine ⟨_, hm, fun p => by rw [hfiles, mem_filesToUpdate], by rw [hfiles]; exact filesToUpdate_nodup d _, ?_⟩
  simp only [plan1_exists he]
  split <;> simp [List.mem_replicate]

/-- A run on the engine `staleFile`: the container of `"a"` runs on `"h1"` with an old
`/etc/a.conf`, and is desired with a new one. -/
def oldConf : HostConfiguredContainer String String :=
  ⟨"h1", ⟨"cfg", some ⟨1, true⟩⟩, GoMap.ofList [("/etc/a.conf", "old")]⟩

/-- The desired entry of `"a"` in `staleFile`. -/
def newConf : HostConfiguredContainer String String :=
  ⟨"h1", ⟨"cfg", none⟩, GoMap.ofList [("/etc/a.conf", "new")]⟩

/-- Hosts running the containers `1` of `"a"` and `2` of `"b"`, both on the host `"h1"`. -/
def twoRunning : Hosts String String where
  instances i := if i = 1 then some ⟨"a", "h1", "cfg", true⟩
    else if i = 2 then some ⟨"b", "h1", "cfg", true⟩ else none
  nextId := 3
  fresh i hi := by simp only [if_neg (show i ≠ 1 by omega), if_neg (show i ≠ 2 by omega)]
  files _ _ := none
  log := []
  fails _ := none

/-- The engine with a current state, holding `oldConf` for `"a"` and desiring `newConf`. -/
def staleFile : containers String String :=
  ⟨GoMap.ofList [("a", oldConf)], true, GoMap.ofList [("a", newConf)]⟩

/-- The entry of `"b"`: its running container `2` on `"h1"`, with no config file. -/
def runningB : HostConfiguredContainer String String :=
  ⟨"h1", ⟨"cfg", some ⟨2, true⟩⟩, GoMap.empty⟩

/-- The engine `staleFile` with a second name: `"b"` runs as it is desired. -/
def staleFiles : containers String String :=
  ⟨GoMap.ofList [("a", oldConf), ("b", runningB)], true,
    GoMap.ofList [("a", newConf), ("b", runningB.withStatus none)]⟩

theorem drift_isolation_one_file :
    (staleFile.hasCurrentState ∧ twoRunning.NoFaults ∧
      (⟨["a"], ["a"], ["a"]⟩ : Orders).Covers (staleFile.world twoRunning) ∧
      staleFile.previousState.get "a" = some oldConf ∧ oldConf.container.exists ∧
      staleFile.desiredState.get "a" = some newConf ∧ oldConf.host = newConf.host ∧
      oldConf.container.config = newConf.container.config) ∧
    ∃ es, (staleFile.execute ⟨["a"], ["a"], ["a"]⟩ twoRunning).2.2.log.filter (Event.named "a") =
        twoRunning.log.filter (Event.named "a") ++ es ∧
      (∀ p, p ∈ es.flatMap Event.configuredFiles ↔
        ∃ x, newConf.configFiles.get p = some x ∧ oldConf.configFiles.get p ≠ some x) ∧
      (es.flatMap Event.configuredFiles).Nodup ∧
      Event.removeContainer "a" ∉ es ∧ Event.createAndStart "a" ∉ es :=
  ⟨⟨rfl, fun _ => rfl, Orders.covers_of_perm (by decide) (by decide) (by decide), rfl, rfl, rfl, rfl, rfl⟩,
    execute_drift_isolation rfl (fun _ => rfl) (Orders.covers_of_perm (by decide) (by decide) (by decide)) rfl rfl
      rfl rfl rfl⟩

end Undrifted

/-! ## Names that drifted -/

section Drifted

variable [DecidableEq H] [DecidableEq C] {n : String} {r d : HostConfiguredContainer H C}

/-- The first visit of pass 3 to a drifted name recreates it once and leaves current and
desired entries equal. -/
theorem plan3_drift (n : String) (c d : HostConfiguredContainer H C) (k : Nat)
    (h : c.host ≠ d.host ∨ c.container.config ≠ d.container.config) :
    (plan3 n c d k).1 = d.started k ∧ (plan3 n c d k).2.1 = d.started k ∧
      (plan3 n c d k).2.2.filter Event.lifecycle = [.removeContainer n, .createAndStart n] := by
  by_cases h1 : c.host = d.host
  · rw [plan3_configDrift h1 (h.resolve_left (not_not.2 h1))]; simp [Event.lifecycle]
  · rw [plan3_hostDrift h1]; simp [Event.lifecycle]

/-- **Drift recreates once.** With no failing remote operation and no container scheduled
for removal, an existing desired name whose host or runtime config changed is removed
once and then created once, and its current entry ends equal to its desired one. -/
theorem execute_recreates_on_drift {o : Orders} {c : containers H C} {h : Hosts H C}
    (hcs : c.hasCurrentState) (hf : h.NoFaults) (ho : o.Covers (c.world h))
    (hrm : NoRemovals (c.world h)) (hr : c.previousState.get n = some r)
    (he : r.container.exists) (hd : c.desiredState.get n = some d)
    (hdrift : r.host ≠ d.host ∨ r.container.config ≠ d.container.config) :
    (c.execute o h).1 = .ok () ∧
      (∃ es, (c.execute o h).2.2.log.filter (Event.named n) = h.log.filter (Event.named n) ++ es ∧
        es.filter Event.lifecycle = [.removeContainer n, .createAndStart n]) ∧
      (c.execute o h).2.1.previousState.get n = (c.execute o h).2.1.desiredState.get n := by
  rw [containers.execute_of_hasCurrentState hcs]
  obtain ⟨w', hrun, -, hv⟩ := executePasses_views hf ho hrm
  obtain ⟨k₂, k₃, m, hn⟩ := hv n
  obtain ⟨h1, h2, h3⟩ := plan3_drift n (r.withFiles d.configFiles) d k₃ hdrift
  rw [show (c.world h).currentState.get n = some r from hr,
    show (c.world h).desiredState.get n = some d from hd] at hn
  simp only [planView, stage2View_exists he, plan3View, World.view, Prod.mk.injEq] at hn
  rw [containers.run_eq hrun]
  refine ⟨rfl, ⟨(plan1 n (some r)).2 ++ [.configure n (filesToUpdate d (some r))] ++
    (plan3 n (r.withFiles d.configFiles) d k₃).2.2 ++ List.replicate m (.configure n []),
      by simpa only [List.append_assoc] using hn.2.2, ?_⟩, by rw [hn.1, hn.2.1, h1, h2]⟩
  simp [h3, plan1_exists he, Event.lifecycle, List.filter_replicate]

end Drifted

/-! ## The per-container state machine -/

section StateMachine

variable [DecidableEq H] [DecidableEq C] {n : String}

/-- The operations on a container: `Start`, `CreateAndStart` and `RemoveContainer`. -/
def Event.containerOp : Event → Bool
  | .start _ | .createAndStart _ | .removeContainer _ => true
  | _ => false

/-- The per-container state machine of the design (§4.4), from a name's previous entry `r`
and desired entry `d`: the container operations it calls for. An undesired existing
container is removed (S1), a desired name without an existing container is created (S2), a
stopped container is started (S3), and a changed host or runtime config recreates it (S4,
S5), after the start if it was stopped; drifted config files (S6) and no drift (S7) call
for none. (`Execute` never reaches S1: it fails on such a name in pass 3, see
Removal.lean.) Modelled from the spec (§4.4). -/
def stateMachine (n : String) (r d : Option (HostConfiguredContainer H C)) : List Event :=
  match d, r.filter (·.container.exists) with
  | none, none => []
  | none, some _ => [.removeContainer n]
  | some _, none => [.createAndStart n]
  | some d, some r =>
    (if r.container.isRunning then [] else [.start n]) ++
      if r.host = d.host ∧ r.container.config = d.container.config then []
      else [.removeContainer n, .createAndStart n]

omit [DecidableEq H] [DecidableEq C] in
theorem filter_plan1 (r : Option (HostConfiguredContainer H C)) :
    (plan1 n r).2.filter Event.containerOp =
      match r.filter (·.container.exists) with
      | none => []
      | some r => if r.container.isRunning then [] else [.start n] := by
  rcases r with _ | r
  · rfl
  · by_cases he : r.container.exists <;> by_cases hr : r.container.isRunning <;>
      simp [plan1, he, hr, Option.filter, Event.containerOp]

omit [DecidableEq H] [DecidableEq C] in
theorem plan1_of_filter {r : Option (HostConfiguredContainer H C)}
    (h : r.filter (·.container.exists) = none) : plan1 n r = (none, []) := by
  rcases r with _ | r
  · rfl
  · simp only [Option.filter, ite_eq_right_iff, reduceCtorEq, imp_false, Bool.not_eq_true] at h
    simp [plan1, h]

theorem filter_plan3 (c d : HostConfiguredContainer H C) (k : Nat) :
    (plan3 n c d k).2.2.filter Event.containerOp =
      if c.host = d.host ∧ c.container.config = d.container.config then []
      else [.removeContainer n, .createAndStart n] := by
  by_cases h1 : c.host = d.host
  · by_cases h2 : c.container.config = d.container.config
    · simp [plan3_noDrift h1 h2, h1, h2, Event.containerOp]
    · simp [plan3_configDrift h1 h2, h1, h2, Event.containerOp]
  · simp [plan3_hostDrift h1, h1, Event.containerOp]

/-- **The per-name plan follows the state machine.** The container operations the plan of
`Execute` adds for a name are those of the state machine, for a name that is not an
existing container scheduled for removal and whose desired entry, if any, records no
existing container. -/
theorem planView_stateMachine {r d : Option (HostConfiguredContainer H C)} {l : List Event}
    (k₂ k₃ m : Nat) (hrm : ∀ r', r = some r' → r'.container.exists → d.isSome)
    (hA : ∀ d', d = some d' → d'.container.exists = false) :
    (planView n r d l k₂ k₃ m).2.2.filter Event.containerOp =
      l.filter Event.containerOp ++ stateMachine n r d := by
  rcases d with _ | d
  · -- not desired: only pass 1 acts, on a container that is gone
    have hlog : (planView n r none l k₂ k₃ m).2.2 = l ++ (plan1 n r).2 := by
      unfold planView stage2View; cases (plan1 n r).1 <;> rfl
    rw [hlog, List.filter_append, filter_plan1]
    cases hf : r.filter (·.container.exists) with
    | none => simp [stateMachine, hf]
    | some r' =>
      obtain ⟨rfl, he⟩ := Option.filter_eq_some.1 hf
      simpa using hrm r' rfl he
  cases hf : r.filter (·.container.exists) with
  | none =>
    -- nothing exists: pass 2 creates, pass 3 finds no drift
    simp [planView, stage2View, plan1_of_filter hf, plan2View, plan2, hA d rfl, plan3View, plan3,
      configuredEntry, HostConfiguredContainer.started, stateMachine, hf, Event.containerOp,
      List.filter_replicate]
  | some r' =>
    -- an existing container: started if stopped, recreated if it drifted
    obtain ⟨rfl, he⟩ := Option.filter_eq_some.1 hf
    simp [planView, stage2View_exists he, plan3View, filter_plan1, filter_plan3, hf, stateMachine,
      Event.containerOp, List.filter_replicate]

/-- **Execute follows the state machine.** With no failing remote operation, no container
scheduled for removal and no desired entry recording an existing container, a successful
`Execute` issues, for every name, exactly the container operations of the state machine
on its previous and desired entries: the only other operations it adds for the name are
configurations. -/
theorem execute_follows_state_machine {o : Orders} {c : containers H C} {h : Hosts H C}
    (hcs : c.hasCurrentState) (hf : h.NoFaults) (ho : o.Covers (c.world h))
    (hrm : NoRemovals (c.world h))
    (hA : ∀ n d, c.desiredState.get n = some d → d.container.exists = false) (n : String) :
    (c.execute o h).1 = .ok () ∧
      ((c.execute o h).2.2.log.filter (Event.named n)).filter Event.containerOp =
        (h.log.filter (Event.named n)).filter Event.containerOp ++
          stateMachine n (c.previousState.get n) (c.desiredState.get n) := by
  rw [containers.execute_of_hasCurrentState hcs]
  obtain ⟨w', hrun, -, hv⟩ := executePasses_views hf ho hrm
  obtain ⟨k₂, k₃, m, hn⟩ := hv n
  rw [containers.run_eq hrun]
  refine ⟨rfl, ?_⟩
  have hlog : w'.hosts.log.filter (Event.named n) = (planView n (c.previousState.get n)
      (c.desiredState.get n) (h.log.filter (Event.named n)) k₂ k₃ m).2.2 := congrArg (·.2.2) hn
  rw [hlog]
  exact planView_stateMachine k₂ k₃ m (hrm n) (hA n)

theorem stale_file_follows_state_machine :
    (staleFiles.hasCurrentState ∧ twoRunning.NoFaults ∧
      (⟨["a", "b"], ["a", "b"], ["a", "b"]⟩ : Orders).Covers (staleFiles.world twoRunning) ∧
      NoRemovals (staleFiles.world twoRunning) ∧
      ∀ n d, staleFiles.desiredState.get n = some d → d.container.exists = false) ∧
    (staleFiles.execute ⟨["a", "b"], ["a", "b"], ["a", "b"]⟩ twoRunning).1 = .ok () ∧
      ((staleFiles.execute ⟨["a", "b"], ["a", "b"], ["a", "b"]⟩ twoRunning).2.2.log.filter
          (Event.named "a")).filter Event.containerOp =
        (twoRunning.log.filter (Event.named "a")).filter Event.containerOp ++
          stateMachine "a" (staleFiles.previousState.get "a") (staleFiles.desiredState.get "a") :=
  have ho : (⟨["a", "b"], ["a", "b"], ["a", "b"]⟩ : Orders).Covers (staleFiles.world twoRunning) :=
    Orders.covers_of_perm (by decide) (by decide) (by decide)
  have hrm : NoRemovals (staleFiles.world twoRunning) := fun n r hr _ => by
    rcases GoMap.get_ofList_pair hr with ⟨rfl, -⟩ | ⟨rfl, -⟩ <;> rfl
  have hA : ∀ n d, staleFiles.desiredState.get n = some d → d.container.exists = false :=
    fun n d hd => by rcases GoMap.get_ofList_pair hd with ⟨rfl, rfl⟩ | ⟨rfl, rfl⟩ <;> rfl
  ⟨⟨rfl, fun _ => rfl, ho, hrm, hA⟩, execute_follows_state_machine rfl (fun _ => rfl) ho hrm hA "a"⟩

end StateMachine

/-! ## Exact drift detection -/

section Exact

variable [DecidableEq H]

/-- **Exact drift detection.** `filesToUpdate d c` lists each path once, and exactly the
paths of `d`'s config files for which `c` is absent, lacks the path, or holds it with
another content; so a desired name for which `ensureConfigured` returns `nil` is current
afterwards, with no file left to update. -/
theorem filesToUpdate_exact :
    (∀ (d : HostConfiguredContainer H C) c, (filesToUpdate d c).Nodup ∧ ∀ p,
      p ∈ filesToUpdate d c ↔ p ∈ d.configFiles.keys ∧ (c = none ∨ ∃ r, c = some r ∧
        (p ∉ r.configFiles.keys ∨ r.configFiles.get p ≠ d.configFiles.get p))) ∧
    ∀ (w : World H C) n, (w.desiredState.get n).isSome → (ensureConfigured n w).1 = .ok () →
      ∃ r d, (ensureConfigured n w).2.currentState.get n = some r ∧
        (ensureConfigured n w).2.desiredState.get n = some d ∧ filesToUpdate d (some r) = [] := by
  refine ⟨fun d c => ⟨filesToUpdate_nodup d c, fun p => ?_⟩, fun w n hn hok => ?_⟩
  · cases c with
    | none => simp [filesToUpdate]
    | some r =>
      simp only [mem_filesToUpdate, reduceCtorEq, Option.some.injEq, exists_eq_left', false_or]
      constructor
      · rintro ⟨x, hx, hne⟩
        exact ⟨d.configFiles.mem_keys_of_get hx, .inr (by rwa [hx])⟩
      · rintro ⟨hk, hr⟩
        obtain ⟨x, hx⟩ := d.configFiles.get_of_mem_keys hk
        refine ⟨x, hx, ?_⟩
        rcases hr with hr | hr
        · exact fun hc => hr (r.configFiles.mem_keys_of_get hc)
        · rwa [hx] at hr
  · obtain ⟨d, hd⟩ := Option.isSome_iff_exists.1 hn
    rw [ensureConfigured_of_ok hd hok]
    exact ⟨_, d, World.configured_get_self w n d, by simpa [World.configured] using hd,
      filesToUpdate_of_configFiles_eq (configuredEntry_configFiles d _)⟩

theorem stale_file_configured :
    ((staleFile.world twoRunning).desiredState.get "a").isSome ∧
      (ensureConfigured "a" (staleFile.world twoRunning)).1 = .ok () ∧
      ∃ r d, (ensureConfigured "a" (staleFile.world twoRunning)).2.currentState.get "a" = some r ∧
        (ensureConfigured "a" (staleFile.world twoRunning)).2.desiredState.get "a" = some d ∧
        filesToUpdate d (some r) = [] :=
  have hok : (ensureConfigured "a" (staleFile.world twoRunning)).1 = .ok () := by decide
  ⟨rfl, hok, filesToUpdate_exact.2 _ "a" rfl hok⟩

end Exact

end Flexkube
