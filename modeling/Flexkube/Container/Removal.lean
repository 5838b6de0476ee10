import Flexkube.Container.Drift

/-!
# Removal

Pass 3 of `Execute` ends with "remove the entry if its name is not desired", but it calls
`ensureHost` first, and the `isUpdatable` check behind it fails for exactly those names.
So a name that is current after pass 1 and not desired stops `Execute` with an error
before `RemoveContainer` is reached; its container is never removed
(`execute_keeps_undesired`). The names pass 3 would have visited after it, drifted ones
included, are left as pass 2 left them.

With no failing remote operation this is the only way `Execute` fails: it returns `nil`
exactly when no existing container is undesired, and otherwise fails with the message of
pass 3 for such a name (`execute_ok_iff_nothing_to_remove`). So `Execute` never removes a
container.
-/

namespace Flexkube

open Exec

variable {H C : Type} [DecidableEq H] [DecidableEq C] {n : String} {r : HostConfiguredContainer H C}

/-- **Undesired containers are never removed.** With no failing remote operation, an
existing name that is not desired makes `Execute` fail; the name keeps its entry, and
the only operation issued for it is a `Start` if it was stopped. -/
theorem execute_keeps_undesired {o : Orders} {c : containers H C} {h : Hosts H C}
    (hcs : c.hasCurrentState) (hf : h.NoFaults) (ho : o.Covers (c.world h))
    (hr : c.previousState.get n = some r) (he : r.container.exists)
    (hd : c.desiredState.get n = none) :
    (∃ e, (c.execute o h).1 = .error e) ∧ (c.execute o h).2.1.previousState.get n = some r ∧
      ∃ es, (c.execute o h).2.2.log.filter (Event.named n) = h.log.filter (Event.named n) ++ es ∧
        ∀ e ∈ es, e = .start n := by
  rw [containers.execute_of_hasCurrentState hcs]
  obtain ⟨k₂, hv⟩ := executePasses_views_abort hf ho n
  simp only [containers.world_currentState, containers.world_desiredState,
    containers.world_hosts, hr, hd] at hv
  have hview : World.view n (executePasses o (c.world h)).2 =
      (some r, none, h.log.filter (Event.named n) ++ (plan1 n (some r)).2) := by
    rcases hv with hv | ⟨k₃, m, hv⟩ <;> rw [hv] <;> simp [planView, stage2View, plan1_exists he]
  simp only [World.view, Prod.mk.injEq] at hview
  refine ⟨executePasses_error_of_removal hf ho hr he hd, hview.1, _, hview.2.2, ?_⟩
  simp only [plan1_exists he]
  split <;> simp

/-! ## What a fault-free `Execute` returns -/

section Errors

variable {w w₁ : World H C} {e : String}

/-- A visit of pass 3 with no failing remote operation fails only for a name current and
not desired at the start of the pass, with the message of `isUpdatable` for removals. -/
theorem pass3Step_error (hf : w₁.hosts.NoFaults)
    (hpre : World.view n w₁ = World.view n w ∨ Pass3Post w n (World.view n w₁))
    (hv : w₁.currentState.get n = some r) (he : (pass3Step n w₁).1 = .error e) :
    (w.currentState.get n).isSome ∧ w.desiredState.get n = none ∧
      e = "failed updating host configuration of container " ++ n ++ ": " ++
        ("failed to check host diff: " ++ ("can't diff container: " ++
          ("can't update container '" ++ n ++ "', which is scheduler for removal"))) := by
  obtain ⟨hc, hd⟩ := ((pass3Step_post hf hpre hv).2.resolve_left fun h => by rw [he] at h; cases h)
  have hview : World.view n w₁ = World.view n w := hpre.elim id fun h => h.2 (.inr (by simp [hd]))
  simp only [World.view, Prod.mk.injEq] at hview
  rw [pass3Step_removed hv (hview.2.1.trans hd)] at he
  exact ⟨hc, hd, (Except.error.inj he).symm⟩

/-- Pass 3 with no failing remote operation fails only for a name current and not desired
at its start. -/
theorem pass3_error (hf : w.hosts.NoFaults) (ks : List String)
    (he : (rangeMap (·.currentState) (fun i _ => pass3Step i) ks w).1 = .error e) :
    ∃ n, (w.currentState.get n).isSome ∧ w.desiredState.get n = none ∧
      e = "failed updating host configuration of container " ++ n ++ ": " ++
        ("failed to check host diff: " ++ ("can't diff container: " ++
          ("can't update container '" ++ n ++ "', which is scheduler for removal"))) := by
  let J : World H C → Prop := fun w₁ =>
    w₁.hosts.NoFaults ∧ ∀ n, World.view n w₁ = World.view n w ∨ Pass3Post w n (World.view n w₁)
  have hb : ∀ k v w₁, J w₁ → w₁.currentState.get k = some v → J (pass3Step k w₁).2 :=
    fun k v w₁ hJ hk => ⟨(pass3Step_framed w₁).noFaults hJ.1, fun n => by
      by_cases hn : n = k
      · subst hn; exact .inr (pass3Step_post hJ.1 (hJ.2 n) hk).1
      · rw [(pass3Step_framed w₁).view hn]; exact hJ.2 n⟩
  obtain ⟨k, v, w₁, hJ, hk, hek⟩ := rangeMap_error hb ks w e ⟨hf, fun _ => .inl rfl⟩ he
  exact ⟨k, pass3Step_error hJ.1 (hJ.2 k) hk hek⟩

/-- **A fault-free `Execute` fails exactly when it has something to remove.** With no
failing remote operation, in every order Go may take, `Execute` returns `nil` exactly when
every current entry whose container exists is desired; otherwise it fails, for a name with
an existing container that is not desired, with the message of pass 3 that this container
cannot be updated, being scheduled for removal. -/
theorem execute_ok_iff_nothing_to_remove {o : Orders} {c : containers H C} {h : Hosts H C}
    (hcs : c.hasCurrentState) (hf : h.NoFaults) (ho : o.Covers (c.world h)) :
    ((c.execute o h).1 = .ok () ↔ ∀ n r, c.previousState.get n = some r → r.container.exists →
      (c.desiredState.get n).isSome) ∧
    ∀ e, (c.execute o h).1 = .error e → ∃ n r, c.previousState.get n = some r ∧
      r.container.exists ∧ c.desiredState.get n = none ∧
      e = "failed updating host configuration of container " ++ n ++ ": " ++
        ("failed to check host diff: " ++ ("can't diff container: " ++
          ("can't update container '" ++ n ++ "', which is scheduler for removal"))) := by
  rw [containers.execute_of_hasCurrentState hcs, containers.run_fst]
  refine ⟨⟨fun hok n r hr he => ?_, fun hrm => ?_⟩, fun e he => ?_⟩
  · -- a removal makes the passes fail
    by_contra hd
    obtain ⟨e, he'⟩ := executePasses_error_of_removal hf ho hr he (Option.not_isSome_iff_eq_none.1 hd)
    cases hok.symm.trans he'
  · obtain ⟨w', hw', -⟩ := executePasses_views hf ho hrm
    rw [hw']
  · -- the error is that of pass 3 for a name current and not desired after pass 2
    obtain ⟨w₂, h₂, hf₂, hv₂⟩ := passes12_views hf ho
    rw [h₂] at he
    obtain ⟨n, hc, hd, rfl⟩ := pass3_error hf₂ _ he
    obtain ⟨k₂, hk⟩ := hv₂ n
    cases hdn : c.desiredState.get n with
    | some d =>
      simp only [World.view, containers.world_desiredState, hdn, stage2View, plan2View,
        Prod.mk.injEq] at hk
      simp [hk.2.1] at hd
    | none =>
      simp only [World.view, containers.world_desiredState, hdn, stage2View, Prod.mk.injEq] at hk
      obtain ⟨r, hr, hre⟩ := plan1_isSome (hk.1 ▸ hc)
      exact ⟨n, r, hr, hre, hdn, rfl⟩

theorem stale_file_nothing_to_remove :
    (staleFiles.hasCurrentState ∧ twoRunning.NoFaults ∧
      (⟨["a", "b"], ["a", "b"], ["a", "b"]⟩ : Orders).Covers (staleFiles.world twoRunning)) ∧
    ((staleFiles.execute ⟨["a", "b"], ["a", "b"], ["a", "b"]⟩ twoRunning).1 = .ok () ↔
      ∀ n r, staleFiles.previousState.get n = some r → r.container.exists →
        (staleFiles.desiredState.get n).isSome) ∧
    ∀ e, (staleFiles.execute ⟨["a", "b"], ["a", "b"], ["a", "b"]⟩ twoRunning).1 = .error e → ∃ n r,
      staleFiles.previousState.get n = some r ∧ r.container.exists ∧
      staleFiles.desiredState.get n = none ∧
      e = "failed updating host configuration of container " ++ n ++ ": " ++
        ("failed to check host diff: " ++ ("can't diff container: " ++
          ("can't update container '" ++ n ++ "', which is scheduler for removal"))) :=
  have ho : (⟨["a", "b"], ["a", "b"], ["a", "b"]⟩ : Orders).Covers (staleFiles.world twoRunning) :=
    Orders.covers_of_perm (by decide) (by decide) (by decide)
  ⟨⟨rfl, fun _ => rfl, ho⟩, execute_ok_iff_nothing_to_remove rfl (fun _ => rfl) ho⟩

end Errors

/-- The engine before `CheckCurrentState`: the containers `1` of `"a"` and `2` of `"b"`
run on `"h1"`, and only `"a"` is desired, on the host `host`. -/
def onlyA (host : String) : containers String String :=
  ⟨GoMap.ofList [("a", ⟨"h1", ⟨"cfg", some ⟨1, true⟩⟩, GoMap.empty⟩),
    ("b", ⟨"h1", ⟨"cfg", some ⟨2, true⟩⟩, GoMap.empty⟩)], false,
   GoMap.ofList [("a", ⟨host, ⟨"cfg", none⟩, GoMap.empty⟩)]⟩

set_option maxRecDepth 8000 in
/-- `CheckCurrentState` then `Execute` on `onlyA "h1"`: `Execute` fails on `"b"`, whose
entry stays and which is never removed. -/
theorem removal_stops_execute :
    ((onlyA "h1").checkThenExecute ⟨["a", "b"], ["a"], ["a", "b"]⟩ twoRunning).1 =
      .error ("failed updating host configuration of container b: failed to check host " ++
        "diff: can't diff container: can't update container 'b', which is scheduler for removal") ∧
    (((onlyA "h1").checkThenExecute ⟨["a", "b"], ["a"], ["a", "b"]⟩ twoRunning).2.1.previousState.get
      "b").isSome ∧
    Event.removeContainer "b" ∉
      ((onlyA "h1").checkThenExecute ⟨["a", "b"], ["a"], ["a", "b"]⟩ twoRunning).2.2.log := by
  decide

set_option maxRecDepth 8000 in
/-- `CheckCurrentState` then `Execute` on `onlyA "h2"`, pass 3 visiting `"b"` first: `"a"`
changed host but is neither removed nor created, and stays on `"h1"`. -/
theorem drift_left_behind :
    ((onlyA "h2").checkThenExecute ⟨["a", "b"], ["a"], ["b", "a"]⟩ twoRunning).1 =
      .error ("failed updating host configuration of container b: failed to check host " ++
        "diff: can't diff container: can't update container 'b', which is scheduler for removal") ∧
    (((onlyA "h2").checkThenExecute ⟨["a", "b"], ["a"], ["b", "a"]⟩ twoRunning).2.1.previousState.get
      "a").map (·.host) = some "h1" ∧
    (((onlyA "h2").checkThenExecute ⟨["a", "b"], ["a"], ["b", "a"]⟩ twoRunning).2.1.desiredState.get
      "a").map (·.host) = some "h2" ∧
    ((onlyA "h2").checkThenExecute ⟨["a", "b"], ["a"], ["b", "a"]⟩ twoRunning).2.2.log.filter
      (Event.named "a") = [.configure "a" []] := by
  decide

end Flexkube
