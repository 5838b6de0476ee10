import Flexkube.Container.Faults
import Flexkube.Container.Loops

/-!
# Failed Runs Stop at Their First Failure

A `Deploy` on hosts where remote operations fail issues the operations the same `Deploy`
issues on hosts that never fail, up to and including the first that fails, and nothing
after it (`Containers.deploy_stops_at_first_failure`). The reconciler neither retries a
failed operation, nor undoes those before it, nor goes past it: every path of
`CheckCurrentState` and `Execute` returns the error of a failed operation at once. With
`Containers.deploy_ok_without_faults`, the run under failures is the fault-free run cut at
its first failed operation.

`Stops x` says this of every run of the engine function `x`, in five parts: a run only
appends to the log and keeps the failure pattern (`grows`); every operation it logged
succeeded, except possibly the last (`halts`), and the last too when it returns a value
(`succeeds`); a run in which no operation failed is the fault-free run (`faithful`); and a
run that fails logged a prefix of what the fault-free run logs (`aborts`). It is derived
once per combinator, and from these once per engine function, as the functions are built.
-/

namespace Flexkube

open Exec

variable {H C : Type}

/-! ## Logs -/

/-- The operations logged in `w` are the first ones logged in `w'`. -/
def World.LogPrefix (w w' : World H C) : Prop := w.hosts.log <+: w'.hosts.log

theorem World.LogPrefix.refl (w : World H C) : w.LogPrefix w := List.prefix_refl _

theorem World.LogPrefix.trans {w₁ w₂ w₃ : World H C} (h₁ : w₁.LogPrefix w₂) (h₂ : w₂.LogPrefix w₃) :
    w₁.LogPrefix w₃ :=
  List.IsPrefix.trans h₁ h₂

/-- `w'` continues `w`: it only appended to the log, under the same failure pattern. -/
structure World.Extends (w w' : World H C) : Prop where
  log : w.LogPrefix w'
  fails : w'.hosts.fails = w.hosts.fails

theorem World.Extends.refl (w : World H C) : w.Extends w := ⟨.refl w, rfl⟩

theorem World.Extends.trans {w₁ w₂ w₃ : World H C} (h₁ : w₁.Extends w₂) (h₂ : w₂.Extends w₃) :
    w₁.Extends w₃ :=
  ⟨h₁.log.trans h₂.log, h₂.fails.trans h₁.fails⟩

theorem World.Extends.of_hosts {w w' : World H C} (h : w'.hosts = w.hosts) : w.Extends w' :=
  ⟨by simp only [World.LogPrefix, h, List.prefix_refl], by rw [h]⟩

/-- Every remote operation logged from `w` on up to `w'` succeeded, the last `k` aside. -/
def World.Succeeded (k : Nat) (w w' : World H C) : Prop :=
  ∀ i, w.hosts.log.length ≤ i → i + k < w'.hosts.log.length → w.hosts.fails i = none

namespace World.Succeeded

variable {k : Nat} {w₁ w₂ w₃ : World H C}

/-- A run that logged at most `k` operations. -/
theorem of_length (h : w₂.hosts.log.length ≤ w₁.hosts.log.length + k) : w₁.Succeeded k w₂ :=
  fun _ hi hk => absurd hk (by omega)

theorem weaken (h : w₁.Succeeded 0 w₂) : w₁.Succeeded k w₂ := fun i hi hk => h i hi (by omega)

/-- The operations of two runs one after the other. -/
theorem trans (h₁ : w₁.Succeeded 0 w₂) (hx : w₁.Extends w₂) (h₂ : w₂.Succeeded k w₃) :
    w₁.Succeeded k w₃ := fun i hi hk => by
  by_cases hi₂ : i < w₂.hosts.log.length
  · exact h₁ i hi (by omega)
  · rw [← hx.fails]; exact h₂ i (by omega) hk

/-- The operations of the first of two runs. -/
theorem left (h : w₁.Succeeded 0 w₃) (h₂₃ : w₂.LogPrefix w₃) : w₁.Succeeded 0 w₂ :=
  fun i hi hk => h i hi (by have := h₂₃.length_le; omega)

/-- The operations of the second of two runs. -/
theorem right (h : w₁.Succeeded 0 w₃) (h₁₂ : w₁.Extends w₂) : w₂.Succeeded 0 w₃ :=
  fun i hi hk => by rw [h₁₂.fails]; exact h i (by have := h₁₂.log.length_le; omega) hk

end World.Succeeded

/-! ## Runs that stop at their first failure -/

/-- Every run of `x` only appends to the log; every operation it logged succeeded, except
possibly the last, and the last too when it returns a value; a run in which no operation
failed is the run of `x` from the same world on hosts that never fail; and a run that fails
logged a prefix of what that run logs. -/
structure Stops {α : Type} (x : Exec (World H C) α) : Prop where
  grows : Stable World.Extends x
  halts : Stable (World.Succeeded 1) x
  succeeds : ∀ w a w', x w = (.ok a, w') → w.Succeeded 0 w'
  faithful : ∀ w, w.Succeeded 0 (x w).2 → x w.clearFaults = ((x w).1, (x w).2.clearFaults)
  aborts : Aborts World.clearFaults World.LogPrefix x

namespace Stops

variable {α β : Type} {x : Exec (World H C) α}

/-- A run that returns a value is the fault-free run. -/
theorem transports (hx : Stops x) : Transports World.clearFaults x := fun w a w' h => by
  rw [hx.faithful w (by rw [h]; exact hx.succeeds w a w' h), h]

theorem pure (a : α) : Stops (Pure.pure a : Exec (World H C) α) where
  grows := Stable.pure World.Extends.refl a
  halts := fun w => .of_length (Nat.le_add_right _ _)
  succeeds := fun w _ _ h => by cases h; exact .of_length le_rfl
  faithful := fun _ _ => rfl
  aborts := Aborts.pure a

theorem fail (e : String) : Stops (Exec.fail e : Exec (World H C) α) where
  grows := Stable.fail World.Extends.refl e
  halts := fun w => .of_length (Nat.le_add_right _ _)
  succeeds := fun _ _ _ h => by cases h
  faithful := fun _ _ => rfl
  aborts := Aborts.fail (fun w => World.LogPrefix.refl w) e

theorem modify {f : World H C → World H C} (hf : ∀ w, (f w).hosts = w.hosts)
    (hc : ∀ w, f w.clearFaults = (f w).clearFaults) : Stops (Exec.modify f) where
  grows := fun w => .of_hosts (hf w)
  halts := fun w => .of_length (by rw [modify_apply, hf]; exact Nat.le_add_right _ _)
  succeeds := fun w _ _ h => by cases h; exact .of_length (by rw [hf]; rfl)
  faithful := fun w _ => by rw [modify_apply, modify_apply, hc]
  aborts := Aborts.modify f

theorem bind {f : α → Exec (World H C) β} (hx : Stops x) (hf : ∀ a, Stops (f a)) :
    Stops (x >>= f) where
  grows := Stable.bind (R := World.Extends) (fun _ _ _ => World.Extends.trans) hx.grows fun a => (hf a).grows
  halts := fun w => by
    rw [bind_apply]
    rcases hxw : x w with ⟨_ | a, w₁⟩
    · simpa [hxw] using hx.halts w
    · exact (hx.succeeds w a w₁ hxw).trans (hx.grows.frame hxw) ((hf a).halts w₁)
  succeeds := fun w b w₂ h => by
    rw [bind_apply] at h
    rcases hxw : x w with ⟨_ | a, w₁⟩ <;> rw [hxw] at h
    · cases h
    · exact (hx.succeeds w a w₁ hxw).trans (hx.grows.frame hxw) ((hf a).succeeds w₁ b w₂ h)
  faithful := fun w hs => by
    simp only [bind_apply] at hs ⊢
    rcases hxw : x w with ⟨_ | a, w₁⟩ <;> rw [hxw] at hs
    · rw [hx.faithful w (by rw [hxw]; exact hs), hxw]
    · have h₁ : w.Succeeded 0 w₁ := hs.left ((hf a).grows w₁).log
      rw [hx.faithful w (by rw [hxw]; exact h₁), hxw]
      exact (hf a).faithful w₁ (hs.right (hx.grows.frame hxw))
  aborts := Aborts.bind (L := World.LogPrefix) (fun _ _ _ => World.LogPrefix.trans) hx.aborts hx.transports
    (fun a => (hf a).aborts) fun a w => ((hf a).grows w).log

theorem get_bind {g : World H C → Exec (World H C) β} (hg : ∀ w, g w.clearFaults = g w)
    (hf : ∀ w, Stops (g w)) : Stops (Exec.get >>= g) where
  grows := fun w => (hf w).grows w
  halts := fun w => (hf w).halts w
  succeeds := fun w => (hf w).succeeds w
  faithful := fun w hs => by
    show g w.clearFaults w.clearFaults = _
    rw [hg]; exact (hf w).faithful w hs
  aborts := Aborts.get_bind hg fun w => (hf w).aborts

/-- A function that reads the state first, written as a function of what it read. -/
theorem of_read {g : World H C → Exec (World H C) α} (hx : ∀ w, x w = g w w)
    (hg : ∀ w, g w.clearFaults = g w) (hf : ∀ w, Stops (g w)) : Stops x := by
  rw [show x = Exec.get >>= g from funext hx]
  exact get_bind hg hf

theorem wrap (msg : String) (hx : Stops x) : Stops (Exec.wrap msg x) where
  grows := Stable.wrap msg hx.grows
  halts := Stable.wrap msg hx.halts
  succeeds := fun w a w' h => hx.succeeds w a w' (wrap_ok.mp h)
  faithful := fun w hs => by
    rw [wrap_snd] at hs
    rw [wrap_apply, wrap_apply, hx.faithful w hs]
    rcases x w with ⟨_ | _, _⟩ <;> rfl
  aborts := Aborts.wrap msg hx.aborts

theorem ite {c : Prop} [Decidable c] {y : Exec (World H C) α} (hx : Stops x) (hy : Stops y) :
    Stops (if c then x else y) := by
  split <;> assumption

section Remote

variable {e : Event} {f : World H C → World H C}

theorem remote_length (hf : ∀ w, (f w).hosts.log = w.hosts.log) (w : World H C) :
    (Flexkube.remote e f w).2.hosts.log.length = w.hosts.log.length + 1 := by
  unfold Flexkube.remote
  split <;> simp [hf]

theorem remote_clearFaults (hc : ∀ w, f w.clearFaults = (f w).clearFaults) (w : World H C) :
    Flexkube.remote e f w.clearFaults = (.ok (), (f (w.record e)).clearFaults) := by
  rw [remote_ok (by simpa using w.hosts.noFaults_clearFaults), ← hc]; rfl

/-- A remote operation is logged, and fails only as the failure pattern says. -/
theorem remote (e : Event) (hf : ∀ w, (f w).hosts.log = w.hosts.log ∧ (f w).hosts.fails = w.hosts.fails)
    (hc : ∀ w, f w.clearFaults = (f w).clearFaults) : Stops (Flexkube.remote e f) where
  grows := fun w => by
    unfold Flexkube.remote
    split
    · exact ⟨⟨[e], rfl⟩, rfl⟩
    · exact ⟨⟨[e], by rw [(hf _).1]; rfl⟩, by rw [(hf _).2]; rfl⟩
  halts := fun w => .of_length (remote_length (fun w => (hf w).1) w).le
  succeeds := fun w a w' h => fun i hi hk => by
    have hlen : w'.hosts.log.length = w.hosts.log.length + 1 := by
      rw [← remote_length (e := e) (fun w => (hf w).1) w, h]
    obtain rfl : i = w.hosts.log.length := by omega
    unfold Flexkube.remote at h
    split at h
    · cases h
    · assumption
  faithful := fun w hs => by
    have hn : w.hosts.fails w.hosts.log.length = none :=
      hs _ le_rfl (by rw [remote_length (fun w => (hf w).1)]; omega)
    rw [remote_clearFaults hc]
    simp only [Flexkube.remote, hn]
  aborts := fun w err w' h => by
    rw [remote_clearFaults hc]
    unfold Flexkube.remote at h
    split at h
    · cases h
      simp only [World.LogPrefix, World.clearFaults_hosts, Hosts.clearFaults_log, (hf _).1,
        List.prefix_refl]
    · cases h

end Remote

end Stops

/-! ## The remote operations -/

section Functions

theorem isUpdatable_stops (n : String) : Stops (isUpdatable (H := H) (C := C) n) :=
  .get_bind (fun _ => rfl) fun _ =>
    .ite (.bind (.fail _) fun _ => .ite (.fail _) (.pure _))
      (.bind (.pure _) fun _ => .ite (.fail _) (.pure _))

variable [DecidableEq H]

theorem checkState_stops : Stops (checkState (H := H) (C := C)) :=
  .remote _ (fun _ => ⟨rfl, rfl⟩) fun _ => rfl

theorem configure_stops (n : String) (d : HostConfiguredContainer H C) (fs : List String) :
    Stops (configure n d fs) :=
  .remote _ (fun _ => ⟨rfl, rfl⟩) fun _ => rfl

theorem start_stops (n : String) (r : HostConfiguredContainer H C) : Stops (start n r) :=
  .remote _ (fun _ => ⟨rfl, rfl⟩) fun _ => rfl

theorem createAndStart_stops (n : String) : Stops (createAndStart (H := H) (C := C) n) :=
  .of_read (g := fun w => match w.desiredState.get n with
      | none => Exec.fail "can't create non-existing container"
      | some d => remote (.createAndStart n) fun w => w.createAndStart n d)
    (fun w => by unfold createAndStart; dsimp only; cases w.desiredState.get n <;> rfl) (fun _ => rfl) fun w => by
      dsimp only
      split
      · exact .fail _
      · exact .remote _ (fun _ => ⟨rfl, rfl⟩) fun _ => rfl

theorem removeContainer_stops (n : String) : Stops (removeContainer (H := H) (C := C) n) :=
  .of_read (g := fun w => match w.currentState.get n with
      | none => Exec.fail "can't remove non-existing container"
      | some r => remote (.removeContainer n) fun w => w.removeContainer n r)
    (fun w => by unfold removeContainer; dsimp only; cases w.currentState.get n <;> rfl) (fun _ => rfl) fun w => by
      dsimp only
      split
      · exact .fail _
      · exact .remote _ (fun _ => ⟨rfl, rfl⟩) fun _ => rfl

/-! ## The reconciler -/

theorem ensureConfigured_stops (n : String) : Stops (ensureConfigured (H := H) (C := C) n) :=
  .get_bind (fun _ => rfl) fun w => by
    dsimp only
    split
    · exact .pure ()
    · exact .bind (.wrap _ (configure_stops n _ _)) fun _ => by
        split <;> exact .modify (fun _ => rfl) fun _ => rfl

theorem ensureRunning_stops (n : String) (c : Option (HostConfiguredContainer H C)) :
    Stops (ensureRunning n c) := by
  cases c with
  | none => exact .fail _
  | some c => exact .ite (.pure ()) (start_stops n c)

theorem ensureExists_stops (n : String) : Stops (ensureExists (H := H) (C := C) n) :=
  .get_bind (fun _ => rfl) fun w => by
    dsimp only
    refine .ite (.pure ()) (.bind (.pure ()) fun _ =>
      .bind (.wrap _ (createAndStart_stops n)) fun _ => .get_bind (fun _ => rfl) fun w' => ?_)
    split <;> first | exact .pure () | exact .modify (fun _ => rfl) fun _ => rfl

theorem diffHost_stops (n : String) : Stops (diffHost (H := H) (C := C) n) :=
  .bind (.wrap _ (isUpdatable_stops n)) fun _ =>
    .get_bind (fun _ => rfl) fun _ => by split <;> exact .pure _

theorem recreate_stops (n : String) : Stops (recreate (H := H) (C := C) n) :=
  .bind (.wrap _ (removeContainer_stops n)) fun _ => createAndStart_stops n

theorem ensureHost_stops (n : String) : Stops (ensureHost (H := H) (C := C) n) :=
  .bind (.wrap _ (diffHost_stops n)) fun _ => .ite (.pure ())
    (.bind (.pure ()) fun _ => .bind (.wrap _ (recreate_stops n)) fun _ =>
      .modify (fun w => w.copyDesired_hosts n) fun w => w.copyDesired_clearFaults n)

theorem pass1Step_stops (n : String) (r : HostConfiguredContainer H C) : Stops (pass1Step n r) :=
  .ite (.modify (fun _ => rfl) fun _ => rfl) (.wrap _ (ensureRunning_stops n (some r)))

theorem pass2Step_stops (i : String) : Stops (pass2Step (H := H) (C := C) i) :=
  .bind (.wrap _ (ensureConfigured_stops i)) fun _ => .wrap _ (ensureExists_stops i)

variable [DecidableEq C]

omit [DecidableEq H] in
theorem diffContainer_stops (n : String) : Stops (diffContainer (H := H) (C := C) n) :=
  .bind (.wrap _ (isUpdatable_stops n)) fun _ =>
    .get_bind (fun _ => rfl) fun _ => by split <;> exact .pure _

theorem ensureContainer_stops (n : String) : Stops (ensureContainer (H := H) (C := C) n) :=
  .bind (.wrap _ (diffContainer_stops n)) fun _ => .ite (.pure ())
    (.bind (.pure ()) fun _ => .bind (.wrap _ (recreate_stops n)) fun _ =>
      .modify (fun w => w.copyDesired_hosts n) fun w => w.copyDesired_clearFaults n)

theorem pass3Step_stops (i : String) : Stops (pass3Step (H := H) (C := C) i) :=
  .bind (.wrap _ (ensureHost_stops i)) fun _ =>
  .bind (.wrap _ (ensureConfigured_stops i)) fun _ =>
  .bind (.wrap _ (ensureContainer_stops i)) fun _ =>
  .get_bind (fun _ => rfl) fun _ => .ite (.pure ()) (.bind (.pure ()) fun _ => .wrap _ (removeContainer_stops i))

omit [DecidableEq H] [DecidableEq C] in
theorem rangeMap_stops {sel : World H C → ContainersState H C}
    {body : String → HostConfiguredContainer H C → Exec (World H C) Unit}
    (hsel : ∀ w, sel w.clearFaults = sel w) (hb : ∀ k v, Stops (body k v)) :
    ∀ ks, Stops (rangeMap sel body ks)
  | [] => .pure ()
  | k :: ks => by
    unfold rangeMap
    refine .get_bind (fun w => by dsimp only; rw [hsel]) fun w => ?_
    dsimp only
    split
    · exact .bind (.pure ()) fun _ => rangeMap_stops hsel hb ks
    · exact .bind (hb _ _) fun _ => rangeMap_stops hsel hb ks

theorem executePasses_stops (o : Orders) : Stops (executePasses (H := H) (C := C) o) :=
  .bind (rangeMap_stops (by intro; rfl) pass1Step_stops _) fun _ =>
  .bind (rangeMap_stops (by intro; rfl) (fun i _ => pass2Step_stops i) _) fun _ =>
    rangeMap_stops (by intro; rfl) (fun i _ => pass3Step_stops i) _

end Functions

/-! ## A run cut at its first failure -/

/-- The operations `l`, the first of which runs at position `i` of the log under the failure
pattern `fails`, up to and including the first that fails. -/
def upToFailure (fails : Nat → Option String) (i : Nat) : List Event → List Event
  | [] => []
  | e :: l => if (fails i).isSome then [e] else e :: upToFailure fails (i + 1) l

theorem upToFailure_of_none {fails : Nat → Option String} :
    ∀ {i : Nat} {l : List Event}, (∀ j, i ≤ j → j < i + l.length → fails j = none) →
      upToFailure fails i l = l
  | _, [], _ => rfl
  | i, e :: l, h => by
    have hi : fails i = none := h i le_rfl (by simp)
    rw [upToFailure, hi, Option.isSome_none, if_neg Bool.false_ne_true,
      upToFailure_of_none fun j hj hjl => h j (by omega) (by simp; omega)]

theorem upToFailure_of_some {fails : Nat → Option String} :
    ∀ {i k : Nat} {l : List Event}, (fails (i + k)).isSome → k < l.length →
      (∀ j, i ≤ j → j < i + k → fails j = none) → upToFailure fails i l = l.take (k + 1)
  | _, _, [], _, hk, _ => absurd hk (Nat.not_lt_zero _)
  | i, 0, e :: l, hf, _, _ => by rw [Nat.add_zero] at hf; rw [upToFailure, if_pos hf]; rfl
  | i, k + 1, e :: l, hf, hk, h => by
    have hi : fails i = none := h i le_rfl (by omega)
    rw [upToFailure, hi, Option.isSome_none, if_neg Bool.false_ne_true,
      upToFailure_of_some (k := k) (by rwa [Nat.add_right_comm, Nat.add_assoc])
        (by simp at hk; omega) fun j hj hjk => h j (by omega) (by omega)]
    rfl

example : upToFailure (fun i => if i = 2 then some "connection reset" else none) 1
    [.checkState, .start "a", .start "b"] = [.checkState, .start "a"] := rfl

/-- **A run stops at its first failure.** The log a run of `x` leaves is the log it started
from, followed by the operations the run of `x` from the same world on hosts that never
fail issues, up to and including the first that fails. -/
theorem Stops.log_eq (hx : Stops x) (w : World H C) :
    (x w).2.hosts.log = w.hosts.log ++
      upToFailure w.hosts.fails w.hosts.log.length ((x w.clearFaults).2.hosts.log.drop w.hosts.log.length) := by
  obtain ⟨d', hd'⟩ := (hx.grows w).log
  obtain ⟨d, hd⟩ := (hx.grows w.clearFaults).log
  change w.hosts.log ++ d = _ at hd
  rw [← hd, List.drop_left, ← hd']
  congr 1
  by_cases hs : w.Succeeded 0 (x w).2
  · -- no operation failed: the run is the fault-free run
    have hdd : d = d' := by
      rw [hx.faithful w hs] at hd
      exact List.append_cancel_left (hd.trans hd'.symm)
    subst hdd
    exact (upToFailure_of_none fun j hj hjl => hs j hj (by rw [← hd']; simp; omega)).symm
  · -- the last operation failed, and no other
    simp only [World.Succeeded, not_forall] at hs
    obtain ⟨q, hq, hql, hfq⟩ := hs
    have hh := hx.halts w
    have hlen : (x w).2.hosts.log.length = w.hosts.log.length + d'.length := by rw [← hd']; simp
    have hq₁ : q + 1 = (x w).2.hosts.log.length := by
      by_contra hne; exact hfq (hh q hq (by omega))
    obtain ⟨err, herr⟩ : ∃ err, (x w).1 = .error err := by
      rcases hxw : x w with ⟨_ | a, w'⟩
      · exact ⟨_, rfl⟩
      · rw [hxw] at hql; exact absurd (hx.succeeds w a w' hxw q hq hql) hfq
    have hp := hx.aborts w err (x w).2 (Prod.ext herr rfl)
    rw [World.LogPrefix, ← hd', ← hd, List.prefix_append_right_inj] at hp
    rw [upToFailure_of_some (k := q - w.hosts.log.length)
      (by rw [Nat.add_sub_cancel' hq]; exact Option.isSome_iff_ne_none.mpr hfq)
      (by have := hp.length_le; omega) fun j hj hjk => hh j hj (by omega)]
    rw [List.prefix_iff_eq_take.mp hp]
    congr 1
    omega

/-! ## The engine and `Deploy` -/

section Engine

variable [DecidableEq H] [DecidableEq C] {o : Orders}

/-- `CheckCurrentState` and then `Execute` are one run of the engine: `CheckState`, then the
three passes. -/
theorem containers.checkThenExecute_eq_run (c : containers H C) (h : Hosts H C) :
    c.checkThenExecute o h =
      { c with hasCurrentState := true }.run h (checkState >>= fun _ => executePasses o) := by
  unfold containers.checkThenExecute containers.checkCurrentState
  rcases hx : checkState ({ c with hasCurrentState := true }.world h) with ⟨_ | u, w'⟩
  · rw [containers.run_eq hx, containers.run_eq (by rw [bind_apply, hx])]
  · cases u
    rw [containers.run_eq hx, containers.run_eq (by rw [bind_apply, hx])]
    exact containers.execute_of_hasCurrentState rfl

/-- The hosts a `Deploy` of a valid value leaves are those its two engine calls leave. -/
theorem Containers.deploy_hosts {v : HostConfiguredContainer H C → Except String Unit}
    {c : Containers H C} {cs : containers H C} {h : Hosts H C} (hn : c.new v = .ok cs) :
    (c.deploy v o h).2.2 = (cs.checkThenExecute o h).2.2 := by
  unfold Containers.deploy containers.checkThenExecute
  rw [hn]
  dsimp only
  split
  · rfl
  · split <;> rename_i he <;> rw [he]

/-- **A failed `Deploy` stops at its first failure.** Whatever remote operations of the
hosts fail, the operations a `Deploy` issues are those the same `Deploy` issues on hosts
where no remote operation fails, up to and including the first that fails: it neither
retries a failed operation, nor undoes those before it, nor issues any after it. -/
theorem Containers.deploy_stops_at_first_failure (v : HostConfiguredContainer H C → Except String Unit)
    (o : Orders) (c : Containers H C) (h : Hosts H C) :
    (c.deploy v o h).2.2.log = h.log ++
      upToFailure h.fails h.log.length ((c.deploy v o h.clearFaults).2.2.log.drop h.log.length) := by
  rcases hn : c.new v with e | cs
  · simp only [Containers.deploy, hn, Hosts.clearFaults_log, List.drop_length, upToFailure,
      List.append_nil]
  · rw [Containers.deploy_hosts hn, Containers.deploy_hosts hn, containers.checkThenExecute_eq_run,
      containers.checkThenExecute_eq_run]
    exact (checkState_stops.bind fun _ => executePasses_stops o).log_eq _

end Engine

end Flexkube
