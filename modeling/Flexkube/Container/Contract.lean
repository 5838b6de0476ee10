import Flexkube.Container.Owned

/-!
# The Public Contract of the Engine

`New` and `CheckCurrentState` as the public contract of the engine describes them.

`Validate` rejects a caller's value when both of its states are absent or empty, or when
`HostConfiguredContainer.New` rejects one of their entries. `New` accepts exactly the other
values, `Containers.Accepted`, and hands the engine their two states, a nil one as an empty
map, with no current state yet.

`CheckCurrentState` is safe to call repeatedly: once it has returned `nil`, a second call
against the hosts it left, whether that call fails or not, leaves the engine as it is and
only logs the one operation it issues. Refreshing an entry against the hosts it was
refreshed against changes nothing: the status read back names the same container, and the
config files read back are those the host holds.
-/

namespace Flexkube

open Exec

variable {H C : Type}

/-! ## What `New` accepts -/

/-- A `mapM` of a check in `Except` succeeds exactly when every element passes. -/
theorem mapM_unit_ok_iff {α ε : Type} {f : α → Except ε Unit} :
    ∀ {l : List α}, (∃ u, l.mapM f = .ok u) ↔ ∀ a ∈ l, f a = .ok ()
  | [] => by simp [List.mapM_nil]; exact ⟨_, rfl⟩
  | a :: l => by
    rw [List.mapM_cons, List.forall_mem_cons, ← mapM_unit_ok_iff]
    cases f a <;> cases l.mapM f <;> simp [bind, Except.bind, pure, Except.pure]

section Validation

variable (validateHcc : HostConfiguredContainer H C → Except String Unit)

/-- Every entry of a state, if there is one, passes `HostConfiguredContainer.New`. -/
def ContainersState.Valid (s : Option (ContainersState H C)) : Prop :=
  ∀ m, s = some m → ∀ n r, m.get n = some r → validateHcc r = .ok ()

/-- What `Validate` asks of a caller's value: one of its two states has an entry, and
`HostConfiguredContainer.New` accepts every entry of both. -/
structure Containers.Accepted (c : Containers H C) : Prop where
  nonempty : ∃ n, (c.previousState.bind (·.get n)).isSome ∨ (c.desiredState.bind (·.get n)).isSome
  previous : ContainersState.Valid validateHcc c.previousState
  desired : ContainersState.Valid validateHcc c.desiredState

variable {validateHcc}

theorem ContainersState.new_eq_ok_iff_valid {s : Option (ContainersState H C)} {m : ContainersState H C} :
    ContainersState.new validateHcc s = .ok m ↔
      ContainersState.Valid validateHcc s ∧ m = s.getD GoMap.empty := by
  cases s with
  | none => simp [ContainersState.new, ContainersState.Valid, eq_comm]
  | some s =>
    have hv : ContainersState.Valid validateHcc (some s) ↔
        ∀ n ∈ s.keys, (s.get n).elim (.ok ()) validateHcc = .ok () := by
      simp only [ContainersState.Valid, Option.some.injEq, forall_eq', s.mem_keys_iff]
      constructor
      · rintro h n ⟨r, hr⟩
        simpa [hr] using h n r hr
      · intro h n r hr
        simpa [hr] using h n ⟨r, hr⟩
    rw [hv, ← mapM_unit_ok_iff]
    simp only [ContainersState.new]
    cases s.keys.mapM fun n => (s.get n).elim (.ok ()) validateHcc <;> simp [Except.map, eq_comm]

/-- Go's `len` of a state, a nil one counting as empty, is zero exactly when it has no entry. -/
theorem ContainersState.len_ne_zero_iff (s : Option (ContainersState H C)) :
    (s.getD GoMap.empty).len ≠ 0 ↔ ∃ n, (s.bind (·.get n)).isSome := by
  cases s with
  | none => simp [GoMap.len, GoMap.empty]
  | some m =>
    simp only [Option.getD_some, Option.some_bind, GoMap.len, ne_eq, List.length_eq_zero,
      ← m.mem_keys, List.eq_nil_iff_forall_not_mem, not_forall, not_not]

/-- `Validate` returns `nil` exactly on the values it is meant to accept. Its first check,
that not both states are nil, is subsumed by its last, that not both are empty. -/
theorem Containers.validate_eq_ok_iff {c : Containers H C} :
    c.validate validateHcc = .ok () ↔ c.Accepted validateHcc := by
  have hacc : c.Accepted validateHcc ↔ ((c.previousState.getD GoMap.empty).len ≠ 0 ∨
      (c.desiredState.getD GoMap.empty).len ≠ 0) ∧ ContainersState.Valid validateHcc c.previousState ∧
      ContainersState.Valid validateHcc c.desiredState := by
    rw [ContainersState.len_ne_zero_iff, ContainersState.len_ne_zero_iff, ← exists_or]
    exact ⟨fun h => ⟨h.1, h.2, h.3⟩, fun h => ⟨h.1, h.2.1, h.2.2⟩⟩
  rw [hacc]
  unfold Containers.validate
  split_ifs with hn
  · obtain ⟨h1, h2⟩ := hn
    simp [Option.isNone_iff_eq_none.1 h1, Option.isNone_iff_eq_none.1 h2, GoMap.len, GoMap.empty]
  · rcases hp : ContainersState.new validateHcc c.previousState with e | P <;>
      rcases hd : ContainersState.new validateHcc c.desiredState with e' | D
    all_goals simp only [bind, Except.bind, pure, Except.pure]
    · exact iff_of_false (by simp) fun ⟨_, hv, _⟩ => by
        cases hp.symm.trans (ContainersState.new_eq_ok_iff_valid.2 ⟨hv, rfl⟩)
    · exact iff_of_false (by simp) fun ⟨_, hv, _⟩ => by
        cases hp.symm.trans (ContainersState.new_eq_ok_iff_valid.2 ⟨hv, rfl⟩)
    · exact iff_of_false (by simp) fun ⟨_, _, hv⟩ => by
        cases hd.symm.trans (ContainersState.new_eq_ok_iff_valid.2 ⟨hv, rfl⟩)
    · obtain ⟨hvp, rfl⟩ := ContainersState.new_eq_ok_iff_valid.1 hp
      obtain ⟨hvd, rfl⟩ := ContainersState.new_eq_ok_iff_valid.1 hd
      by_cases h0 : (c.previousState.getD GoMap.empty).len = 0 ∧
          (c.desiredState.getD GoMap.empty).len = 0
      · simp [h0]
      · simp [h0, hvp, hvd, ← not_and_or]

/-- **`New` accepts exactly the well-formed values.** For every validation of single
entries and every caller's value: `Containers.New` returns an engine exactly when one of the
two states has an entry and every entry of both passes `HostConfiguredContainer.New`; the
engine then holds the two states as given, a nil one as an empty map, and no current state
yet. -/
theorem Containers.new_eq_ok_iff {c : Containers H C} {cs : containers H C} :
    c.new validateHcc = .ok cs ↔ c.Accepted validateHcc ∧
      cs = ⟨c.previousState.getD GoMap.empty, false, c.desiredState.getD GoMap.empty⟩ := by
  unfold Containers.new
  split
  · next he =>
    exact iff_of_false (by simp) fun ⟨ha, _⟩ => by
      cases he.symm.trans (Containers.validate_eq_ok_iff.2 ha)
  · next he =>
    have ha := Containers.validate_eq_ok_iff.1 he
    rw [ContainersState.new_eq_ok_iff_valid.2 ⟨ha.previous, rfl⟩,
      ContainersState.new_eq_ok_iff_valid.2 ⟨ha.desired, rfl⟩]
    simp [bind, Except.bind, pure, Except.pure, ha, eq_comm]

end Validation

/-! ## `CheckCurrentState` twice -/

section Refresh

variable [DecidableEq H]

/-- A status read back from a host reads back the same. -/
theorem Hosts.probe_probe (h : Hosts H C) (host : H) (st : Option ContainerStatus) :
    h.probe host (h.probe host st) = h.probe host st := by
  cases st with
  | none => rfl
  | some s => cases hs : h.find host s.id <;> simp [Hosts.probe, hs]

/-- Refreshing an entry against the hosts it was refreshed against, a logged operation
later, changes nothing. -/
theorem refresh_refresh (h : Hosts H C) (e : Event) (r : HostConfiguredContainer H C) :
    (r.refresh h).refresh (h.record e) = r.refresh h := by
  have hf : ((r.refresh h).configFiles.filterMap fun p _ => h.files r.host p) =
      (r.refresh h).configFiles :=
    GoMap.filterMap_eq_self fun k v hk => by
      simp only [HostConfiguredContainer.refresh, GoMap.get_filterMap] at hk
      exact (Option.bind_eq_some.1 hk).elim fun _ h => h.2
  simp only [HostConfiguredContainer.refresh] at hf ⊢
  rw [show (h.record e).probe = h.probe from rfl, Hosts.record_files, Hosts.probe_probe, hf]

theorem World.checkState_record_checkState (w : World H C) (e : Event) :
    (w.checkState.record e).checkState = w.checkState.record e := by
  simp only [World.checkState, World.record, GoMap.map_map, refresh_refresh]

/-- `CheckState` on a world it refreshed leaves only its log entry, whether it fails or
not. -/
theorem checkState_checkState (w : World H C) :
    (checkState ((w.record .checkState).checkState)).2 =
      ((w.record .checkState).checkState).record .checkState := by
  unfold checkState
  rcases remote_cases .checkState World.checkState ((w.record .checkState).checkState) with
    ⟨_, h⟩ | h <;> rw [h]
  exact World.checkState_record_checkState _ _

variable {c : containers H C} {h : Hosts H C}

/-- **`CheckCurrentState` is safe to call repeatedly.** For every engine, hosts and failure
pattern: once `CheckCurrentState` has returned `nil`, calling it again against the hosts it
left, whatever that call returns, leaves the engine as the first call left it, and the hosts
as they were but for the logged `CheckState` it issues. -/
theorem containers.checkCurrentState_again (hok : (c.checkCurrentState h).1 = .ok ()) :
    ((c.checkCurrentState h).2.1.checkCurrentState (c.checkCurrentState h).2.2).2 =
      ((c.checkCurrentState h).2.1, (c.checkCurrentState h).2.2.record .checkState) := by
  have hw : (c.checkCurrentState h).2.1.world (c.checkCurrentState h).2.2 =
      ((c.world h).record .checkState).checkState := remote_of_ok hok
  have ht : (c.checkCurrentState h).2.1.hasCurrentState = true := rfl
  have hw₂ := checkState_checkState (c.world h)
  rw [← hw] at hw₂
  generalize (c.checkCurrentState h).2.1 = c₁ at hw₂ ht ⊢
  generalize (c.checkCurrentState h).2.2 = h₁ at hw₂ ⊢
  obtain ⟨p, t, d⟩ := c₁
  subst ht
  show ((⟨(checkState (containers.world ⟨p, true, d⟩ h₁)).2.currentState, true,
    (checkState (containers.world ⟨p, true, d⟩ h₁)).2.desiredState⟩ : containers H C),
    (checkState (containers.world ⟨p, true, d⟩ h₁)).2.hosts) = _
  rw [hw₂]
  rfl

theorem stale_file_checked_twice :
    (staleFile.checkCurrentState twoRunning).1 = .ok () ∧
    ((staleFile.checkCurrentState twoRunning).2.1.checkCurrentState
        (staleFile.checkCurrentState twoRunning).2.2).2 =
      ((staleFile.checkCurrentState twoRunning).2.1,
        (staleFile.checkCurrentState twoRunning).2.2.record .checkState) :=
  ⟨by decide, containers.checkCurrentState_again (by decide)⟩

end Refresh

end Flexkube
