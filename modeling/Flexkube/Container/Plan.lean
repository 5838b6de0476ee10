import Flexkube.Container.Loops

/-!
# The Reconciler Name by Name

The spec describes `Execute` as a state machine per container name (§4.4, states S1 to
S7): what happens to a name depends only on its own current and desired entries. This
module states that machine as three functions, one per pass, giving for one name the
entries it ends the pass with and the remote operations it issues, and proves that the
passes of `Execute` implement them for every order Go may visit the names in, when no
remote operation fails.

The one thing a pass of one name takes from outside its entries is the identifier the
runtime gives a container it creates; the plans take it as an argument.
-/

namespace Flexkube

open Exec

variable {H C : Type} [DecidableEq H]

/-! ## The plans -/

/-- Pass 1 for one name with current entry `r`: a gone container is dropped, a stopped
one started. -/
def plan1 (n : String) :
    Option (HostConfiguredContainer H C) → Option (HostConfiguredContainer H C) × List Event
  | none => (none, [])
  | some r =>
    if r.container.exists then (some r, if r.container.isRunning then [] else [.start n])
    else (none, [])

omit [DecidableEq H] in
theorem plan1_isSome {n : String} {r : Option (HostConfiguredContainer H C)}
    (h : ((plan1 n r).1).isSome) : ∃ r', r = some r' ∧ r'.container.exists := by
  rcases r with _ | r
  · simp [plan1] at h
  · by_cases he : r.container.exists
    · exact ⟨r, rfl, he⟩
    · simp [plan1, he] at h

/-- Pass 2 for a desired name: configure, and create unless the entry exists; `k` is the
identifier a creation gets. Returns the current and desired entries and the operations. -/
def plan2 (n : String) (d : HostConfiguredContainer H C) (r : Option (HostConfiguredContainer H C))
    (k : Nat) : HostConfiguredContainer H C × HostConfiguredContainer H C × List Event :=
  if (r.getD d).container.exists then (configuredEntry d r, d, [.configure n (filesToUpdate d r)])
  else ((configuredEntry d r).withStatus (some ⟨k, true⟩), d.started k,
    [.configure n (filesToUpdate d r), .createAndStart n])

/-- Pass 3 for a desired name on its first visit, from its current entry `c` and desired
entry `d`: a changed host or runtime config recreates the container (the host first, so
that a name whose host and config both changed is recreated once); `k` is the identifier
the new container gets. -/
def plan3 [DecidableEq C] (n : String) (c d : HostConfiguredContainer H C) (k : Nat) :
    HostConfiguredContainer H C × HostConfiguredContainer H C × List Event :=
  if c.host ≠ d.host then
    (d.started k, d.started k, [.removeContainer n, .createAndStart n, .configure n []])
  else if c.container.config ≠ d.container.config then
    (d.started k, d.started k,
      [.configure n (filesToUpdate d (some c)), .removeContainer n, .createAndStart n])
  else (configuredEntry d (some c), d, [.configure n (filesToUpdate d (some c))])

section PlanLemmas

variable {n : String} {c d r : HostConfiguredContainer H C} {k : Nat}

omit [DecidableEq H] in
theorem plan1_exists (h : r.container.exists) :
    plan1 n (some r) = (some r, if r.container.isRunning then [] else [.start n]) := by
  simp [plan1, h]

omit [DecidableEq H] in
theorem plan2_exists (h : r.container.exists) :
    plan2 n d (some r) k = (r.withFiles d.configFiles, d, [.configure n (filesToUpdate d (some r))]) := by
  simp [plan2, h, configuredEntry]

variable [DecidableEq C]

theorem plan3_hostDrift (h : c.host ≠ d.host) :
    plan3 n c d k = (d.started k, d.started k, [.removeContainer n, .createAndStart n, .configure n []]) := by
  simp [plan3, h]

theorem plan3_configDrift (h1 : c.host = d.host) (h2 : c.container.config ≠ d.container.config) :
    plan3 n c d k = (d.started k, d.started k,
      [.configure n (filesToUpdate d (some c)), .removeContainer n, .createAndStart n]) := by
  simp [plan3, h1, h2]

theorem plan3_noDrift (h1 : c.host = d.host) (h2 : c.container.config = d.container.config) :
    plan3 n c d k = (c.withFiles d.configFiles, d, [.configure n (filesToUpdate d (some c))]) := by
  simp [plan3, h1, h2, configuredEntry]

end PlanLemmas

/-! ## Pass 1 -/

section Pass1

variable {w : World H C} {n : String} {r : HostConfiguredContainer H C}

/-- Pass 1 on one present name, in closed form. -/
theorem pass1Step_view (hf : w.hosts.NoFaults) (hr : w.currentState.get n = some r) :
    ∃ w', pass1Step n r w = (.ok (), w') ∧
      World.view n w' = ((plan1 n (some r)).1, w.desiredState.get n,
        w.hosts.log.filter (Event.named n) ++ (plan1 n (some r)).2) := by
  cases he : r.container.exists
  · exact ⟨_, pass1Step_gone he, by simp [World.view, plan1, he]⟩
  cases hrun : r.container.isRunning
  · exact ⟨_, pass1Step_stopped hf he hrun, by simp [World.view, plan1, he, hrun, hr, Event.named]⟩
  · exact ⟨_, pass1Step_running he hrun, by simp [World.view, plan1, he, hrun, hr]⟩

/-- Pass 1 of `Execute`, name by name. -/
theorem pass1_views (hf : w.hosts.NoFaults) (ks : List String) (hnd : ks.Nodup)
    (hcov : ∀ n, (w.currentState.get n).isSome → n ∈ ks) :
    ∃ w', rangeMap (·.currentState) (fun n r => pass1Step n r) ks w = (.ok (), w') ∧
      w'.hosts.NoFaults ∧ ∀ n, World.view n w' = ((plan1 n (w.currentState.get n)).1,
        w.desiredState.get n, w.hosts.log.filter (Event.named n) ++ (plan1 n (w.currentState.get n)).2) := by
  obtain ⟨w', h, hf', hv⟩ := rangeMap_views_nodup (·.currentState) (fun n r => pass1Step n r)
    (fun w => w.hosts.NoFaults)
    (fun n x => x = ((plan1 n (w.currentState.get n)).1, w.desiredState.get n,
      w.hosts.log.filter (Event.named n) ++ (plan1 n (w.currentState.get n)).2)) w
    (fun k v w₁ hf₁ hv₁ hk => by
      obtain ⟨w₂, h₂, hview⟩ := pass1Step_view hf₁ hk
      have hfr := (pass1Step_framed v).frame h₂
      simp only [World.view, Prod.mk.injEq] at hv₁
      refine ⟨w₂, h₂, hfr, hfr.noFaults hf₁, ?_⟩
      rw [hview, ← hk, hv₁.1, hv₁.2.1, hv₁.2.2])
    (fun k w₁ _ hv₁ hk => by
      simp only [World.view, Prod.mk.injEq] at hv₁ ⊢
      rw [← hv₁.1, hk]; simp [plan1, hv₁.2.1, hv₁.2.2])
    ks hnd hf
  refine ⟨w', h, hf', fun n => ?_⟩
  by_cases hn : n ∈ ks
  · exact (hv n).1 hn
  · have hnone : w.currentState.get n = none := by
      cases hc : w.currentState.get n
      · rfl
      · exact absurd (hcov n (by simp [hc])) hn
    rw [(hv n).2 hn]; simp [World.view, hnone, plan1]

end Pass1

/-! ## Pass 2 -/

section Pass2

variable {w : World H C} {n : String} {d : HostConfiguredContainer H C}

/-- What pass 2 leaves for a desired name: its entries and operations, from its current
entry `r`, its log `l` and the identifier `k` a creation gets. -/
def plan2View (n : String) (d : HostConfiguredContainer H C) (r : Option (HostConfiguredContainer H C))
    (l : List Event) (k : Nat) :
    Option (HostConfiguredContainer H C) × Option (HostConfiguredContainer H C) × List Event :=
  (some (plan2 n d r k).1, some (plan2 n d r k).2.1, l ++ (plan2 n d r k).2.2)

/-- Pass 2 on one desired name, in closed form. -/
theorem pass2Step_view (hf : w.hosts.NoFaults) (hd : w.desiredState.get n = some d) :
    ∃ w', pass2Step n w = (.ok (), w') ∧
      World.view n w' = plan2View n d (w.currentState.get n) (w.hosts.log.filter (Event.named n))
        w.hosts.nextId := by
  cases he : ((w.currentState.get n).getD d).container.exists
  · refine ⟨_, pass2Step_create hf hd he, ?_⟩
    simp [World.view, plan2View, plan2, he, World.configured, Event.named,
      HostConfiguredContainer.started]
  · refine ⟨_, pass2Step_present hf hd (by simpa using he), ?_⟩
    simp [World.view, plan2View, plan2, he, World.configured, Event.named, hd]

/-- Pass 2 of `Execute`, name by name: every desired name ends as `plan2` says, with the
identifier its creation got, every other name keeps its view. -/
theorem pass2_views (hf : w.hosts.NoFaults) (ks : List String) (hnd : ks.Nodup)
    (hcov : ∀ n, (w.desiredState.get n).isSome → n ∈ ks) :
    ∃ w', rangeMap (·.desiredState) (fun i _ => pass2Step i) ks w = (.ok (), w') ∧
      w'.hosts.NoFaults ∧ ∀ n, (∀ d, w.desiredState.get n = some d → ∃ k,
        World.view n w' = plan2View n d (w.currentState.get n) (w.hosts.log.filter (Event.named n)) k) ∧
        (w.desiredState.get n = none → World.view n w' = World.view n w) := by
  obtain ⟨w', h, hf', hv⟩ := rangeMap_views_nodup (·.desiredState) (fun i _ => pass2Step i)
    (fun w => w.hosts.NoFaults)
    (fun n x => (∀ d, w.desiredState.get n = some d → ∃ k,
      x = plan2View n d (w.currentState.get n) (w.hosts.log.filter (Event.named n)) k) ∧
      (w.desiredState.get n = none → x = World.view n w)) w
    (fun k v w₁ hf₁ hv₁ hk => by
      obtain ⟨w₂, h₂, hview⟩ := pass2Step_view hf₁ hk
      have hfr := pass2Step_framed.frame h₂
      simp only [World.view, Prod.mk.injEq] at hv₁
      refine ⟨w₂, h₂, hfr, hfr.noFaults hf₁, fun d hd => ⟨w₁.hosts.nextId, ?_⟩, fun hd => ?_⟩
      · obtain rfl : v = d := Option.some.inj (hk.symm.trans (hv₁.2.1.trans hd))
        rw [hview, hv₁.1, hv₁.2.2]
      · rw [← hv₁.2.1, hk] at hd; cases hd)
    (fun k w₁ _ hv₁ hk => by
      simp only [World.view, Prod.mk.injEq] at hv₁
      refine ⟨fun d hd => ?_, fun _ => by simp [World.view, hv₁.1, hv₁.2.1, hv₁.2.2]⟩
      rw [← hv₁.2.1, hk] at hd; cases hd)
    ks hnd hf
  refine ⟨w', h, hf', fun n => ?_⟩
  by_cases hn : n ∈ ks
  · exact (hv n).1 hn
  · have hnone : w.desiredState.get n = none := by
      cases hc : w.desiredState.get n
      · rfl
      · exact absurd (hcov n (by simp [hc])) hn
    exact ⟨fun d hd => (by rw [hnone] at hd; cases hd), fun _ => (hv n).2 hn⟩

end Pass2

/-! ## Pass 3 -/

section Pass3

variable [DecidableEq C] {w w₁ : World H C} {n : String} {c d v : HostConfiguredContainer H C}

/-- What pass 3 leaves for a name current and desired at its start: `plan3` for the first
visit, then `m` further visits, each of which configures no file. -/
def plan3View (n : String) (c d : HostConfiguredContainer H C) (l : List Event) (k m : Nat) :
    Option (HostConfiguredContainer H C) × Option (HostConfiguredContainer H C) × List Event :=
  (some (plan3 n c d k).1, some (plan3 n c d k).2.1,
    l ++ (plan3 n c d k).2.2 ++ List.replicate m (.configure n []))

/-- After its first visit a name's current and desired entries agree on host, runtime
config and config files. -/
theorem plan3_settled (n : String) (c d : HostConfiguredContainer H C) (k : Nat) :
    (plan3 n c d k).1.host = (plan3 n c d k).2.1.host ∧
    (plan3 n c d k).1.container.config = (plan3 n c d k).2.1.container.config ∧
    (plan3 n c d k).1.configFiles = (plan3 n c d k).2.1.configFiles := by
  unfold plan3
  split_ifs with h1 h2 <;> simp_all [configuredEntry]

/-- Pass 3 on one name current and desired, in closed form. -/
theorem pass3Step_view (hf : w.hosts.NoFaults) (hc : w.currentState.get n = some c)
    (hd : w.desiredState.get n = some d) :
    ∃ w', pass3Step n w = (.ok (), w') ∧
      World.view n w' = plan3View n c d (w.hosts.log.filter (Event.named n)) w.hosts.nextId 0 := by
  by_cases h1 : c.host = d.host
  · by_cases h2 : c.container.config = d.container.config
    · refine ⟨_, pass3Step_noDrift hf hc hd h1 h2, ?_⟩
      simp [World.view, plan3View, plan3, h1, h2, hc, hd, World.configured, Event.named]
    · refine ⟨_, pass3Step_configDrift hf hc hd h1 h2, ?_⟩
      simp [World.view, plan3View, plan3, h1, h2, hc, World.configured, World.recreated,
        Event.named, HostConfiguredContainer.started]
  · refine ⟨_, pass3Step_hostDrift hf hc hd h1, ?_⟩
    simp [World.view, plan3View, plan3, h1, World.configured, World.recreated, Event.named,
      HostConfiguredContainer.started, filesToUpdate_of_configFiles_eq]

/-- A further visit of a settled name only logs a `Configure` of no file. -/
theorem pass3Step_revisit (hf : w.hosts.NoFaults) (hc : w.currentState.get n = some c)
    (hd : w.desiredState.get n = some d) (h1 : c.host = d.host)
    (h2 : c.container.config = d.container.config) (h3 : c.configFiles = d.configFiles) :
    ∃ w', pass3Step n w = (.ok (), w') ∧
      World.view n w' = (some c, some d, w.hosts.log.filter (Event.named n) ++ [.configure n []]) := by
  refine ⟨_, pass3Step_noDrift hf hc hd h1 h2, ?_⟩
  simp [World.view, hc, hd, World.configured, Event.named, filesToUpdate_of_configFiles_eq h3,
    configuredEntry_some_self h3]

/-- What pass 3 may leave for the name `n`, from the world `w` at its start: a name
current and desired ends as `plan3` and visits that configure nothing leave it; any other
name keeps its view. -/
def Pass3Post (w : World H C) (n : String)
    (x : Option (HostConfiguredContainer H C) × Option (HostConfiguredContainer H C) × List Event) :
    Prop :=
  (∀ c d, w.currentState.get n = some c → w.desiredState.get n = some d →
    ∃ k m, x = plan3View n c d (w.hosts.log.filter (Event.named n)) k m) ∧
  ((w.currentState.get n).isNone ∨ (w.desiredState.get n).isNone → x = World.view n w)

theorem pass3Post_self (h : (w.currentState.get n).isNone ∨ (w.desiredState.get n).isNone) :
    Pass3Post w n (World.view n w) :=
  ⟨fun c d hc hd => by rcases h with h | h <;> simp_all, fun _ => rfl⟩

/-- One visit of pass 3, to a name that has its view from the start `w` of the pass or
already satisfies `Pass3Post`: afterwards the name satisfies `Pass3Post`, and the visit
fails only for a name that is current but not desired at the start. -/
theorem pass3Step_post (hf : w₁.hosts.NoFaults)
    (hpre : World.view n w₁ = World.view n w ∨ Pass3Post w n (World.view n w₁))
    (hv : w₁.currentState.get n = some v) :
    Pass3Post w n (World.view n (pass3Step n w₁).2) ∧
      ((pass3Step n w₁).1 = .ok () ∨ (w.currentState.get n).isSome ∧ w.desiredState.get n = none) := by
  -- a name that is not both current and desired still has its view from the start
  have key : World.view n w₁ = World.view n w ∨ ∃ c d k m, w.currentState.get n = some c ∧
      w.desiredState.get n = some d ∧
      World.view n w₁ = plan3View n c d (w.hosts.log.filter (Event.named n)) k m := by
    rcases hpre with h | ⟨h1, h2⟩
    · exact .inl h
    cases hc : w.currentState.get n with
    | none => exact .inl (h2 (.inl (by simp [hc])))
    | some c =>
      cases hd : w.desiredState.get n with
      | none => exact .inl (h2 (.inr (by simp [hd])))
      | some d => obtain ⟨k, m, h⟩ := h1 c d hc hd; exact .inr ⟨c, d, k, m, rfl, rfl, h⟩
  rcases key with h | ⟨c, d, k, m, hc, hd, h⟩
  · have h' := h
    simp only [World.view, Prod.mk.injEq] at h'
    obtain ⟨hc, hd, hl⟩ := h'
    cases hdes : w.desiredState.get n with
    | none =>
      rw [pass3Step_removed hv (hd.trans hdes), h]
      exact ⟨pass3Post_self (.inr (by simp [hdes])), .inr ⟨by rw [← hc, hv]; rfl, rfl⟩⟩
    | some d =>
      obtain ⟨w₂, h₂, hview⟩ := pass3Step_view hf hv (hd.trans hdes)
      rw [h₂]
      refine ⟨⟨fun c' d' hc' hd' => ?_, fun h => ?_⟩, .inl rfl⟩
      · obtain rfl : v = c' := Option.some.inj (hv.symm.trans (hc.trans hc'))
        obtain rfl : d = d' := Option.some.inj (hdes.symm.trans hd')
        exact ⟨w₁.hosts.nextId, 0, by rw [hview, hl]⟩
      · rw [← hc, hv, hdes] at h; simp at h
  · simp only [World.view, plan3View, Prod.mk.injEq] at h
    obtain ⟨h1, h2, h3⟩ := plan3_settled n c d k
    obtain ⟨w₂, h₂, hview⟩ := pass3Step_revisit hf h.1 h.2.1 h1 h2 h3
    rw [h₂]
    refine ⟨⟨fun c' d' hc' hd' => ?_, fun h' => ?_⟩, .inl rfl⟩
    · obtain rfl : c = c' := Option.some.inj (hc.symm.trans hc')
      obtain rfl : d = d' := Option.some.inj (hd.symm.trans hd')
      exact ⟨k, m + 1, by rw [hview, h.2.2]; simp [plan3View, List.replicate_succ']⟩
    · simp [hc, hd] at h'

/-- Pass 3 of `Execute`, name by name, when every name current at its start is desired:
it returns `nil`, and every name it visits ends satisfying `Pass3Post`. Visiting orders
may repeat names, as Go may produce again a key deleted and inserted during the loop. -/
theorem pass3_views (hf : w.hosts.NoFaults) (ks : List String)
    (hdes : ∀ n, (w.currentState.get n).isSome → (w.desiredState.get n).isSome) :
    ∃ w', rangeMap (·.currentState) (fun i _ => pass3Step i) ks w = (.ok (), w') ∧
      w'.hosts.NoFaults ∧ ∀ n, (n ∈ ks → Pass3Post w n (World.view n w')) ∧
        (n ∉ ks → World.view n w' = World.view n w) :=
  rangeMap_views _ _ (fun w => w.hosts.NoFaults) (Pass3Post w) w
    (fun k v w₁ hf₁ hpre hk => by
      obtain ⟨hpost, hok⟩ := pass3Step_post hf₁ hpre hk
      have hok : (pass3Step k w₁).1 = .ok () := hok.resolve_right fun ⟨hc, hd⟩ => by
        simpa [hd] using hdes k hc
      exact ⟨_, Prod.ext hok rfl, pass3Step_framed w₁, (pass3Step_framed w₁).noFaults hf₁, hpost⟩)
    (fun k w₁ _ hpre hk => by
      rcases hpre with h | h
      · have hc : (w.currentState.get k).isNone := by
          simp only [World.view, Prod.mk.injEq] at h; simp [← h.1, hk]
        rw [h]; exact pass3Post_self (.inl hc)
      · exact h)
    ks hf

/-- Pass 3 of `Execute`, name by name, whatever it returns: every name keeps its view
from the start of the pass or ends satisfying `Pass3Post`. -/
theorem pass3_views_abort (hf : w.hosts.NoFaults) (ks : List String) :
    (rangeMap (·.currentState) (fun i _ => pass3Step i) ks w).2.hosts.NoFaults ∧ ∀ n,
      World.view n (rangeMap (·.currentState) (fun i _ => pass3Step i) ks w).2 = World.view n w ∨
        Pass3Post w n (World.view n (rangeMap (·.currentState) (fun i _ => pass3Step i) ks w).2) :=
  rangeMap_views_abort _ _ (fun w => w.hosts.NoFaults) (Pass3Post w) w
    (fun _ _ w₁ hf₁ hpre hk => ⟨pass3Step_framed w₁, (pass3Step_framed w₁).noFaults hf₁,
      (pass3Step_post hf₁ hpre hk).1⟩) ks hf

/-- Pass 3 fails once it reaches a name that is current but not desired. -/
theorem pass3_error_of_removal (hf : w.hosts.NoFaults) (hc : w.currentState.get n = some c)
    (hd : w.desiredState.get n = none) (ks : List String) (hn : n ∈ ks) :
    ∃ e, (rangeMap (·.currentState) (fun i _ => pass3Step i) ks w).1 = .error e := by
  induction ks generalizing w with
  | nil => cases hn
  | cons k ks ih =>
    by_cases hk : k = n
    · subst hk; exact ⟨_, by rw [rangeMap_cons_error hc (pass3Step_removed hc hd)]⟩
    have hn' : n ∈ ks := (List.mem_cons.1 hn).resolve_left (Ne.symm hk)
    cases hv : w.currentState.get k with
    | none => rw [rangeMap_cons_none hv]; exact ih hf hc hd hn'
    | some v =>
      have hfr : World.Frame k w (pass3Step k w).2 := pass3Step_framed w
      rcases hb : pass3Step k w with ⟨_ | ⟨⟩, w'⟩
      · exact ⟨_, by rw [rangeMap_cons_error hv hb]⟩
      · rw [hb] at hfr
        rw [rangeMap_cons_some hv hb]
        exact ih (hfr.noFaults hf) ((hfr.current n (Ne.symm hk)).trans hc)
          ((hfr.desired n (Ne.symm hk)).trans hd) hn'

end Pass3

/-! ## `Execute`, name by name -/

section Execute

variable [DecidableEq C] {w : World H C} {o : Orders}

/-- `Execute` for one name up to the end of pass 2, from its current entry `r` (after
`CheckState`), its desired entry `d` and its log `l`; `k₂` is the identifier a creation
in pass 2 gets. -/
def stage2View (n : String) (r d : Option (HostConfiguredContainer H C)) (l : List Event)
    (k₂ : Nat) :
    Option (HostConfiguredContainer H C) × Option (HostConfiguredContainer H C) × List Event :=
  match d with
  | none => ((plan1 n r).1, none, l ++ (plan1 n r).2)
  | some d => plan2View n d (plan1 n r).1 (l ++ (plan1 n r).2) k₂

/-- `Execute` for one name: pass 3 acts on a name current and desired after pass 2, with
`k₃` the identifier a recreation gets and `m` the number of further visits. -/
def planView (n : String) (r d : Option (HostConfiguredContainer H C)) (l : List Event)
    (k₂ k₃ m : Nat) :
    Option (HostConfiguredContainer H C) × Option (HostConfiguredContainer H C) × List Event :=
  match stage2View n r d l k₂ with
  | (some c, some d, l₂) => plan3View n c d l₂ k₃ m
  | x => x

/-- Every name current after pass 1 is desired: no container is scheduled for removal. -/
def NoRemovals (w : World H C) : Prop :=
  ∀ n r, w.currentState.get n = some r → r.container.exists → (w.desiredState.get n).isSome

/-- The orders Go may take for the three passes: the first two visit each key of their
map once; the third visits every key its map holds after pass 2. -/
structure Orders.Covers (o : Orders) (w : World H C) : Prop where
  nodup1 : o.pass1.Nodup
  nodup2 : o.pass2.Nodup
  cover1 : ∀ n, (w.currentState.get n).isSome → n ∈ o.pass1
  cover2 : ∀ n, (w.desiredState.get n).isSome → n ∈ o.pass2
  cover3 : ∀ n, (w.desiredState.get n).isSome ∨
    (∃ r, w.currentState.get n = some r ∧ r.container.exists) → n ∈ o.pass3

omit [DecidableEq H] [DecidableEq C] in
/-- Visiting the keys of each map once, in any order, is one of the orders Go may take. -/
theorem Orders.covers_of_perm (h1 : o.pass1.Perm w.currentState.keys)
    (h2 : o.pass2.Perm w.desiredState.keys)
    (h3 : ∀ n ∈ w.desiredState.keys ++ w.currentState.keys, n ∈ o.pass3) : o.Covers w where
  nodup1 := h1.nodup_iff.2 w.currentState.nodup
  nodup2 := h2.nodup_iff.2 w.desiredState.nodup
  cover1 n hn := h1.mem_iff.2 (w.currentState.mem_keys_of_get (Option.get_mem hn))
  cover2 n hn := h2.mem_iff.2 (w.desiredState.mem_keys_of_get (Option.get_mem hn))
  cover3 n hn := h3 n <| by
    rcases hn with hn | ⟨r, hr, -⟩
    exacts [List.mem_append_left _ (w.desiredState.mem_keys_of_get (Option.get_mem hn)),
      List.mem_append_right _ (w.currentState.mem_keys_of_get hr)]

/-- A name that pass 3 leaves as `Pass3Post` says ends as `planView` says. -/
theorem planView_of_pass3Post {w₂ : World H C} {n : String} {r d} {l : List Event} {k₂ : Nat} {x}
    (hv : World.view n w₂ = stage2View n r d l k₂) (hp : Pass3Post w₂ n x) :
    ∃ k₃ m, x = planView n r d l k₂ k₃ m := by
  obtain ⟨h1, h2⟩ := hp
  unfold planView
  rw [← hv]
  cases hc : w₂.currentState.get n <;> cases hd : w₂.desiredState.get n <;>
    simp only [World.view, hc, hd] at h1 h2 ⊢
  · exact ⟨0, 0, h2 (by simp)⟩
  · exact ⟨0, 0, h2 (by simp)⟩
  · exact ⟨0, 0, h2 (by simp)⟩
  · exact h1 _ _ rfl rfl

/-- Passes 1 and 2 of `Execute` return `nil` when no remote operation fails, and leave
every name as `stage2View` says. -/
theorem passes12_views (hf : w.hosts.NoFaults) (ho : o.Covers w) :
    ∃ w₂, executePasses o w = rangeMap (·.currentState) (fun i _ => pass3Step i) o.pass3 w₂ ∧
      w₂.hosts.NoFaults ∧ ∀ n, ∃ k₂, World.view n w₂ = stage2View n (w.currentState.get n)
        (w.desiredState.get n) (w.hosts.log.filter (Event.named n)) k₂ := by
  obtain ⟨w₁, h₁, hf₁, hv₁⟩ := pass1_views hf o.pass1 ho.nodup1 ho.cover1
  have hv₁' := fun n => hv₁ n
  simp only [World.view, Prod.mk.injEq] at hv₁'
  obtain ⟨w₂, h₂, hf₂, hv₂⟩ := pass2_views hf₁ o.pass2 ho.nodup2
    (fun n hn => ho.cover2 n (by rwa [← (hv₁' n).2.1]))
  refine ⟨w₂, by simp [executePasses, h₁, h₂], hf₂, fun n => ?_⟩
  cases hd : w.desiredState.get n with
  | some d =>
    obtain ⟨k₂, hk₂⟩ := (hv₂ n).1 d (by rw [(hv₁' n).2.1, hd])
    exact ⟨k₂, by rw [hk₂, (hv₁' n).1, (hv₁' n).2.2]; rfl⟩
  | none =>
    refine ⟨0, ?_⟩
    rw [(hv₂ n).2 (by rw [(hv₁' n).2.1, hd])]
    simp only [World.view, stage2View, Prod.mk.injEq]
    exact ⟨(hv₁' n).1, (hv₁' n).2.1.trans hd, (hv₁' n).2.2⟩

/-- **`Execute` implements the per-name plan.** With no failing remote operation and no
container scheduled for removal, the three passes return `nil` in every order Go may take,
and every name ends with the entries and operations `planView` gives it. -/
theorem executePasses_views (hf : w.hosts.NoFaults) (ho : o.Covers w) (hrm : NoRemovals w) :
    ∃ w', executePasses o w = (.ok (), w') ∧ w'.hosts.NoFaults ∧ ∀ n, ∃ k₂ k₃ m,
      World.view n w' = planView n (w.currentState.get n) (w.desiredState.get n)
        (w.hosts.log.filter (Event.named n)) k₂ k₃ m := by
  obtain ⟨w₂, h₂, hf₂, hv₂⟩ := passes12_views hf ho
  -- after pass 2 a name is current only if it is desired
  have hcur : ∀ n, (w₂.currentState.get n).isSome → (w₂.desiredState.get n).isSome := by
    intro n hn
    obtain ⟨k₂, hk⟩ := hv₂ n
    cases hd : w.desiredState.get n with
    | some d =>
      simp only [World.view, hd, stage2View, plan2View, Prod.mk.injEq] at hk
      simp [hk.2.1]
    | none =>
      simp only [World.view, hd, stage2View, Prod.mk.injEq] at hk
      obtain ⟨r, hr, he⟩ := plan1_isSome (hk.1 ▸ hn)
      simpa [hd] using hrm n r hr he
  obtain ⟨w₃, h₃, hf₃, hv₃⟩ := pass3_views hf₂ o.pass3 hcur
  refine ⟨w₃, h₂.trans h₃, hf₃, fun n => ?_⟩
  obtain ⟨k₂, hk⟩ := hv₂ n
  by_cases hn : n ∈ o.pass3
  · exact ⟨k₂, planView_of_pass3Post hk ((hv₃ n).1 hn)⟩
  · -- a name pass 3 does not visit is neither desired nor current after pass 1
    have hd : w.desiredState.get n = none := by
      simpa using fun h => hn (ho.cover3 n (.inl h))
    have hc : (w₂.currentState.get n).isNone := by
      simp only [World.view, hd, stage2View, Prod.mk.injEq] at hk
      rw [hk.1]
      cases h : (plan1 n (w.currentState.get n)).1
      · rfl
      · obtain ⟨r, hr, he⟩ := plan1_isSome (by rw [h]; rfl)
        exact absurd (ho.cover3 n (.inr ⟨r, hr, he⟩)) hn
    exact ⟨k₂, planView_of_pass3Post hk (by rw [(hv₃ n).2 hn]; exact pass3Post_self (.inl hc))⟩

/-- `Execute`, name by name, whatever it returns when no remote operation fails: every
name ends as `stage2View` says, or, when pass 3 reached it, as `planView` says. -/
theorem executePasses_views_abort (hf : w.hosts.NoFaults) (ho : o.Covers w) (n : String) :
    ∃ k₂, World.view n (executePasses o w).2 = stage2View n (w.currentState.get n)
        (w.desiredState.get n) (w.hosts.log.filter (Event.named n)) k₂ ∨
      ∃ k₃ m, World.view n (executePasses o w).2 = planView n (w.currentState.get n)
        (w.desiredState.get n) (w.hosts.log.filter (Event.named n)) k₂ k₃ m := by
  obtain ⟨w₂, h₂, hf₂, hv₂⟩ := passes12_views hf ho
  obtain ⟨k₂, hk⟩ := hv₂ n
  rw [h₂]
  rcases (pass3_views_abort hf₂ o.pass3).2 n with h | h
  · exact ⟨k₂, .inl (h.trans hk)⟩
  · exact ⟨k₂, .inr (planView_of_pass3Post hk h)⟩

/-- With no failing remote operation, `Execute` fails whenever a name is current after
pass 1 but not desired. -/
theorem executePasses_error_of_removal (hf : w.hosts.NoFaults) (ho : o.Covers w) {n : String}
    {r : HostConfiguredContainer H C} (hr : w.currentState.get n = some r)
    (he : r.container.exists) (hd : w.desiredState.get n = none) :
    ∃ e, (executePasses o w).1 = .error e := by
  obtain ⟨w₂, h₂, hf₂, hv₂⟩ := passes12_views hf ho
  obtain ⟨k₂, hk⟩ := hv₂ n
  simp only [World.view, hr, hd, stage2View, plan1, he, if_true, Prod.mk.injEq] at hk
  rw [h₂]
  exact pass3_error_of_removal hf₂ hk.1 hk.2.1 o.pass3 (ho.cover3 n (.inr ⟨r, hr, he⟩))

end Execute

end Flexkube
