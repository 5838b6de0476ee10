import Flexkube.Container.Removal

/-!
# Visiting Order

Go leaves open the order in which each pass of `Execute` visits names, and the order in
which `filesToUpdate` lists a name's paths (a range over its config files). Two orders can
end differently in three ways, all outside the engine's control: the runtime gives
containers identifiers in the order it creates them (`creation_order_matters`), pass 3
may visit a recreated name again, which configures no file, and a `Configure` may list
its paths in another order. Up to these, `Execute` does the same in every order when no
container is scheduled for removal (`execute_order_independent`): a name keeps exactly
the same entry unless the run created its container (`planView_same_or_created`).
-/

namespace Flexkube

open Exec

variable {H C : Type}

/-! ## Equal up to identifiers -/

/-- The entry with the identifier of its container forgotten. -/
def HostConfiguredContainer.eraseId (r : HostConfiguredContainer H C) :
    HostConfiguredContainer H C :=
  r.withStatus (r.container.status.map fun s => ⟨0, s.running⟩)

/-- Whether an operation does anything: a `Configure` of no file does not. -/
def Event.essential : Event → Bool
  | .configure _ [] => false
  | _ => true

/-- Two operations that agree up to the order of a `Configure`'s paths, which Go takes from
a range over the desired config files. -/
def Event.SamePaths : Event → Event → Prop
  | .configure n fs, .configure n' fs' => n = n' ∧ fs.Perm fs'
  | e, e' => e = e'

theorem Event.SamePaths.refl (e : Event) : e.SamePaths e := by
  cases e <;> simp [Event.SamePaths]

namespace HostConfiguredContainer

variable {c c' : HostConfiguredContainer H C}

@[simp] theorem eraseId_host : c.eraseId.host = c.host := rfl
@[simp] theorem eraseId_config : c.eraseId.container.config = c.container.config := rfl
@[simp] theorem eraseId_configFiles : c.eraseId.configFiles = c.configFiles := rfl

@[simp] theorem eraseId_withStatus (s : Option ContainerStatus) :
    (c.withStatus s).eraseId = c.withStatus (s.map fun s => ⟨0, s.running⟩) := rfl

@[simp] theorem eraseId_withFiles (f : GoMap String) :
    (c.withFiles f).eraseId = c.eraseId.withFiles f := rfl

@[simp] theorem eraseId_started (k : Nat) : (c.started k).eraseId = c.withStatus (some ⟨0, true⟩) :=
  rfl

/-- Entries equal up to identifiers agree on everything but the status. -/
theorem withStatus_eq_of_eraseId (h : c.eraseId = c'.eraseId) (s : Option ContainerStatus) :
    c.withStatus s = c'.withStatus s := by
  have h1 := congrArg HostConfiguredContainer.host h
  have h2 := congrArg (·.container.config) h
  have h3 := congrArg HostConfiguredContainer.configFiles h
  simp only [eraseId_host, eraseId_config, eraseId_configFiles] at h1 h2 h3
  simp [withStatus, h1, h2, h3]

end HostConfiguredContainer

section Plans

open HostConfiguredContainer

variable [DecidableEq H] [DecidableEq C] {n : String} {c c' d d' : HostConfiguredContainer H C}

omit [DecidableEq H] [DecidableEq C] in
theorem filesToUpdate_eraseId (hc : c.eraseId = c'.eraseId) (hd : d.configFiles = d'.configFiles) :
    filesToUpdate d (some c) = filesToUpdate d' (some c') := by
  have h3 := congrArg HostConfiguredContainer.configFiles hc
  simp only [eraseId_configFiles] at h3
  simp only [filesToUpdate, h3, hd]

/-- Pass 3 of one name does the same on entries equal up to identifiers, whatever
identifier a recreation gets. -/
theorem plan3_eraseId (n : String) (hc : c.eraseId = c'.eraseId) (hd : d.eraseId = d'.eraseId)
    (k k' : Nat) :
    (plan3 n c d k).1.eraseId = (plan3 n c' d' k').1.eraseId ∧
      (plan3 n c d k).2.2 = (plan3 n c' d' k').2.2 := by
  have hh : c.host = c'.host := by simpa using congrArg HostConfiguredContainer.host hc
  have hh' : d.host = d'.host := by simpa using congrArg HostConfiguredContainer.host hd
  have hg : c.container.config = c'.container.config := by simpa using congrArg (·.container.config) hc
  have hg' : d.container.config = d'.container.config := by simpa using congrArg (·.container.config) hd
  have hfd : d.configFiles = d'.configFiles := by simpa using congrArg (·.configFiles) hd
  have hfu := filesToUpdate_eraseId hc hfd
  by_cases h1 : c.host = d.host
  · by_cases h2 : c.container.config = d.container.config
    · rw [plan3_noDrift h1 h2, plan3_noDrift (hh ▸ hh' ▸ h1) (hg ▸ hg' ▸ h2)]
      simp [hc, hfd, hfu]
    · rw [plan3_configDrift h1 h2, plan3_configDrift (hh ▸ hh' ▸ h1) (hg ▸ hg' ▸ h2)]
      simp [withStatus_eq_of_eraseId hd, hfu]
  · rw [plan3_hostDrift h1, plan3_hostDrift (hh ▸ hh' ▸ h1)]
    simp [withStatus_eq_of_eraseId hd]

omit [DecidableEq H] [DecidableEq C] in
/-- Pass 2 of one name does the same whatever identifier a creation gets. -/
theorem plan2_eraseId (n : String) (d : HostConfiguredContainer H C)
    (r : Option (HostConfiguredContainer H C)) (k k' : Nat) :
    (plan2 n d r k).1.eraseId = (plan2 n d r k').1.eraseId ∧
      (plan2 n d r k).2.1.eraseId = (plan2 n d r k').2.1.eraseId ∧
      (plan2 n d r k).2.2 = (plan2 n d r k').2.2 := by
  unfold plan2
  split <;> simp

/-- `Execute` of one name ends the same up to identifiers and `Configure`s of no file,
whatever identifiers its creations get and however often pass 3 visits it again. -/
theorem planView_eraseId (n : String) (r d : Option (HostConfiguredContainer H C)) (l : List Event)
    (k₂ k₃ m k₂' k₃' m' : Nat) :
    (planView n r d l k₂ k₃ m).1.map eraseId = (planView n r d l k₂' k₃' m').1.map eraseId ∧
      (planView n r d l k₂ k₃ m).2.2.filter Event.essential =
        (planView n r d l k₂' k₃' m').2.2.filter Event.essential := by
  rcases d with _ | d
  · cases h : (plan1 n r).1 <;> simp [planView, stage2View, h]
  · obtain ⟨h1, h2, h3⟩ := plan2_eraseId n d (plan1 n r).1 k₂ k₂'
    obtain ⟨h4, h5⟩ := plan3_eraseId n h1 h2 k₃ k₃'
    simp [planView, stage2View, plan2View, plan3View, h3, h4, h5, List.filter_replicate,
      Event.essential]

/-- One name's entry ends the same whatever identifiers its creations get, unless the
plan creates a container for it. -/
theorem planView_same_or_created (n : String) (r d : Option (HostConfiguredContainer H C))
    (l : List Event) (k₂ k₃ m k₂' k₃' m' : Nat) :
    (planView n r d l k₂ k₃ m).1 = (planView n r d l k₂' k₃' m').1 ∨
      ∃ es, (planView n r d l k₂ k₃ m).2.2 = l ++ es ∧ Event.createAndStart n ∈ es := by
  rcases d with _ | d
  · left
    cases h : (plan1 n r).1 <;> simp [planView, stage2View, h]
  have hv : ∀ k₂ k₃ m, planView n r (some d) l k₂ k₃ m = plan3View n (plan2 n d (plan1 n r).1 k₂).1
      (plan2 n d (plan1 n r).1 k₂).2.1 (l ++ (plan1 n r).2 ++ (plan2 n d (plan1 n r).1 k₂).2.2) k₃ m :=
    fun _ _ _ => rfl
  simp only [hv, plan3View, List.append_assoc]
  by_cases he : ((plan1 n r).1.getD d).container.exists
  · -- pass 2 creates nothing; pass 3 recreates a drifted container
    have hp : ∀ k, plan2 n d (plan1 n r).1 k = (configuredEntry d (plan1 n r).1, d,
        [.configure n (filesToUpdate d (plan1 n r).1)]) := fun k => by simp [plan2, he]
    simp only [hp]
    by_cases hs : (configuredEntry d (plan1 n r).1).host = d.host ∧
        (configuredEntry d (plan1 n r).1).container.config = d.container.config
    · left
      rw [plan3_noDrift hs.1 hs.2, plan3_noDrift hs.1 hs.2]
    · right
      have hc := (plan3_drift n _ d k₃ (not_and_or.1 hs)).2.2
      have hm : Event.createAndStart n ∈ (plan3 n (configuredEntry d (plan1 n r).1) d k₃).2.2 :=
        List.mem_of_mem_filter (l := _) (p := Event.lifecycle) (by rw [hc]; simp)
      exact ⟨_, rfl, by simp [hm]⟩
  · -- pass 2 creates the container
    right
    exact ⟨_, rfl, by simp [plan2, he]⟩

end Plans

/-! ## `Execute` in two orders -/

section Execute

variable [DecidableEq H] [DecidableEq C]

/-- **Order independence up to identifiers.** With no failing remote operation and no
container scheduled for removal, `Execute` returns `nil` in any two orders Go may take.
The two runs end with the same current entry for every name, but for a name whose
container the run created, where the entries agree up to that container's identifier; and
they issue for each name the same operations, leaving out `Configure`s of no file and up
to the order of a `Configure`'s paths. -/
theorem execute_order_independent {o₁ o₂ : Orders} {c : containers H C} {h : Hosts H C}
    (hcs : c.hasCurrentState) (hf : h.NoFaults) (ho₁ : o₁.Covers (c.world h))
    (ho₂ : o₂.Covers (c.world h)) (hrm : NoRemovals (c.world h)) :
    (c.execute o₁ h).1 = .ok () ∧ (c.execute o₂ h).1 = .ok () ∧ ∀ n,
      ((c.execute o₁ h).2.1.previousState.get n = (c.execute o₂ h).2.1.previousState.get n ∨
        ((c.execute o₁ h).2.1.previousState.get n).map HostConfiguredContainer.eraseId =
          ((c.execute o₂ h).2.1.previousState.get n).map HostConfiguredContainer.eraseId ∧
        ∃ es, (c.execute o₁ h).2.2.log.filter (Event.named n) = h.log.filter (Event.named n) ++ es ∧
          Event.createAndStart n ∈ es) ∧
      List.Forall₂ Event.SamePaths
        (((c.execute o₁ h).2.2.log.filter (Event.named n)).filter Event.essential)
        (((c.execute o₂ h).2.2.log.filter (Event.named n)).filter Event.essential) := by
  rw [containers.execute_of_hasCurrentState hcs, containers.execute_of_hasCurrentState hcs]
  obtain ⟨w₁, hrun₁, -, hv₁⟩ := executePasses_views hf ho₁ hrm
  obtain ⟨w₂, hrun₂, -, hv₂⟩ := executePasses_views hf ho₂ hrm
  rw [containers.run_eq hrun₁, containers.run_eq hrun₂]
  refine ⟨rfl, rfl, fun n => ?_⟩
  obtain ⟨k₂, k₃, m, h₁⟩ := hv₁ n
  obtain ⟨k₂', k₃', m', h₂⟩ := hv₂ n
  simp only [World.view, containers.world_currentState, containers.world_desiredState,
    containers.world_hosts] at h₁ h₂
  have c₁ : w₁.currentState.get n = _ := congrArg Prod.fst h₁
  have c₂ : w₂.currentState.get n = _ := congrArg Prod.fst h₂
  have l₁ : w₁.hosts.log.filter (Event.named n) = _ := congrArg (·.2.2) h₁
  have l₂ : w₂.hosts.log.filter (Event.named n) = _ := congrArg (·.2.2) h₂
  dsimp only
  rw [c₁, c₂, l₁, l₂]
  have e := planView_eraseId n (c.previousState.get n) (c.desiredState.get n)
    (h.log.filter (Event.named n)) k₂ k₃ m k₂' k₃' m'
  refine ⟨(planView_same_or_created n _ _ _ k₂ k₃ m k₂' k₃' m').imp_right fun hc => ⟨e.1, hc⟩, ?_⟩
  rw [e.2]
  exact List.forall₂_same.2 fun x _ => Event.SamePaths.refl x

/-- Hosts with no container, whose runtime numbers containers from `1`. -/
def noContainers : Hosts String String :=
  ⟨fun _ => none, 1, fun _ _ => rfl, fun _ _ => none, [], fun _ => none⟩

/-- The engine before `CheckCurrentState`: nothing is current, and `"a"` and `"b"` are
desired on `"h1"`. -/
def twoToCreate : containers String String :=
  ⟨GoMap.empty, false, GoMap.ofList [("a", ⟨"h1", ⟨"cfg", none⟩, GoMap.empty⟩),
    ("b", ⟨"h1", ⟨"cfg", none⟩, GoMap.empty⟩)]⟩

/-- Creating `"a"` before `"b"` or after it gives `"a"` another identifier: the two orders
end with different current states. -/
theorem creation_order_matters :
    (twoToCreate.checkThenExecute ⟨[], ["a", "b"], ["a", "b"]⟩ noContainers).1 = .ok () ∧
    (twoToCreate.checkThenExecute ⟨[], ["b", "a"], ["b", "a"]⟩ noContainers).1 = .ok () ∧
    ((twoToCreate.checkThenExecute ⟨[], ["a", "b"], ["a", "b"]⟩ noContainers).2.1.previousState.get
      "a").map (·.container.status) ≠
    ((twoToCreate.checkThenExecute ⟨[], ["b", "a"], ["b", "a"]⟩ noContainers).2.1.previousState.get
      "a").map (·.container.status) := by
  decide

/-- The engine `twoToCreate` after `CheckCurrentState`. -/
def twoChecked : containers String String := (twoToCreate.checkCurrentState noContainers).2.1

theorem order_independent_two_creations :
    (twoChecked.hasCurrentState ∧ noContainers.NoFaults ∧
      (⟨[], ["a", "b"], ["a", "b"]⟩ : Orders).Covers (twoChecked.world noContainers) ∧
      (⟨[], ["b", "a"], ["b", "a"]⟩ : Orders).Covers (twoChecked.world noContainers) ∧
      NoRemovals (twoChecked.world noContainers)) ∧
    (twoChecked.execute ⟨[], ["a", "b"], ["a", "b"]⟩ noContainers).1 = .ok () ∧
    (twoChecked.execute ⟨[], ["b", "a"], ["b", "a"]⟩ noContainers).1 = .ok () ∧ ∀ n,
      ((twoChecked.execute ⟨[], ["a", "b"], ["a", "b"]⟩ noContainers).2.1.previousState.get n =
          (twoChecked.execute ⟨[], ["b", "a"], ["b", "a"]⟩ noContainers).2.1.previousState.get n ∨
        ((twoChecked.execute ⟨[], ["a", "b"], ["a", "b"]⟩ noContainers).2.1.previousState.get n).map
            HostConfiguredContainer.eraseId =
          ((twoChecked.execute ⟨[], ["b", "a"], ["b", "a"]⟩ noContainers).2.1.previousState.get n).map
            HostConfiguredContainer.eraseId ∧
        ∃ es, (twoChecked.execute ⟨[], ["a", "b"], ["a", "b"]⟩ noContainers).2.2.log.filter
            (Event.named n) = noContainers.log.filter (Event.named n) ++ es ∧
          Event.createAndStart n ∈ es) ∧
      List.Forall₂ Event.SamePaths
        (((twoChecked.execute ⟨[], ["a", "b"], ["a", "b"]⟩ noContainers).2.2.log.filter
          (Event.named n)).filter Event.essential)
        (((twoChecked.execute ⟨[], ["b", "a"], ["b", "a"]⟩ noContainers).2.2.log.filter
          (Event.named n)).filter Event.essential) :=
  have ho₁ := Orders.covers_of_perm (by decide) (by decide) (by decide)
  have ho₂ := Orders.covers_of_perm (by decide) (by decide) (by decide)
  have hrm : NoRemovals (twoChecked.world noContainers) := fun _ _ hr => by cases hr
  ⟨⟨rfl, fun _ => rfl, ho₁, ho₂, hrm⟩, execute_order_independent rfl (fun _ => rfl) ho₁ ho₂ hrm⟩

end Execute

end Flexkube
