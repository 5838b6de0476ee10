import Flexkube.Controlplane.Defaults

/-!
# What `New` Returns

`Validate` builds the components and checks that each component's `New`, and then each
`ToHostConfiguredContainer`, succeeds. `New` builds them once more and calls the same
functions again, dropping their errors. When `host.BuildConfig` is idempotent for a fixed
default, the second build is the first (`buildComponents_idem`), so these calls run on the
configurations `Validate` accepted, none panics, and the desired state `New` hands the engine
holds the three containers they return (`new_of_validate`).

`Validate` does not look at `c.State`, though, and `New` drops the error of the engine's
`New` too: a state entry that `HostConfiguredContainer.New` rejects gives a resource with no
containers, and no error (`new_drops_invalid_state`).
-/

namespace Flexkube

namespace Controlplane

variable {Host SSH H C : Type} {deps : Deps Host SSH H C}

/-! ## `Validate` -/

/-- `Validate` accepts exactly when the built components' `New` and then
`ToHostConfiguredContainer` all succeed; it leaves `c` built. -/
theorem validate_ok {c : Controlplane Host SSH H C}
    (hv : (c.validate deps).map Prod.fst = some (.ok ())) :
    c.validate deps = some (.ok (), c.built deps) ∧
      (∃ k, deps.newKubeAPIServer (c.built deps).kubeAPIServer = .ok (.ok k)) ∧
      (∃ k, deps.newKubeControllerManager (c.built deps).kubeControllerManager = .ok (.ok k)) ∧
      (∃ k, deps.newKubeScheduler (c.built deps).kubeScheduler = .ok (.ok k)) := by
  simp only [validate, buildComponents_eq, Option.bind_eq_bind, Option.some_bind] at hv ⊢
  generalize deps.newKubeAPIServer _ = kas at hv ⊢
  generalize deps.newKubeControllerManager _ = kcm at hv ⊢
  generalize deps.newKubeScheduler _ = ks at hv ⊢
  rcases kas with _ | _ | _ <;> rcases kcm with _ | _ | _ <;> rcases ks with _ | _ | _ <;>
    simp_all [errorOf, returnErrors]

/-! ## `New` -/

/-- **`New` after a successful `Validate`.** With `host.BuildConfig` idempotent for a fixed
default, `New` calls the components' functions on the configurations `Validate` accepted,
and returns a resource whose engine is `Containers.New` of `c.State` and of the three
containers they return; it never panics, and leaves `c` built. -/
theorem new_of_validate (hb : deps.BuildIdem) {c : Controlplane Host SSH H C}
    (hv : (c.validate deps).map Prod.fst = some (.ok ())) :
    ∃ kas kcm ks, deps.newKubeAPIServer (c.built deps).kubeAPIServer = .ok (.ok kas) ∧
      deps.newKubeControllerManager (c.built deps).kubeControllerManager = .ok (.ok kcm) ∧
      deps.newKubeScheduler (c.built deps).kubeScheduler = .ok (.ok ks) ∧
      c.new deps = some (.ok ⟨(Containers.new deps.validateHcc ⟨some (c.state.getD GoMap.empty),
        some (GoMap.ofList [("kube-apiserver", kas), ("kube-controller-manager", kcm),
          ("kube-scheduler", ks)])⟩).toOption⟩, c.built deps) := by
  obtain ⟨hval, ⟨kas, h1⟩, ⟨kcm, h2⟩, ⟨ks, h3⟩⟩ := validate_ok hv
  refine ⟨kas, kcm, ks, h1, h2, h3, ?_⟩
  simp only [new, hval, buildComponents_eq, built_built hb, h1, h2, h3, Option.bind_eq_bind,
    Option.some_bind]
  rfl

/-- **An invalid state entry empties the resource.** With `host.BuildConfig` idempotent for
a fixed default, a controlplane that `Validate` accepts but whose `State` holds an entry that
`HostConfiguredContainer.New` rejects makes `New` return, with no error, a resource with no
containers, so with no desired state. -/
theorem new_drops_invalid_state (hb : deps.BuildIdem) {c : Controlplane Host SSH H C}
    {s : ContainersState H C} {n : String} {r : HostConfiguredContainer H C} {e : String}
    (hv : (c.validate deps).map Prod.fst = some (.ok ())) (hs : c.state = some s)
    (hr : s.get n = some r) (he : deps.validateHcc r = .error e) :
    c.new deps = some (.ok ⟨none⟩, c.built deps) := by
  obtain ⟨kas, kcm, ks, -, -, -, hn⟩ := new_of_validate hb hv
  obtain ⟨e', he'⟩ := Containers.new_error_of_previous deps.validateHcc hr he
    (some (GoMap.ofList [("kube-apiserver", kas), ("kube-controller-manager", kcm),
      ("kube-scheduler", ks)]))
  rw [hn, hs, Option.getD_some, he']
  rfl

end Controlplane

/-- A kube-apiserver entry written before, which names no image. -/
def staleEntry : HostConfiguredContainer String String :=
  ⟨"controller", ⟨"", some ⟨1, true⟩⟩, GoMap.empty⟩

/-- `sharedOnly` with a state holding `staleEntry`. -/
def staleImage : Controlplane Unit Unit String String :=
  { sharedOnly with state := some (GoMap.ofList [("kube-apiserver", staleEntry)]) }

theorem staleImage_new_without_containers :
    (imageDeps.BuildIdem ∧ (staleImage.validate imageDeps).map Prod.fst = some (.ok ()) ∧
      staleImage.state = some (GoMap.ofList [("kube-apiserver", staleEntry)]) ∧
      (GoMap.ofList [("kube-apiserver", staleEntry)]).get "kube-apiserver" = some staleEntry ∧
      imageDeps.validateHcc staleEntry = .error "no image") ∧
    staleImage.new imageDeps = some (.ok ⟨none⟩, staleImage.built imageDeps) :=
  ⟨⟨fun _ _ => rfl, rfl, rfl, rfl, rfl⟩, Controlplane.new_drops_invalid_state (fun _ _ => rfl) rfl rfl
    (show (GoMap.ofList [("kube-apiserver", staleEntry)]).get "kube-apiserver" = some staleEntry from rfl)
    rfl⟩

end Flexkube
