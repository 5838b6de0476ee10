import Flexkube.Controlplane.Build

/-!
# What `buildComponents` Fills In

`Controlplane.built` states in one piece what `buildComponents` leaves: the controlplane
gets a `Common`, every empty setting of a component is taken from the controlplane, and
every component gets a host completed with the controlplane's SSH config
(`buildComponents_eq`). It never panics, although `propagateKubeconfig` reads `c.Common`
unchecked: the API server is built first and gives `c` a `Common`.

A component without a `Common` keeps none (`buildComponents_keeps_nil_common`):
`propagateCommon` fills a fresh `Common{}` that it then drops.

Building twice builds once when `host.BuildConfig` is idempotent for a fixed default
(`buildComponents_idem`), so `New` builds the very components `Validate` accepted.
-/

namespace Flexkube

variable {Host SSH H C : Type}

/-! ## The settings a component inherits -/

/-- A component's `Common` with its empty fields taken from `cc`. -/
def Common.inherit (co cc : Common) : Common :=
  ⟨pickString co.image cc.image, pickString co.kubernetesCACertificate cc.kubernetesCACertificate,
    pickString co.frontProxyCACertificate cc.frontProxyCACertificate⟩

@[simp] theorem pickString_pickString (a b : String) : pickString (pickString a b) b = pickString a b := by
  unfold pickString; split_ifs <;> simp_all

/-- Filling an empty field only from a non-empty default is filling it whenever it is
empty: an empty default leaves the empty field as it is. -/
theorem ite_and_ne_eq {α : Type} [DecidableEq α] (x y z : α) :
    (if x = z ∧ y ≠ z then y else x) = if x = z then y else x := by
  by_cases hx : x = z <;> by_cases hy : y = z <;> simp [hx, hy]

@[simp] theorem Common.inherit_inherit (co cc : Common) : (co.inherit cc).inherit cc = co.inherit cc := by
  simp [Common.inherit]

/-- `host.BuildConfig` completing a host a second time with the same defaults changes
nothing. -/
def Deps.BuildIdem (deps : Deps Host SSH H C) : Prop :=
  ∀ h s, deps.buildConfig (deps.buildConfig h (deps.sshHost s)) (deps.sshHost s) =
    deps.buildConfig h (deps.sshHost s)

namespace Controlplane

variable (deps : Deps Host SSH H C)

/-- The settings shared by the components after `buildComponents`: `c.Common`, or
`Common{}` when it is nil. -/
def sharedCommon (c : Controlplane Host SSH H C) : Common := c.common.getD default

/-- The kubeconfig `propagateKubeconfig` leaves. -/
def inheritKubeconfig (c : Controlplane Host SSH H C) (d : Kubeconfig) : Kubeconfig :=
  ⟨if c.apiServerAddress ≠ "" ∧ c.apiServerPort ≠ 0 then
      pickString d.server (c.apiServerAddress ++ ":" ++ toString c.apiServerPort)
    else d.server,
   pickString d.caCertificate c.sharedCommon.kubernetesCACertificate⟩

/-- A component with a kubeconfig, as `buildComponents` leaves it. -/
def inheritComponent (c : Controlplane Host SSH H C) (k : KubeconfigComponent Host) :
    KubeconfigComponent Host :=
  ⟨k.common.map (·.inherit c.sharedCommon), some (c.propagateHost deps k.host),
    c.inheritKubeconfig k.kubeconfig⟩

/-- The API server as `buildComponents` leaves it. -/
def inheritAPIServer (c : Controlplane Host SSH H C) (k : KubeAPIServer Host) : KubeAPIServer Host :=
  ⟨k.common.map (·.inherit c.sharedCommon), some (c.propagateHost deps k.host),
    pickString k.bindAddress c.apiServerAddress, pickString k.advertiseAddress c.apiServerAddress,
    if k.securePort = 0 then c.apiServerPort else k.securePort⟩

/-- The controlplane as `buildComponents` leaves it. -/
def built (c : Controlplane Host SSH H C) : Controlplane Host SSH H C :=
  { c with
    common := some c.sharedCommon
    kubeAPIServer := c.inheritAPIServer deps c.kubeAPIServer
    kubeControllerManager := c.inheritComponent deps c.kubeControllerManager
    kubeScheduler := c.inheritComponent deps c.kubeScheduler }

/-! ## `buildComponents` in closed form -/

theorem propagateCommon_eq (c : Controlplane Host SSH H C) (co : Option Common) :
    c.propagateCommon co = ({ c with common := some c.sharedCommon },
      co.map (·.inherit c.sharedCommon)) := by
  cases c with
  | mk common => cases common <;> simp [propagateCommon, sharedCommon, Common.inherit]

theorem propagateKubeconfig_of_common {c : Controlplane Host SSH H C} (h : c.common.isSome)
    (d : Kubeconfig) : c.propagateKubeconfig d = some (c.inheritKubeconfig d) := by
  obtain ⟨cc, hc⟩ := Option.isSome_iff_exists.1 h
  simp only [propagateKubeconfig, inheritKubeconfig, sharedCommon, hc, Option.map_some',
    Option.getD_some]
  split_ifs <;> rfl

theorem buildKubeAPIServer_eq (c : Controlplane Host SSH H C) :
    c.buildKubeAPIServer deps = { c with
      common := some c.sharedCommon, kubeAPIServer := c.inheritAPIServer deps c.kubeAPIServer } := by
  -- push each field read through the three fills, then compare field by field
  simp only [buildKubeAPIServer, propagateCommon_eq, inheritAPIServer, pickString,
    apply_ite KubeAPIServer.bindAddress, apply_ite KubeAPIServer.advertiseAddress,
    apply_ite KubeAPIServer.securePort, apply_ite KubeAPIServer.common, apply_ite KubeAPIServer.host,
    ite_self, ite_and_ne_eq]
  rfl

theorem buildKubeconfigComponent_of_common {c : Controlplane Host SSH H C} (h : c.common.isSome)
    (k : KubeconfigComponent Host) :
    c.buildKubeconfigComponent deps k = some (c, c.inheritComponent deps k) := by
  have hc : { c with common := some c.sharedCommon } = c := by
    cases c with
    | mk common => cases common <;> simp_all [sharedCommon]
  simp [buildKubeconfigComponent, propagateKubeconfig_of_common h, propagateCommon_eq, hc,
    inheritComponent]

/-- **`buildComponents` in closed form.** It never panics, and leaves `built`. -/
theorem buildComponents_eq (c : Controlplane Host SSH H C) :
    c.buildComponents deps = some (c.built deps) := by
  rw [buildComponents, buildKubeAPIServer_eq]
  simp only [buildKubeControllerManager, buildKubeScheduler, buildKubeconfigComponent_of_common deps,
    Option.isSome_some, Option.bind_eq_bind, Option.pure_def, Option.some_bind]
  rfl

/-- **A component without a `Common` keeps none.** `buildComponents` succeeds, and the
settings the controlplane shares are lost for such a component. -/
theorem buildComponents_keeps_nil_common (c : Controlplane Host SSH H C) :
    ∃ c', c.buildComponents deps = some c' ∧
      (c.kubeAPIServer.common = none → c'.kubeAPIServer.common = none) ∧
      (c.kubeControllerManager.common = none → c'.kubeControllerManager.common = none) ∧
      (c.kubeScheduler.common = none → c'.kubeScheduler.common = none) :=
  ⟨_, buildComponents_eq deps c, fun h => by simp [built, inheritAPIServer, h],
    fun h => by simp [built, inheritComponent, h], fun h => by simp [built, inheritComponent, h]⟩

/-! ## Building twice -/

theorem built_built {deps : Deps Host SSH H C} (hb : deps.BuildIdem) (c : Controlplane Host SSH H C) :
    (c.built deps).built deps = c.built deps := by
  have hb' : ∀ h s, deps.buildConfig (deps.buildConfig h (deps.sshHost s)) (deps.sshHost s) =
    deps.buildConfig h (deps.sshHost s) := hb
  simp only [built, inheritAPIServer, inheritComponent, inheritKubeconfig, sharedCommon, propagateHost,
    Option.getD_some, Option.map_map, Function.comp_def, Common.inherit_inherit, pickString_pickString,
    hb']
  by_cases hA : c.apiServerAddress ≠ "" ∧ c.apiServerPort ≠ 0 <;>
    by_cases hp : c.kubeAPIServer.securePort = 0 <;> simp [hA, hp]

/-- **Building twice builds once**, when `host.BuildConfig` is idempotent for a fixed
default. -/
theorem buildComponents_idem {deps : Deps Host SSH H C} (hb : deps.BuildIdem)
    (c : Controlplane Host SSH H C) :
    (c.buildComponents deps).bind (buildComponents deps) = c.buildComponents deps := by
  simp [buildComponents_eq, built_built hb]

end Controlplane

/-! ## A controlplane of shared settings -/

/-- Dependencies with one host and nothing to complete in it, whose components all build,
and whose validation of a container, standing for `HostConfiguredContainer.New`, rejects
one with no image. -/
def imageDeps : Deps Unit Unit String String where
  emptyHost := ()
  sshHost _ := ()
  buildConfig h _ := h
  newKubeAPIServer _ := .ok (.ok ⟨"controller", ⟨"kube-apiserver", none⟩, GoMap.empty⟩)
  newKubeControllerManager _ := .ok (.ok ⟨"controller", ⟨"kube-controller-manager", none⟩, GoMap.empty⟩)
  newKubeScheduler _ := .ok (.ok ⟨"controller", ⟨"kube-scheduler", none⟩, GoMap.empty⟩)
  validateHcc r := if r.container.config = "" then .error "no image" else .ok ()
  joinErrors := String.intercalate "\n"

/-- A controlplane whose settings are all shared: no component has a `Common` of its own. -/
def sharedOnly : Controlplane Unit Unit String String :=
  ⟨some ⟨"kube-image", "kubernetes-ca", "front-proxy-ca"⟩, none, "10.0.0.1", 6443,
    ⟨none, none, "", "", 0⟩, ⟨none, none, ⟨"", ""⟩⟩, ⟨none, none, ⟨"", ""⟩⟩, none⟩

/-- The components of `sharedOnly` get no image nor CA certificates. -/
theorem sharedOnly_components_without_common :
    ∃ c', sharedOnly.buildComponents imageDeps = some c' ∧ c'.kubeAPIServer.common = none ∧
      c'.kubeControllerManager.common = none ∧ c'.kubeScheduler.common = none :=
  let ⟨c', hc, h1, h2, h3⟩ := Controlplane.buildComponents_keeps_nil_common imageDeps sharedOnly
  ⟨c', hc, h1 rfl, h2 rfl, h3 rfl⟩

end Flexkube
