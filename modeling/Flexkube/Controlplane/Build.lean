import Flexkube.Container.Containers

/-!
# The Controlplane Configuration

`pkg/controlplane`. A user's `Controlplane` holds settings shared by the three components
(kube-apiserver, kube-controller-manager, kube-scheduler) next to each component's own
settings. `buildComponents` copies the shared settings into every component that leaves
them empty; `Validate` builds the components and checks that each yields a container;
`New` builds them again and makes their containers the desired state of a `Containers`
engine.

Only the fields these functions read or write are modelled. A Go pointer that may be nil
is an `Option`; reading a field through a nil pointer panics, and a function that may do
so returns an `Option`, `none` standing for the panic.

The packages the controlplane calls are not under `src/` and are parameters (`Deps`):
`host.Host{}`, `host.Host{SSHConfig: ...}` and `host.BuildConfig`; each component's `New`
together with `ToHostConfiguredContainer` of what it returns; `HostConfiguredContainer.New`;
and the message `util.ValidateError` returns. `util.PickString` is `pickString`.
-/

namespace Flexkube

/-! ## Configuration -/

/-- `Common`: the settings shared by the components. -/
structure Common where
  image : String
  kubernetesCACertificate : String
  frontProxyCACertificate : String
deriving DecidableEq, Repr

/-- `Common{}`. -/
instance : Inhabited Common := ⟨⟨"", "", ""⟩⟩

/-- `client.Config`: the kubeconfig of a component talking to the API server. -/
structure Kubeconfig where
  server : String
  caCertificate : String
deriving DecidableEq, Repr

/-- `KubeAPIServer`. -/
structure KubeAPIServer (Host : Type) where
  common : Option Common
  host : Option Host
  bindAddress : String
  advertiseAddress : String
  securePort : Int
deriving DecidableEq

/-- `KubeControllerManager` and `KubeScheduler`: a component with a kubeconfig. -/
structure KubeconfigComponent (Host : Type) where
  common : Option Common
  host : Option Host
  kubeconfig : Kubeconfig
deriving DecidableEq

/-- `Controlplane`. -/
structure Controlplane (Host SSH H C : Type) where
  common : Option Common
  ssh : Option SSH
  apiServerAddress : String
  apiServerPort : Int
  kubeAPIServer : KubeAPIServer Host
  kubeControllerManager : KubeconfigComponent Host
  kubeScheduler : KubeconfigComponent Host
  state : Option (ContainersState H C)

/-- What the controlplane calls of packages not under `src/`. -/
structure Deps (Host SSH H C : Type) where
  /-- `host.Host{}` -/
  emptyHost : Host
  /-- `host.Host{SSHConfig: ssh}` -/
  sshHost : Option SSH → Host
  /-- `host.BuildConfig` -/
  buildConfig : Host → Host → Host
  /-- `KubeAPIServer.New`, with `ToHostConfiguredContainer` of the value it returns -/
  newKubeAPIServer : KubeAPIServer Host → Except String (Except String (HostConfiguredContainer H C))
  /-- `KubeControllerManager.New`, with `ToHostConfiguredContainer` -/
  newKubeControllerManager :
    KubeconfigComponent Host → Except String (Except String (HostConfiguredContainer H C))
  /-- `KubeScheduler.New`, with `ToHostConfiguredContainer` -/
  newKubeScheduler :
    KubeconfigComponent Host → Except String (Except String (HostConfiguredContainer H C))
  /-- `HostConfiguredContainer.New` -/
  validateHcc : HostConfiguredContainer H C → Except String Unit
  /-- the message of a non-empty `util.ValidateError` -/
  joinErrors : List String → String

/-- `util.PickString`, of two values: the first that is not empty. -/
def pickString (a b : String) : String := if a = "" then b else a

/-! ## Building the components -/

namespace Controlplane

variable {Host SSH H C : Type} (deps : Deps Host SSH H C)

/-- `propagateKubeconfig`: fill the empty CA certificate and server of `d`. Reads
`c.Common` without checking it, so panics when it is nil. -/
def propagateKubeconfig (c : Controlplane Host SSH H C) (d : Kubeconfig) : Option Kubeconfig :=
  c.common.map fun co =>
    let d := { d with caCertificate := pickString d.caCertificate co.kubernetesCACertificate }
    if c.apiServerAddress ≠ "" ∧ c.apiServerPort ≠ 0 then
      { d with server := pickString d.server (c.apiServerAddress ++ ":" ++ toString c.apiServerPort) }
    else d

/-- `propagateHost`: the component's host, or `Host{}`, completed with `c.SSH`. -/
def propagateHost (c : Controlplane Host SSH H C) (h : Option Host) : Host :=
  deps.buildConfig (h.getD deps.emptyHost) (deps.sshHost c.ssh)

/-- `propagateCommon`: give `c` a `Common` if it has none, and fill the empty fields of the
component's `Common` `co` from it. Go fills a fresh `Common{}` when `co` is nil, through the
parameter `co` only, so a component without a `Common` keeps none. -/
def propagateCommon (c : Controlplane Host SSH H C) (co : Option Common) :
    Controlplane Host SSH H C × Option Common :=
  let c := if c.common.isNone then { c with common := some default } else c
  let cc := c.common.getD default
  (c, co.map fun co => ⟨pickString co.image cc.image,
    pickString co.kubernetesCACertificate cc.kubernetesCACertificate,
    pickString co.frontProxyCACertificate cc.frontProxyCACertificate⟩)

/-- The body shared by `buildKubeScheduler` and `buildKubeControllerManager`, for the
component `k`: the controlplane after it and the component it builds. -/
def buildKubeconfigComponent (c : Controlplane Host SSH H C) (k : KubeconfigComponent Host) :
    Option (Controlplane Host SSH H C × KubeconfigComponent Host) := do
  let kubeconfig ← c.propagateKubeconfig k.kubeconfig
  let (c, common) := c.propagateCommon k.common
  pure (c, ⟨common, some (c.propagateHost deps k.host), kubeconfig⟩)

/-- `buildKubeScheduler`. -/
def buildKubeScheduler (c : Controlplane Host SSH H C) : Option (Controlplane Host SSH H C) := do
  let (c, k) ← c.buildKubeconfigComponent deps c.kubeScheduler
  pure { c with kubeScheduler := k }

/-- `buildKubeControllerManager`. -/
def buildKubeControllerManager (c : Controlplane Host SSH H C) :
    Option (Controlplane Host SSH H C) := do
  let (c, k) ← c.buildKubeconfigComponent deps c.kubeControllerManager
  pure { c with kubeControllerManager := k }

/-- `buildKubeAPIServer`. -/
def buildKubeAPIServer (c : Controlplane Host SSH H C) : Controlplane Host SSH H C :=
  let k := c.kubeAPIServer
  let k := if k.bindAddress = "" ∧ c.apiServerAddress ≠ "" then
    { k with bindAddress := c.apiServerAddress } else k
  let k := if k.advertiseAddress = "" ∧ c.apiServerAddress ≠ "" then
    { k with advertiseAddress := c.apiServerAddress } else k
  let k := if k.securePort = 0 ∧ c.apiServerPort ≠ 0 then { k with securePort := c.apiServerPort } else k
  let (c, common) := c.propagateCommon k.common
  { c with kubeAPIServer := { k with common := common, host := some (c.propagateHost deps k.host) } }

/-- `buildComponents`. -/
def buildComponents (c : Controlplane Host SSH H C) : Option (Controlplane Host SSH H C) :=
  (c.buildKubeAPIServer deps).buildKubeControllerManager deps >>= buildKubeScheduler deps

/-! ## `Validate` and `New` -/

/-- The message `fmt.Errorf(msg + "%w", err)` adds to a `ValidateError`, if `x` failed. -/
def errorOf {α : Type} (msg : String) : Except String α → List String
  | .error e => [msg ++ e]
  | .ok _ => []

/-- `ValidateError.Return`: `nil` for no error. -/
def returnErrors (errors : List String) : Except String Unit :=
  if errors = [] then .ok () else .error (deps.joinErrors errors)

/-- `Validate`: build the components (keeping what that wrote into `c`), then check that
each component's `New` and then each `ToHostConfiguredContainer` succeeds. -/
def validate (c : Controlplane Host SSH H C) :
    Option (Except String Unit × Controlplane Host SSH H C) := do
  let c ← c.buildComponents deps
  let kas := deps.newKubeAPIServer c.kubeAPIServer
  let kcm := deps.newKubeControllerManager c.kubeControllerManager
  let ks := deps.newKubeScheduler c.kubeScheduler
  let errors := errorOf "failed to verify kube-apiserver configuration: " kas ++
    errorOf "failed to verify kube-controller-manager: " kcm ++
    errorOf "failed to verify kube-scheduler configuration: " ks
  if errors ≠ [] then return (returnErrors deps errors, c)
  let built {α : Type} (msg : String) : Except String (Except String α) → List String
    | .ok r => errorOf msg r
    | .error _ => []
  pure (returnErrors deps (built "failed to build kube-apiserver container configuration: " kas ++
    built "failed to build kube-controller-manager container configuration: " kcm ++
    built "failed to build kube-scheduler container configuration: " ks), c)

end Controlplane

/-- `controlplane`, the resource `New` returns; a nil `containers` is `none`. -/
structure controlplane (H C : Type) where
  containers : Option (containers H C)

namespace Controlplane

variable {Host SSH H C : Type} [DecidableEq H] [DecidableEq C] (deps : Deps Host SSH H C)

/-- `New`: validate, build the components again, and make their containers the desired
state of an engine whose previous state is `c.State`. The errors of the components' `New`
and `ToHostConfiguredContainer` and of the engine's `New` are not checked: calling
`ToHostConfiguredContainer` on what a failed `New` returned, or validating the nil
container a failed `ToHostConfiguredContainer` returned, panics, and a failed engine `New`
leaves `containers` nil. (`New` first also builds an engine of the previous state alone,
which it then replaces; that has no effect.) -/
def new (c : Controlplane Host SSH H C) :
    Option (Except String (controlplane H C) × Controlplane Host SSH H C) := do
  let (r, c) ← c.validate deps
  match r with
  | .error e => pure (.error ("failed to validate controlplane configuration: " ++ e), c)
  | .ok () =>
    let s := c.state.getD GoMap.empty
    let c ← c.buildComponents deps
    let kasHcc ← (deps.newKubeAPIServer c.kubeAPIServer).toOption >>= Except.toOption
    let kcmHcc ← (deps.newKubeControllerManager c.kubeControllerManager).toOption >>= Except.toOption
    let ksHcc ← (deps.newKubeScheduler c.kubeScheduler).toOption >>= Except.toOption
    let cc : Containers H C := ⟨some s, some (GoMap.ofList [("kube-apiserver", kasHcc),
      ("kube-controller-manager", kcmHcc), ("kube-scheduler", ksHcc)])⟩
    pure (.ok ⟨(cc.new deps.validateHcc).toOption⟩, c)

end Controlplane

end Flexkube
