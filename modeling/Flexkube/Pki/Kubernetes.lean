import Flexkube.Pki.Certificate

/-!
# The Kubernetes PKI

`pkg/pki`'s `Kubernetes` holds the two CAs of a Kubernetes cluster and the seven
certificates issued under them. `Generate` asks `buildAndGenerate` first for the CAs,
signed by the caller's root CA, and then for the seven leaves, signed by the CAs.

Go hands a request pointers into the `Kubernetes` value: the target, and the CA. Here the
nine certificates a request can point to are the slots `Slot`, and a CA is either the
caller's root CA or a slot. A nil root CA makes the CAs self-signed.

`buildAndGenerate` is not under `src/` and is modelled from the spec (§4.6): it realizes
the requests in an order where each comes after the request that targets its CA, rejects a
cycle, skips a target that carries key and certificate material, and rejects a CA that
carries none. New keys are numbered from `nextKey` on.
-/

namespace Flexkube

namespace Pki

open Exec

/-! ## The certificates of a cluster -/

/-- `KubeAPIServer`: the settings and the certificates of the API server. -/
structure KubeAPIServer where
  certificate : Certificate
  externalNames : List String
  serverIPs : List String
  serverCertificate : Option Certificate
  kubeletCertificate : Option Certificate
  frontProxyClientCertificate : Option Certificate
deriving DecidableEq, Repr

/-- `Kubernetes`: settings shared by all certificates, the CAs and the leaves. -/
structure Kubernetes where
  certificate : Certificate
  ca : Option Certificate
  frontProxyCA : Option Certificate
  kubeAPIServer : Option KubeAPIServer
  adminCertificate : Option Certificate
  kubeControllerManagerCertificate : Option Certificate
  kubeSchedulerCertificate : Option Certificate
  serviceAccountCertificate : Option Certificate
deriving DecidableEq, Repr

/-- `Kubernetes{}`. -/
instance : Inhabited Kubernetes := ⟨⟨default, none, none, none, none, none, none, none⟩⟩

/-- The certificates of a `Kubernetes` a request can target or be signed by. -/
inductive Slot where
  | ca
  | frontProxyCA
  | server
  | kubelet
  | frontProxyClient
  | admin
  | controllerManager
  | scheduler
  | serviceAccount
deriving DecidableEq, Repr

namespace Slot

/-- The slots held by `KubeAPIServer`, which exist only when it is not nil. -/
def inAPIServer : Slot → Bool
  | server | kubelet | frontProxyClient => true
  | _ => false

/-- The CA a leaf is issued under; `none` for the two CAs. -/
def issuer : Slot → Option Slot
  | ca | frontProxyCA => none
  | frontProxyClient => some frontProxyCA
  | _ => some ca

end Slot

namespace Kubernetes

/-- The certificate a slot points to; `none` for a nil pointer. -/
def get (k : Kubernetes) : Slot → Option Certificate
  | .ca => k.ca
  | .frontProxyCA => k.frontProxyCA
  | .server => k.kubeAPIServer.bind (·.serverCertificate)
  | .kubelet => k.kubeAPIServer.bind (·.kubeletCertificate)
  | .frontProxyClient => k.kubeAPIServer.bind (·.frontProxyClientCertificate)
  | .admin => k.adminCertificate
  | .controllerManager => k.kubeControllerManagerCertificate
  | .scheduler => k.kubeSchedulerCertificate
  | .serviceAccount => k.serviceAccountCertificate

/-- Make a slot point to `c`. A slot of a nil `KubeAPIServer` is never written. -/
def set (k : Kubernetes) : Slot → Certificate → Kubernetes
  | .ca, c => { k with ca := some c }
  | .frontProxyCA, c => { k with frontProxyCA := some c }
  | .server, c => { k with kubeAPIServer := k.kubeAPIServer.map ({ · with serverCertificate := some c }) }
  | .kubelet, c => { k with kubeAPIServer := k.kubeAPIServer.map ({ · with kubeletCertificate := some c }) }
  | .frontProxyClient, c =>
    { k with kubeAPIServer := k.kubeAPIServer.map ({ · with frontProxyClientCertificate := some c }) }
  | .admin, c => { k with adminCertificate := some c }
  | .controllerManager, c => { k with kubeControllerManagerCertificate := some c }
  | .scheduler, c => { k with kubeSchedulerCertificate := some c }
  | .serviceAccount, c => { k with serviceAccountCertificate := some c }

/-- Change every certificate the slots point to. -/
def map (f : Slot → Certificate → Certificate) (k : Kubernetes) : Kubernetes :=
  { k with
    ca := k.ca.map (f .ca)
    frontProxyCA := k.frontProxyCA.map (f .frontProxyCA)
    kubeAPIServer := k.kubeAPIServer.map fun a => { a with
      serverCertificate := a.serverCertificate.map (f .server)
      kubeletCertificate := a.kubeletCertificate.map (f .kubelet)
      frontProxyClientCertificate := a.frontProxyClientCertificate.map (f .frontProxyClient) }
    adminCertificate := k.adminCertificate.map (f .admin)
    kubeControllerManagerCertificate := k.kubeControllerManagerCertificate.map (f .controllerManager)
    kubeSchedulerCertificate := k.kubeSchedulerCertificate.map (f .scheduler)
    serviceAccountCertificate := k.serviceAccountCertificate.map (f .serviceAccount) }

/-- The slot can be written: it is not one of a nil `KubeAPIServer`. -/
def hasSlot (k : Kubernetes) (s : Slot) : Bool := !s.inAPIServer || k.kubeAPIServer.isSome

variable {k : Kubernetes} {s t : Slot} {c : Certificate}

theorem get_set (k : Kubernetes) (s t : Slot) (c : Certificate) :
    (k.set s c).get t = if t = s ∧ k.hasSlot s then some c else k.get t := by
  -- with every field a variable, both sides compute for each pair of slots
  obtain ⟨_, _, _, kas, _, _, _, _⟩ := k
  cases kas <;> cases s <;> cases t <;> rfl

@[simp] theorem get_set_self (h : k.hasSlot s) : (k.set s c).get s = some c := by
  simp [get_set, h]

@[simp] theorem get_set_ne (h : t ≠ s) : (k.set s c).get t = k.get t := by
  simp [get_set, h]

@[simp] theorem get_map (f : Slot → Certificate → Certificate) (s : Slot) :
    (k.map f).get s = (k.get s).map (f s) := by
  cases s <;> cases hk : k.kubeAPIServer <;> simp [get, map, hk]

@[simp] theorem hasSlot_set : (k.set s c).hasSlot t = k.hasSlot t := by
  cases s <;> cases hk : k.kubeAPIServer <;> simp [hasSlot, set, hk]

@[simp] theorem hasSlot_map (f : Slot → Certificate → Certificate) : (k.map f).hasSlot t = k.hasSlot t := by
  cases hk : k.kubeAPIServer <;> simp [hasSlot, map, hk]

/-- A slot that points to a certificate can be written. -/
theorem hasSlot_of_get (h : (k.get s).isSome) : k.hasSlot s := by
  cases s <;> cases hk : k.kubeAPIServer <;> simp_all [get, hasSlot, Slot.inAPIServer]

end Kubernetes

/-! ## Certificate requests -/

/-- What a request's CA pointer points to. -/
inductive CARef where
  | root
  | slot (s : Slot)
deriving DecidableEq, Repr

/-- The state `Generate` works on: the `Kubernetes` value it fills, the caller's root CA
(`none` for nil), and the first key number not used yet. -/
structure PKIState where
  kubernetes : Kubernetes
  rootCA : Option Certificate
  nextKey : Nat

/-- The certificate a CA pointer points to. -/
def PKIState.lookup (st : PKIState) : CARef → Option Certificate
  | .root => st.rootCA
  | .slot s => st.kubernetes.get s

/-- `certificateRequest`: the target, its CA, and the chain its settings are inherited from,
without the target, which Go puts last. -/
structure certificateRequest where
  target : Slot
  ca : CARef
  certificates : List Certificate

/-- Modelled from the spec (§4.6): the key a request for a new key `key` is signed with: its
CA's, or `key` itself when the CA is nil; `none` for a CA without material. -/
def PKIState.signerFor (st : PKIState) (ca : CARef) (key : Nat) : Option Nat :=
  match st.lookup ca with
  | none => some key
  | some ca => ca.signingKey

/-- Modelled from the spec (§4.6): realize one request. A target that carries key and
certificate material is skipped. Otherwise it gets the settings of its chain followed by
itself, a new key, and a certificate of that key signed as `signerFor` says; a CA without
material is rejected. -/
def realize (r : certificateRequest) : Exec PKIState Unit := do
  let st ← get
  let t := (st.kubernetes.get r.target).getD default
  if t.resolved then return ()
  match st.signerFor r.ca st.nextKey with
  | none => fail "unresolved-ca"
  | some signer => modify fun st => { st with
      kubernetes := st.kubernetes.set r.target
        ((buildCertificate (r.certificates ++ [t])).issue st.nextKey signer)
      nextKey := st.nextKey + 1 }

/-- A request waits for another request of `rs` that targets its CA. -/
def waitsFor (rs : List certificateRequest) (r : certificateRequest) : Bool :=
  match r.ca with
  | .root => false
  | .slot s => rs.any (·.target == s)

/-- The first request of `rs` that waits for none of `pending`, and `rs` without it. -/
def takeReady (pending : List certificateRequest) :
    List certificateRequest → Option (certificateRequest × List certificateRequest)
  | [] => none
  | r :: rs => if waitsFor pending r then (takeReady pending rs).map fun p => (p.1, r :: p.2)
    else some (r, rs)

/-- Modelled from the spec (§4.6): the requests in an order where each comes after every
request that targets its CA, or `none` for a cycle. Each round takes the first request that
waits for none of those left. -/
def topologicalOrder : Nat → List certificateRequest → Option (List certificateRequest)
  | _, [] => some []
  | 0, _ :: _ => none
  | fuel + 1, rs@(_ :: _) => match takeReady rs rs with
    | none => none
    | some (r, rest) => (topologicalOrder fuel rest).map (r :: ·)

/-- Modelled from the spec (§4.6): `buildAndGenerate`. -/
def buildAndGenerate (rs : List certificateRequest) : Exec PKIState Unit :=
  match topologicalOrder rs.length rs with
  | none => fail "cycle-in-ca-graph"
  | some order => order.forM realize

/-! ## `Kubernetes.Generate` -/

/-- `KubernetesCACN`. -/
def kubernetesCACN : String := "kubernetes-ca"

/-- `KubernetesFrontProxyCACN`. -/
def kubernetesFrontProxyCACN : String := "kubernetes-front-proxy-ca"

/-- The shape of every request builder of `Kubernetes`: point the target to a new
`Certificate{}` if it is nil, and request it from `ca` with the chain `chain`. -/
def requestFor (target : Slot) (ca : CARef) (chain : Kubernetes → List Certificate) :
    Exec PKIState certificateRequest := do
  if ((← get).kubernetes.get target).isNone then
    modify fun st => { st with kubernetes := st.kubernetes.set target default }
  return ⟨target, ca, chain (← get).kubernetes⟩

/-- `kubernetesCACR`. -/
def kubernetesCACR (defaultCertificate : Certificate) : Exec PKIState certificateRequest :=
  requestFor .ca .root fun k => [defaultCertificate, k.certificate, caCertificate kubernetesCACN]

/-- `kubernetesFrontProxyCACR`. -/
def kubernetesFrontProxyCACR (defaultCertificate : Certificate) : Exec PKIState certificateRequest :=
  requestFor .frontProxyCA .root fun k =>
    [defaultCertificate, k.certificate, caCertificate kubernetesFrontProxyCACN]

/-- `defaultKubeAPIServerServerCertificate` of a non-nil `KubeAPIServer`. -/
def defaultKubeAPIServerServerCertificate (k : KubeAPIServer) : Certificate :=
  { (default : Certificate) with
    commonName := "kube-apiserver"
    ipAddresses := ["127.0.0.1"] ++ k.serverIPs
    dnsNames := ["localhost", "kubernetes", "kubernetes.default", "kubernetes.default.svc",
      "kubernetes.default.svc.cluster", "kubernetes.default.svc.cluster.local"] ++ k.externalNames }

/-- `defaultKubeAPIServerKubeletCertificate`. -/
def defaultKubeAPIServerKubeletCertificate : Certificate :=
  { (default : Certificate) with
    commonName := "kube-apiserver-kubelet-client"
    organization := "system:masters" }

/-- `defaultKubeAPIServerFrontProxyClientCertificate`. -/
def defaultKubeAPIServerFrontProxyClientCertificate : Certificate :=
  { (default : Certificate) with commonName := "front-proxy-client" }

/-- The settings of `KubeAPIServer`, which its certificates inherit. -/
def apiServerCertificate (k : Kubernetes) : Certificate :=
  (k.kubeAPIServer.map (·.certificate)).getD default

/-- `kubeAPIServerServerCR`. -/
def kubeAPIServerServerCR (defaultCertificate : Certificate) : Exec PKIState certificateRequest :=
  requestFor .server (.slot .ca) fun k => [defaultCertificate, k.certificate, apiServerCertificate k,
    (k.kubeAPIServer.map defaultKubeAPIServerServerCertificate).getD default]

/-- `kubeAPIServerKubeletCR`. -/
def kubeAPIServerKubeletCR (defaultCertificate : Certificate) : Exec PKIState certificateRequest :=
  requestFor .kubelet (.slot .ca) fun k => [defaultCertificate, k.certificate, apiServerCertificate k,
    defaultKubeAPIServerKubeletCertificate]

/-- `kubeAPIServerFrontProxyClientCR`. -/
def kubeAPIServerFrontProxyClientCR (defaultCertificate : Certificate) :
    Exec PKIState certificateRequest :=
  requestFor .frontProxyClient (.slot .frontProxyCA) fun k => [defaultCertificate, k.certificate,
    apiServerCertificate k, defaultKubeAPIServerFrontProxyClientCertificate]

/-- `adminCR`. -/
def adminCR (defaultCertificate : Certificate) : Exec PKIState certificateRequest :=
  requestFor .admin (.slot .ca) fun k => [defaultCertificate, k.certificate,
    { (default : Certificate) with commonName := "kubernetes-admin", organization := "system:masters" }]

/-- `kubeControllerManagerCR`. -/
def kubeControllerManagerCR (defaultCertificate : Certificate) : Exec PKIState certificateRequest :=
  requestFor .controllerManager (.slot .ca) fun k => [defaultCertificate, k.certificate,
    { (default : Certificate) with commonName := "system:kube-controller-manager" }]

/-- `kubeSchedulerCR`. -/
def kubeSchedulerCR (defaultCertificate : Certificate) : Exec PKIState certificateRequest :=
  requestFor .scheduler (.slot .ca) fun k => [defaultCertificate, k.certificate,
    { (default : Certificate) with commonName := "system:kube-scheduler" }]

/-- `serviceAccountCR`. -/
def serviceAccountCR (defaultCertificate : Certificate) : Exec PKIState certificateRequest :=
  requestFor .serviceAccount (.slot .ca) fun k => [defaultCertificate, k.certificate]

/-- `Kubernetes.Generate`, with the caller's root CA in the state. -/
def generate (defaultCertificate : Certificate) : Exec PKIState Unit := do
  let crs := [← kubernetesCACR defaultCertificate, ← kubernetesFrontProxyCACR defaultCertificate]
  wrap "failed to generate kubernetes CA certificates: " (buildAndGenerate crs)
  modify fun st => if st.kubernetes.kubeAPIServer.isNone then
    { st with kubernetes := { st.kubernetes with kubeAPIServer := some ⟨default, [], [], none, none, none⟩ } }
    else st
  let crs := [← kubeAPIServerServerCR defaultCertificate, ← kubeAPIServerKubeletCR defaultCertificate,
    ← kubeAPIServerFrontProxyClientCR defaultCertificate, ← adminCR defaultCertificate,
    ← kubeControllerManagerCR defaultCertificate, ← kubeSchedulerCR defaultCertificate,
    ← serviceAccountCR defaultCertificate]
  buildAndGenerate crs

end Pki

end Flexkube
