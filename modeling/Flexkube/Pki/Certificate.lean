import Flexkube.Controlplane.Build

/-!
# Certificates

`pkg/pki`. A `Certificate` holds the settings a certificate is issued with and, once
generated, its key material: a private key and an X.509 certificate. A certificate
request names a target certificate, the chain of certificates its settings are inherited
from, and the CA that signs it.

`Certificate` and the generation of one are not under `src/`; they are modelled from the
spec (§4.6). Keys are numbered, and an X.509 certificate is reduced to what a chain of
trust reads from it: the key it certifies and the key that signed it. A request whose
target already carries a private key and a certificate is skipped, so a certificate keeps
its material until the caller removes it.
-/

namespace Flexkube

namespace Pki

/-- An issued X.509 certificate: the key it certifies and the key that signed it. -/
structure X509 where
  publicKey : Nat
  signedBy : Nat
deriving DecidableEq, Repr

/-- `Certificate`. An empty `PrivateKey` or `X509Certificate` is `none`. -/
structure Certificate where
  organization : String
  commonName : String
  ca : Bool
  ipAddresses : List String
  dnsNames : List String
  x509Certificate : Option X509
  privateKey : Option Nat
deriving DecidableEq, Repr

/-- `Certificate{}`. -/
instance : Inhabited Certificate := ⟨⟨"", "", false, [], [], none, none⟩⟩

namespace Certificate

/-- The certificate carries key and certificate material. -/
def resolved (c : Certificate) : Bool := c.x509Certificate.isSome && c.privateKey.isSome

/-- The key a certificate signs with: its private key, once it is resolved. -/
def signingKey (c : Certificate) : Option Nat := if c.resolved then c.privateKey else none

/-- `c` holds a certificate signed by the private key of `ca`. -/
def issuedBy (c ca : Certificate) : Bool :=
  match c.x509Certificate, ca.privateKey with
  | some x, some k => x.signedBy == k
  | _, _ => false

/-- The certificate with its key material removed. -/
def withoutMaterial (c : Certificate) : Certificate :=
  { c with x509Certificate := none, privateKey := none }

/-- The certificate `c` with a new private key `key` and a certificate of it signed by
`signer`. -/
def issue (c : Certificate) (key signer : Nat) : Certificate :=
  { c with x509Certificate := some ⟨key, signer⟩, privateKey := some key }

@[simp] theorem default_resolved : (default : Certificate).resolved = false := rfl

@[simp] theorem withoutMaterial_resolved (c : Certificate) : c.withoutMaterial.resolved = false := by
  simp [withoutMaterial, resolved]

@[simp] theorem issue_resolved (c : Certificate) (key signer : Nat) : (c.issue key signer).resolved := by
  simp [issue, resolved]

@[simp] theorem issue_privateKey (c : Certificate) (key signer : Nat) :
    (c.issue key signer).privateKey = some key := rfl

theorem issuedBy_iff {c ca : Certificate} :
    c.issuedBy ca ↔ ∃ k, ca.privateKey = some k ∧ c.x509Certificate.map (·.signedBy) = some k := by
  unfold issuedBy
  cases c.x509Certificate <;> cases ca.privateKey <;> simp

theorem signingKey_eq_some {c : Certificate} {k : Nat} :
    c.signingKey = some k ↔ c.resolved ∧ c.privateKey = some k := by
  unfold signingKey; split_ifs with h <;> simp [h]

end Certificate

/-- Modelled from the spec (§4.6): the settings an inheritance chain gives. Each field
takes the first non-empty value along the chain; IP addresses and DNS names are unioned.
Key material is not inherited. -/
def buildCertificate (cs : List Certificate) : Certificate :=
  cs.foldl (fun c x => ⟨pickString c.organization x.organization,
    pickString c.commonName x.commonName, c.ca || x.ca, c.ipAddresses ∪ x.ipAddresses,
    c.dnsNames ∪ x.dnsNames, none, none⟩) default

/-- `caCertificate(cn)` of `pkg/pki`, not under `src/`: a CA certificate named `cn`. -/
def caCertificate (cn : String) : Certificate := { (default : Certificate) with commonName := cn, ca := true }

end Pki

end Flexkube
