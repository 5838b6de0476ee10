import Flexkube.Pki.Kubernetes

/-!
# Chains of Trust Across Runs

What `Generate` guarantees about the certificates it leaves. A state is consistent when
every certificate with material is signed by the key that must sign it: the root CA's for
the two CAs, and that of the CA `k` holds for a leaf. From a consistent state, with a root
CA that has material or none, `Generate` succeeds and leaves every certificate with
material, consistent (`generate_spec`).

A certificate with material is never touched again, whatever a run returns
(`generate_keeps_material`). So when a caller removes the material
of a CA and keeps that of its leaves, the next run gives the CA a new key and leaves the
leaves signed by the old one (`stale_leaves_after_ca_removal`). Runs between which removing
a CA's material also removes that of its leaves keep the chain whole
(`generate_runs_chain`), and a run on what a run left signs nothing.
-/

namespace Flexkube

namespace Pki

open Exec

/-! ## Consistent states -/

/-- The CA pointer `Generate` gives the request for a slot. -/
def Slot.caRef (s : Slot) : CARef :=
  match s.issuer with
  | none => .root
  | some p => .slot p

namespace PKIState

/-- The key that must sign the certificate `c` in slot `s`: the root CA's for a CA (`c`'s
own when the root CA is nil), and that of the CA `k` holds for a leaf. -/
def signer (st : PKIState) (s : Slot) (c : Certificate) : Option Nat :=
  match s.issuer with
  | none => match st.rootCA with
    | none => c.privateKey
    | some r => r.signingKey
  | some p => (st.kubernetes.get p).bind (·.signingKey)

/-- Every certificate with material is signed by the key that must sign it. -/
def Consistent (st : PKIState) : Prop :=
  ∀ s c, st.kubernetes.get s = some c → c.resolved →
    ∃ k, st.signer s c = some k ∧ c.x509Certificate.map (·.signedBy) = some k

/-- The slot points to a certificate with material. -/
def Resolved (st : PKIState) (s : Slot) : Prop := ∃ c, st.kubernetes.get s = some c ∧ c.resolved

/-- From `st` to `st'` key material was only added: a certificate stays, one with material
keeps it, every new one carries a key from `st.nextKey` on, and the root CA is the same. -/
structure Grows (st st' : PKIState) : Prop where
  root : st'.rootCA = st.rootCA
  nextKey : st.nextKey ≤ st'.nextKey
  hasSlot : ∀ s, st.kubernetes.hasSlot s → st'.kubernetes.hasSlot s
  present : ∀ s, (st.kubernetes.get s).isSome → (st'.kubernetes.get s).isSome
  keep : ∀ s c, st.kubernetes.get s = some c → c.resolved → st'.kubernetes.get s = some c
  fresh : ∀ s c, st'.kubernetes.get s = some c → c.resolved →
    st.kubernetes.get s = some c ∨ ∃ k, c.privateKey = some k ∧ st.nextKey ≤ k

variable {st st' st'' : PKIState} {s t : Slot} {c : Certificate}

theorem signer_congr (c : Certificate) (hroot : st'.rootCA = st.rootCA)
    (hget : ∀ p, s.issuer = some p → st'.kubernetes.get p = st.kubernetes.get p) :
    st'.signer s c = st.signer s c := by
  unfold signer
  cases h : s.issuer with
  | none => rw [hroot]
  | some p => simp only [hget p h]

theorem Resolved.grows (h : st.Resolved s) (hg : Grows st st') : st'.Resolved s :=
  let ⟨c, hc, hr⟩ := h
  ⟨c, hg.keep s c hc hr, hr⟩

namespace Grows

theorem refl (st : PKIState) : Grows st st :=
  ⟨rfl, le_rfl, fun _ h => h, fun _ h => h, fun _ _ h _ => h, fun _ _ h _ => .inl h⟩

theorem trans (h₁ : Grows st st') (h₂ : Grows st' st'') : Grows st st'' where
  root := h₂.root.trans h₁.root
  nextKey := h₁.nextKey.trans h₂.nextKey
  hasSlot s h := h₂.hasSlot s (h₁.hasSlot s h)
  present s h := h₂.present s (h₁.present s h)
  keep s c h hc := h₂.keep s c (h₁.keep s c h hc) hc
  fresh s c h hc := by
    rcases h₂.fresh s c h hc with h' | ⟨k, hk, hle⟩
    · exact h₁.fresh s c h' hc
    · exact .inr ⟨k, hk, h₁.nextKey.trans hle⟩

/-- Writing a certificate over a nil or unresolved one, with a key from `st.nextKey` on if
it carries material, only adds material. -/
theorem set (hk : st'.kubernetes = st.kubernetes.set t c) (hroot : st'.rootCA = st.rootCA)
    (hn : st.nextKey ≤ st'.nextKey) (hold : ∀ c₀, st.kubernetes.get t = some c₀ → c₀.resolved = false)
    (hnew : c.resolved → ∃ k, c.privateKey = some k ∧ st.nextKey ≤ k) : Grows st st' where
  root := hroot
  nextKey := hn
  hasSlot s h := by rw [hk, Kubernetes.hasSlot_set]; exact h
  present s h := by rw [hk, Kubernetes.get_set]; split_ifs <;> simp_all
  keep s c' h hc := by
    rw [hk, Kubernetes.get_set, if_neg]; exact h
    rintro ⟨rfl, -⟩; simp [hold c' h] at hc
  fresh s c' h hc := by
    rw [hk, Kubernetes.get_set] at h
    split_ifs at h with hs
    · cases h; exact .inr (hnew hc)
    · exact .inl h

end Grows

/-- Writing over a nil or unresolved certificate one that, if it carries material, is
signed by the key that must sign it keeps a state consistent: no certificate with material
was signed by the one replaced. -/
theorem Consistent.set (hc : st.Consistent) (hk : st'.kubernetes = st.kubernetes.set t c)
    (hroot : st'.rootCA = st.rootCA) (hold : ∀ c₀, st.kubernetes.get t = some c₀ → c₀.resolved = false)
    (hnew : c.resolved → ∃ k, st.signer t c = some k ∧ c.x509Certificate.map (·.signedBy) = some k) :
    st'.Consistent := by
  have hsigner : ∀ s c', (∃ k, st.signer s c' = some k) → st'.signer s c' = st.signer s c' :=
    fun s c' ⟨k, hk'⟩ => signer_congr c' hroot fun p hp => by
      rw [hk, Kubernetes.get_set, if_neg]
      rintro ⟨rfl, -⟩
      cases h : st.kubernetes.get p with
      | none => simp [signer, hp, h] at hk'
      | some c₀ => simp [signer, hp, h, Certificate.signingKey, hold c₀ h] at hk'
  intro s c' h hres
  rw [hk, Kubernetes.get_set] at h
  split_ifs at h with hs
  · cases h
    obtain ⟨k, hk', hx⟩ := hnew hres
    rw [hs.1, hsigner t c ⟨k, hk'⟩]
    exact ⟨k, hk', hx⟩
  · obtain ⟨k, hk', hx⟩ := hc s c' h hres
    exact ⟨k, by rw [hsigner s c' ⟨k, hk'⟩, hk'], hx⟩

/-- Consistency reads only the certificates and the root CA. -/
theorem Consistent.congr (hc : st.Consistent) (hroot : st'.rootCA = st.rootCA)
    (hget : ∀ s, st'.kubernetes.get s = st.kubernetes.get s) : st'.Consistent := by
  intro s c h hres
  rw [hget] at h
  obtain ⟨k, hk, hx⟩ := hc s c h hres
  exact ⟨k, by rw [signer_congr c hroot fun p _ => hget p, hk], hx⟩

end PKIState

open PKIState

/-! ## One request -/

section Realize

variable {st : PKIState} {r : certificateRequest}

theorem realize_of_resolved (h : ((st.kubernetes.get r.target).getD default).resolved) :
    realize r st = (.ok (), st) := by
  simp [realize, h]

theorem realize_of_signerFor {signer : Nat}
    (h : ((st.kubernetes.get r.target).getD default).resolved = false)
    (hs : st.signerFor r.ca st.nextKey = some signer) :
    realize r st = (.ok (), { st with
      kubernetes := st.kubernetes.set r.target ((buildCertificate
        (r.certificates ++ [(st.kubernetes.get r.target).getD default])).issue st.nextKey signer)
      nextKey := st.nextKey + 1 }) := by
  simp [realize, h, hs]

theorem realize_of_unresolved_ca (h : ((st.kubernetes.get r.target).getD default).resolved = false)
    (hs : st.signerFor r.ca st.nextKey = none) : realize r st = (.error "unresolved-ca", st) := by
  simp [realize, h, hs]

/-- A realized request only adds material. -/
theorem realize_grows (r : certificateRequest) : Stable Grows (realize r) := fun st => by
  cases ht : ((st.kubernetes.get r.target).getD default).resolved
  · cases hs : st.signerFor r.ca st.nextKey with
    | none => rw [realize_of_unresolved_ca ht hs]; exact Grows.refl st
    | some signer =>
      rw [realize_of_signerFor ht hs]
      exact Grows.set rfl rfl (Nat.le_succ _) (fun c₀ h => by simpa [h] using ht)
        fun _ => ⟨_, rfl, le_rfl⟩
  · rw [realize_of_resolved ht]; exact Grows.refl st

/-- What `realize r` needs to succeed and keep a state consistent: `r` is signed by the CA of
its target, the target is not nil, and that CA has material (a nil root CA is fine). -/
structure Ready (st : PKIState) (r : certificateRequest) : Prop where
  ca : r.ca = r.target.caRef
  target : (st.kubernetes.get r.target).isSome
  signer : match r.target.issuer with
    | none => st.rootCA.all (·.resolved)
    | some p => st.Resolved p

theorem Ready.grows (h : Ready st r) {st' : PKIState} (hg : Grows st st') : Ready st' r where
  ca := h.ca
  target := hg.present _ h.target
  signer := by
    have hs := h.signer
    cases hi : r.target.issuer with
    | none => simp only [hi] at hs ⊢; rw [hg.root]; exact hs
    | some p => simp only [hi] at hs ⊢; exact hs.grows hg

/-- The key a ready request is signed with is the one that must sign its target. -/
theorem Ready.signerFor (h : Ready st r) (key : Nat) :
    ∃ k, st.signerFor r.ca key = some k ∧ ∀ c : Certificate, st.signer r.target (c.issue key k) = some k := by
  have hs := h.signer
  rw [h.ca]
  unfold Slot.caRef PKIState.signerFor PKIState.signer
  cases hi : r.target.issuer with
  | none =>
    simp only [hi] at hs ⊢
    cases hr : st.rootCA with
    | none => exact ⟨key, by simp [PKIState.lookup, hr], fun _ => rfl⟩
    | some root =>
      simp only [hr, Option.all_some] at hs
      obtain ⟨k, hk⟩ := Option.isSome_iff_exists.1 (Bool.and_eq_true_iff.1 hs).2
      exact ⟨k, by simp [PKIState.lookup, hr, Certificate.signingKey, hs, hk], fun _ => by
        simp [Certificate.signingKey, hs, hk]⟩
  | some p =>
    simp only [hi] at hs ⊢
    obtain ⟨ca, hca, hres⟩ := hs
    obtain ⟨k, hk⟩ := Option.isSome_iff_exists.1 (Bool.and_eq_true_iff.1 hres).2
    exact ⟨k, by simp [PKIState.lookup, hca, Certificate.signingKey, hres, hk], fun _ => by
      simp [hca, Certificate.signingKey, hres, hk]⟩

/-- **One request.** A ready request succeeds, keeps the state consistent, and leaves its
target with material. -/
theorem realize_triple (r : certificateRequest) :
    Triple (fun st => st.Consistent ∧ Ready st r) (realize r) (fun _ st => st.Consistent ∧ st.Resolved r.target) := by
  rintro st ⟨hc, hr⟩
  obtain ⟨c₀, hc₀⟩ := Option.isSome_iff_exists.1 hr.target
  cases ht : ((st.kubernetes.get r.target).getD default).resolved
  · obtain ⟨k, hs, hsig⟩ := hr.signerFor st.nextKey
    rw [realize_of_signerFor ht hs]
    refine ⟨(), rfl, Consistent.set hc rfl rfl (fun c h => by simpa [h] using ht)
      fun _ => ⟨k, hsig _, rfl⟩, _, Kubernetes.get_set_self (Kubernetes.hasSlot_of_get hr.target),
      Certificate.issue_resolved _ _ _⟩
  · rw [realize_of_resolved ht]
    exact ⟨(), rfl, hc, c₀, hc₀, by simpa [hc₀] using ht⟩

end Realize

/-! ## Properties that only material can change -/

/-- A property of states that every step adding material keeps. -/
def Lasting (M : PKIState → Prop) : Prop := ∀ st st', M st → Grows st st' → M st'

namespace Lasting

theorem and {M M' : PKIState → Prop} (h : Lasting M) (h' : Lasting M') : Lasting fun st => M st ∧ M' st :=
  fun _ _ hm hg => ⟨h _ _ hm.1 hg, h' _ _ hm.2 hg⟩

theorem resolved (s : Slot) : Lasting fun st => st.Resolved s := fun _ _ h hg => h.grows hg

theorem apiServer : Lasting fun st => st.kubernetes.kubeAPIServer.isSome := fun _ _ h hg => by
  simpa [Kubernetes.hasSlot, Slot.inAPIServer] using hg.hasSlot .server (by simp [Kubernetes.hasSlot, h])

theorem root : Lasting fun st => st.rootCA.all (·.resolved) := fun _ st' h hg => by
  show st'.rootCA.all _; rw [hg.root]; exact h

end Lasting

/-! ## Batches of requests -/

section Batch

theorem waitsFor_of_cons {r r' : certificateRequest} {rs : List certificateRequest}
    (h : waitsFor (r :: rs) r' = false) : waitsFor rs r' = false := by
  unfold waitsFor at h ⊢
  split <;> simp_all

/-- Requests none of which waits for another are realized in the order given. -/
theorem topologicalOrder_of_independent :
    ∀ rs : List certificateRequest, (∀ r ∈ rs, waitsFor rs r = false) →
      topologicalOrder rs.length rs = some rs
  | [], _ => rfl
  | r :: rs, h => by
    have ih := topologicalOrder_of_independent rs fun r' hr' =>
      waitsFor_of_cons (h r' (List.mem_cons_of_mem r hr'))
    simp [topologicalOrder, takeReady, h r (List.mem_cons_self r rs), ih]

theorem forM_realize_triple {M : PKIState → Prop} (hM : Lasting M) :
    ∀ rs : List certificateRequest, Triple (fun st => (st.Consistent ∧ ∀ r ∈ rs, Ready st r) ∧ M st)
      (rs.forM realize) (fun _ st => (st.Consistent ∧ ∀ r ∈ rs, st.Resolved r.target) ∧ M st)
  | [] => Triple.pure fun _ h => ⟨⟨h.1.1, by simp⟩, h.2⟩
  | r :: rs => by
    have hready : Lasting fun st => (∀ r' ∈ rs, Ready st r') ∧ M st :=
      fun _ _ h hg => ⟨fun r' hr' => (h.1 r' hr').grows hg, hM _ _ h.2 hg⟩
    have hr := Triple.frame (realize_triple r) (realize_grows r) hready
    have hrs := forM_realize_triple ((Lasting.resolved r.target).and hM) rs
    refine Triple.bind (hr.conseq (fun st h => ⟨⟨h.1.1, h.1.2 r (List.mem_cons_self r rs)⟩,
      fun r' hr' => h.1.2 r' (List.mem_cons_of_mem r hr'), h.2⟩) fun _ _ h => h) fun _ =>
      hrs.conseq (fun st h => ⟨⟨h.1.1, h.2.1⟩, h.1.2, h.2.2⟩) fun _ st h =>
        ⟨⟨h.1.1, fun r' hr' => ?_⟩, h.2.2⟩
    rcases List.mem_cons.1 hr' with rfl | hr'
    exacts [h.2.1, h.1.2 r' hr']

theorem buildAndGenerate_triple {rs : List certificateRequest} (hind : ∀ r ∈ rs, waitsFor rs r = false)
    {M : PKIState → Prop} (hM : Lasting M) (hready : ∀ st, M st → ∀ r ∈ rs, Ready st r) :
    Triple (fun st => st.Consistent ∧ M st) (buildAndGenerate rs)
      (fun _ st => st.Consistent ∧ (M st ∧ ∀ r ∈ rs, st.Resolved r.target)) := by
  unfold buildAndGenerate
  rw [topologicalOrder_of_independent rs hind]
  exact (forM_realize_triple hM rs).conseq (fun st h => ⟨⟨h.1, hready st h.2⟩, h.2⟩)
    fun _ _ h => ⟨h.1.1, h.2, h.1.2⟩

theorem buildAndGenerate_grows (rs : List certificateRequest) : Stable Grows (buildAndGenerate rs) := by
  unfold buildAndGenerate
  split
  · exact Stable.fail Grows.refl _
  · exact Stable.forM Grows.refl (fun _ _ _ => Grows.trans) realize_grows _

end Batch

/-! ## `Generate` -/

section Generate

/-- The state after a request builder pointed a nil target to `Certificate{}`. -/
def PKIState.withTarget (st : PKIState) (t : Slot) : PKIState :=
  if (st.kubernetes.get t).isNone then { st with kubernetes := st.kubernetes.set t default } else st

theorem requestFor_eq (t : Slot) (ca : CARef) (chain : Kubernetes → List Certificate) (st : PKIState) :
    requestFor t ca chain st = (.ok ⟨t, ca, chain (st.withTarget t).kubernetes⟩, st.withTarget t) := by
  unfold requestFor PKIState.withTarget
  split <;> simp_all

theorem withTarget_grows (st : PKIState) (t : Slot) : Grows st (st.withTarget t) := by
  unfold PKIState.withTarget
  split
  · exact Grows.set rfl rfl le_rfl (by simp_all) (by simp)
  · exact Grows.refl st

theorem requestFor_grows (t : Slot) (ca : CARef) (chain : Kubernetes → List Certificate) :
    Stable Grows (requestFor t ca chain) := fun st => by
  rw [requestFor_eq]; exact withTarget_grows st t

theorem requestFor_triple {t : Slot} {ca : CARef} {chain : Kubernetes → List Certificate}
    {M : PKIState → Prop} (hM : Lasting M) (hslot : ∀ st, M st → st.kubernetes.hasSlot t) :
    Triple (fun st => st.Consistent ∧ M st) (requestFor t ca chain)
      (fun r st => st.Consistent ∧ (M st ∧ (r.target = t ∧ r.ca = ca) ∧ (st.kubernetes.get t).isSome)) := by
  rintro st ⟨hc, hm⟩
  rw [requestFor_eq]
  refine ⟨_, rfl, ?_, hM _ _ hm (withTarget_grows st t), ⟨rfl, rfl⟩, ?_⟩
  · unfold PKIState.withTarget
    split
    · exact hc.set rfl rfl (by simp_all) (by simp)
    · exact hc
  · unfold PKIState.withTarget
    split <;> simp_all [hslot st hm, Option.ne_none_iff_isSome]

/-- `k.KubeAPIServer = &KubeAPIServer{}` when it is nil. -/
def PKIState.withAPIServer (st : PKIState) : PKIState :=
  if st.kubernetes.kubeAPIServer.isNone then
    { st with kubernetes := { st.kubernetes with kubeAPIServer := some ⟨default, [], [], none, none, none⟩ } }
  else st

theorem withAPIServer_get (st : PKIState) (s : Slot) :
    st.withAPIServer.kubernetes.get s = st.kubernetes.get s := by
  unfold PKIState.withAPIServer
  split <;> rename_i h <;> cases s <;> simp_all [Kubernetes.get]

theorem withAPIServer_grows (st : PKIState) : Grows st st.withAPIServer where
  root := by unfold PKIState.withAPIServer; split <;> rfl
  nextKey := by unfold PKIState.withAPIServer; split <;> exact le_rfl
  hasSlot s h := by unfold PKIState.withAPIServer; split <;> simp_all [Kubernetes.hasSlot]
  present s h := by rwa [withAPIServer_get]
  keep s c h _ := by rwa [withAPIServer_get]
  fresh s c h _ := by rw [withAPIServer_get] at h; exact .inl h

/-- What `Generate` has established so far, beyond consistency, that adding material keeps:
the root CA has material or is nil, the slots `ps` point to certificates, those in `rs`
carry material, and `KubeAPIServer` is not nil if `api`. -/
structure Facts (st : PKIState) (ps rs : List Slot) (api : Bool) : Prop where
  root : st.rootCA.all (·.resolved)
  present : ∀ t ∈ ps, (st.kubernetes.get t).isSome
  resolved : ∀ t ∈ rs, st.Resolved t
  apiServer : api → st.kubernetes.kubeAPIServer.isSome

theorem Facts.lasting (ps rs : List Slot) (api : Bool) : Lasting fun st => Facts st ps rs api :=
  fun _ _ h hg => ⟨Lasting.root _ _ h.root hg, fun t ht => hg.present t (h.present t ht),
    fun t ht => (h.resolved t ht).grows hg, fun ha => Lasting.apiServer _ _ (h.apiServer ha) hg⟩

theorem Facts.hasSlot {st : PKIState} {ps rs : List Slot} {api : Bool} (h : Facts st ps rs api)
    {t : Slot} (ht : t.inAPIServer → api) : st.kubernetes.hasSlot t := by
  cases hi : t.inAPIServer
  · simp [Kubernetes.hasSlot, hi]
  · simp [Kubernetes.hasSlot, h.apiServer (ht hi)]

theorem requestFor_facts {t : Slot} {ca : CARef} {chain : Kubernetes → List Certificate}
    {ps rs : List Slot} {api : Bool} (ht : t.inAPIServer → api) :
    Triple (fun st => st.Consistent ∧ Facts st ps rs api) (requestFor t ca chain)
      (fun r st => (r.target = t ∧ r.ca = ca) ∧ st.Consistent ∧ Facts st (t :: ps) rs api) :=
  (requestFor_triple (Facts.lasting ps rs api) fun _ h => h.hasSlot ht).conseq (fun _ h => h)
    fun _ _ h => ⟨h.2.2.1, h.1, h.2.1.root, fun t' ht' => by
      rcases List.mem_cons.1 ht' with rfl | ht'
      exacts [h.2.2.2, h.2.1.present t' ht'], h.2.1.resolved, h.2.1.apiServer⟩

theorem buildAndGenerate_facts {reqs : List certificateRequest} {ps rs ts : List Slot} {api : Bool}
    (hts : reqs.map (·.target) = ts) (hind : ∀ r ∈ reqs, waitsFor reqs r = false)
    (hready : ∀ r ∈ reqs, r.ca = r.target.caRef ∧ r.target ∈ ps ∧ ∀ p, r.target.issuer = some p → p ∈ rs) :
    Triple (fun st => st.Consistent ∧ Facts st ps rs api) (buildAndGenerate reqs)
      (fun _ st => st.Consistent ∧ Facts st ps (ts ++ rs) api) :=
  (buildAndGenerate_triple hind (Facts.lasting ps rs api) fun st h r hr => ⟨(hready r hr).1,
    h.present _ (hready r hr).2.1, by
      have hp := (hready r hr).2.2
      cases hi : r.target.issuer with
      | none => simpa only using h.root
      | some p => exact h.resolved p (hp p hi)⟩).conseq (fun _ h => h)
    fun _ _ h => ⟨h.1, h.2.1.root, h.2.1.present, fun t ht => by
      rw [← hts] at ht
      rcases List.mem_append.1 ht with ht | ht
      · obtain ⟨r, hr, rfl⟩ := List.mem_map.1 ht
        exact h.2.2 r hr
      · exact h.2.1.resolved t ht, h.2.1.apiServer⟩

theorem withAPIServer_facts {ps rs : List Slot} {api : Bool} :
    Triple (fun st => st.Consistent ∧ Facts st ps rs api) (modify PKIState.withAPIServer)
      (fun _ st => st.Consistent ∧ Facts st ps rs true) :=
  Triple.modify fun st h => ⟨h.1.congr (withAPIServer_grows st).root (withAPIServer_get st),
    (Facts.lasting ps rs api) _ _ h.2 (withAPIServer_grows st) |>.root,
    ((Facts.lasting ps rs api) _ _ h.2 (withAPIServer_grows st)).present,
    ((Facts.lasting ps rs api) _ _ h.2 (withAPIServer_grows st)).resolved, fun _ => by
      unfold PKIState.withAPIServer; split <;> simp_all [Option.ne_none_iff_isSome]⟩

/-- `Generate` from a consistent state with a root CA that has material or is nil, step by
step: the two CAs, then `KubeAPIServer`, then the seven leaves. -/
theorem generate_facts (d : Certificate) :
    Triple (fun st => st.Consistent ∧ Facts st [] [] false) (generate d)
      (fun _ st => st.Consistent ∧ Facts st [.serviceAccount, .scheduler, .controllerManager, .admin,
        .frontProxyClient, .kubelet, .server, .frontProxyCA, .ca]
        ([.server, .kubelet, .frontProxyClient, .admin, .controllerManager, .scheduler, .serviceAccount] ++
          ([.ca, .frontProxyCA] ++ [])) true) := by
  unfold generate
  refine Triple.bind (requestFor_facts fun h => h) fun a => Triple.of_prop fun ⟨ha, ha'⟩ => ?_
  refine Triple.bind (requestFor_facts fun h => h) fun b => Triple.of_prop fun ⟨hb, hb'⟩ => ?_
  dsimp only
  refine Triple.bind (Triple.wrap _ (buildAndGenerate_facts
    (show [a, b].map (·.target) = [.ca, .frontProxyCA] by simp [ha, hb])
    (by simp [waitsFor, ha', hb']) (by simp [ha, ha', hb, hb', Slot.caRef, Slot.issuer]))) fun _ => ?_
  refine Triple.bind withAPIServer_facts fun _ => ?_
  refine Triple.bind (requestFor_facts fun _ => rfl) fun r₁ => Triple.of_prop fun ⟨h₁, h₁'⟩ => ?_
  refine Triple.bind (requestFor_facts fun _ => rfl) fun r₂ => Triple.of_prop fun ⟨h₂, h₂'⟩ => ?_
  refine Triple.bind (requestFor_facts fun _ => rfl) fun r₃ => Triple.of_prop fun ⟨h₃, h₃'⟩ => ?_
  refine Triple.bind (requestFor_facts fun _ => rfl) fun r₄ => Triple.of_prop fun ⟨h₄, h₄'⟩ => ?_
  refine Triple.bind (requestFor_facts fun _ => rfl) fun r₅ => Triple.of_prop fun ⟨h₅, h₅'⟩ => ?_
  refine Triple.bind (requestFor_facts fun _ => rfl) fun r₆ => Triple.of_prop fun ⟨h₆, h₆'⟩ => ?_
  refine Triple.bind (requestFor_facts fun _ => rfl) fun r₇ => Triple.of_prop fun ⟨h₇, h₇'⟩ => ?_
  exact buildAndGenerate_facts (show [r₁, r₂, r₃, r₄, r₅, r₆, r₇].map (·.target) =
      [.server, .kubelet, .frontProxyClient, .admin, .controllerManager, .scheduler, .serviceAccount] by
    simp [h₁, h₂, h₃, h₄, h₅, h₆, h₇])
    (by simp [waitsFor, h₁, h₂, h₃, h₄, h₅, h₆, h₇, h₁', h₂', h₃', h₄', h₅', h₆', h₇'])
    (by simp [h₁, h₂, h₃, h₄, h₅, h₆, h₇, h₁', h₂', h₃', h₄', h₅', h₆', h₇', Slot.caRef, Slot.issuer])

theorem generate_grows (d : Certificate) : Stable Grows (generate d) := by
  have T : ∀ s₁ s₂ s₃ : PKIState, Grows s₁ s₂ → Grows s₂ s₃ → Grows s₁ s₃ := fun _ _ _ => Grows.trans
  unfold generate
  refine Stable.bind T (requestFor_grows _ _ _) fun _ => Stable.bind T (requestFor_grows _ _ _) fun _ => ?_
  dsimp only
  refine Stable.bind T (Stable.wrap _ (buildAndGenerate_grows _)) fun _ =>
    Stable.bind T (Stable.modify withAPIServer_grows) fun _ => ?_
  refine Stable.bind T (requestFor_grows _ _ _) fun _ => Stable.bind T (requestFor_grows _ _ _) fun _ =>
    Stable.bind T (requestFor_grows _ _ _) fun _ => Stable.bind T (requestFor_grows _ _ _) fun _ =>
    Stable.bind T (requestFor_grows _ _ _) fun _ => Stable.bind T (requestFor_grows _ _ _) fun _ =>
    Stable.bind T (requestFor_grows _ _ _) fun _ => buildAndGenerate_grows _

/-- **`Generate` on a consistent state.** With a root CA that has material or is nil,
`Generate` succeeds, leaves every certificate with material and the state consistent, and
only adds material. -/
theorem generate_spec (d : Certificate) {st : PKIState} (hc : st.Consistent)
    (hroot : st.rootCA.all (·.resolved)) :
    (generate d st).1 = .ok () ∧ (generate d st).2.Consistent ∧ (∀ s, (generate d st).2.Resolved s) ∧
      Grows st (generate d st).2 := by
  obtain ⟨_, hok, hc', hf⟩ := generate_facts d st ⟨hc, hroot, by simp, by simp, by simp⟩
  exact ⟨hok, hc', fun s => hf.resolved s (by cases s <;> decide), generate_grows d st⟩

/-- **`Generate` only adds key material.** Whatever it returns, `Generate` leaves the root CA
as it was, keeps every certificate that carries key and certificate material, and gives a
certificate that carries material afterwards and did not before a key from the state's key
counter on. -/
theorem generate_keeps_material (d : Certificate) (st : PKIState) :
    (generate d st).2.rootCA = st.rootCA ∧
    (∀ s c, st.kubernetes.get s = some c → c.resolved → (generate d st).2.kubernetes.get s = some c) ∧
    ∀ s c, (generate d st).2.kubernetes.get s = some c → c.resolved →
      st.kubernetes.get s = some c ∨ ∃ k, c.privateKey = some k ∧ st.nextKey ≤ k :=
  have hg := generate_grows d st
  ⟨hg.root, hg.keep, hg.fresh⟩

end Generate

/-! ## Runs of `Generate` -/

section Runs

/-- The caller removes the key material of the certificates `S` names. -/
def Kubernetes.removeMaterial (S : Slot → Bool) (k : Kubernetes) : Kubernetes :=
  k.map fun s c => if S s then c.withoutMaterial else c

/-- Removing the material of a CA removes that of the leaves issued under it. -/
def DownClosed (S : Slot → Bool) : Prop := ∀ s p, s.issuer = some p → S p → S s

/-- `Generate` run once for each set of `Ss`, each time after the caller removed the key
material of the certificates that set names. -/
def generateRuns (d : Certificate) : List (Slot → Bool) → Exec PKIState Unit
  | [] => pure ()
  | S :: Ss => do
    modify fun st => { st with kubernetes := st.kubernetes.removeMaterial S }
    generate d
    generateRuns d Ss

/-- The chain of trust: every certificate carries material, the two CAs are issued by the
root CA (by themselves when it is nil), and each leaf by the CA `k` holds. -/
def ChainOK (st : PKIState) : Prop :=
  ∀ s, ∃ c, st.kubernetes.get s = some c ∧ c.resolved ∧
    match s.issuer with
    | none => c.issuedBy (st.rootCA.getD c)
    | some p => ∃ ca, st.kubernetes.get p = some ca ∧ c.issuedBy ca

variable {st : PKIState}

/-- Removing material closed under the CAs keeps a state consistent. -/
theorem PKIState.Consistent.removeMaterial (hc : st.Consistent) {S : Slot → Bool} (hS : DownClosed S) :
    ({ st with kubernetes := st.kubernetes.removeMaterial S } : PKIState).Consistent := by
  intro s c h hres
  simp only [Kubernetes.removeMaterial, Kubernetes.get_map, Option.map_eq_some'] at h
  obtain ⟨c₀, h₀, rfl⟩ := h
  by_cases hs : S s
  · simp [hs] at hres
  · simp only [hs, if_false] at hres ⊢
    obtain ⟨k, hk, hx⟩ := hc s c₀ h₀ hres
    refine ⟨k, ?_, hx⟩
    rw [← hk]
    unfold signer
    cases hi : s.issuer with
    | none => rfl
    | some p =>
      have hp : S p = false := by
        cases hSp : S p
        · rfl
        · exact absurd (hS s p hi hSp) hs
      simp [Kubernetes.removeMaterial, hp]

/-- A consistent state where every certificate carries material has the chain of trust. -/
theorem chainOK_of_consistent (hc : st.Consistent) (hres : ∀ s, st.Resolved s) : ChainOK st := by
  intro s
  obtain ⟨c, hcs, hcr⟩ := hres s
  obtain ⟨k, hk, hx⟩ := hc s c hcs hcr
  refine ⟨c, hcs, hcr, ?_⟩
  unfold signer at hk
  cases hi : s.issuer with
  | none =>
    simp only [hi] at hk ⊢
    cases hr : st.rootCA with
    | none =>
      simp only [hr] at hk
      exact Certificate.issuedBy_iff.2 ⟨k, hk, hx⟩
    | some r =>
      simp only [hr, Certificate.signingKey_eq_some] at hk
      exact Certificate.issuedBy_iff.2 ⟨k, hk.2, hx⟩
  | some p =>
    simp only [hi, Option.bind_eq_some, Certificate.signingKey_eq_some] at hk ⊢
    obtain ⟨ca, hca, -, hk⟩ := hk
    exact ⟨ca, hca, Certificate.issuedBy_iff.2 ⟨k, hk, hx⟩⟩

/-- **The chain of trust across runs.** From a consistent state with a root CA that has
material or is nil, every run of `Generate` succeeds as long as each removal before a run
takes the material of a CA together with that of the leaves under it. The state stays
consistent, and after the runs every certificate carries material and the chain of trust
holds; every prefix of such a sequence is one too, so this holds after each run. -/
theorem generate_runs_chain (d : Certificate) (Ss : List (Slot → Bool)) (hS : ∀ S ∈ Ss, DownClosed S)
    (st : PKIState) (hc : st.Consistent) (hroot : st.rootCA.all (·.resolved)) :
    (generateRuns d Ss st).1 = .ok () ∧ (generateRuns d Ss st).2.Consistent ∧
      (Ss ≠ [] → ChainOK (generateRuns d Ss st).2) := by
  induction Ss generalizing st with
  | nil => exact ⟨rfl, hc, fun h => absurd rfl h⟩
  | cons S Ss ih =>
    obtain ⟨hok, hc₁, hres₁, hg₁⟩ :=
      generate_spec d (hc.removeMaterial (hS S (List.mem_cons_self S Ss))) hroot
    have hrun : generateRuns d (S :: Ss) st =
        generateRuns d Ss (generate d { st with kubernetes := st.kubernetes.removeMaterial S }).2 := by
      simp only [generateRuns, bind_apply, modify_apply]
      rw [show generate d { st with kubernetes := st.kubernetes.removeMaterial S } =
        (.ok (), (generate d { st with kubernetes := st.kubernetes.removeMaterial S }).2) from
          Prod.ext hok rfl]
    obtain ⟨hok', hc', hchain⟩ := ih (fun S' h => hS S' (List.mem_cons_of_mem S h)) _ hc₁
      (by rw [hg₁.root]; exact hroot)
    rw [hrun]
    refine ⟨hok', hc', fun _ => ?_⟩
    cases Ss with
    | nil => exact chainOK_of_consistent hc₁ hres₁
    | cons => exact hchain (List.cons_ne_nil _ _)

/-- A certificate named `cn` with the key `key`, signed by the key `signer`. -/
def keyed (cn : String) (key signer : Nat) : Certificate :=
  { (default : Certificate) with
    commonName := cn
    x509Certificate := some ⟨key, signer⟩
    privateKey := some key }

/-- A root CA with the key `0`, signed by itself. -/
def selfSignedRoot : Certificate :=
  { keyed "root" 0 0 with ca := true }

/-- Nothing generated yet: `Kubernetes{}` with the root CA `selfSignedRoot`. -/
def coldStart : PKIState := ⟨default, some selfSignedRoot, 1⟩

theorem coldStart_consistent : coldStart.Consistent := fun s c h => by
  cases s <;> simp [coldStart, Kubernetes.get, default] at h

/-- Remove the material of the Kubernetes CA and of the leaves issued under it. -/
def renewKubernetesCA (s : Slot) : Bool := s == .ca || s.issuer == some .ca

theorem renewKubernetesCA_downClosed : DownClosed renewKubernetesCA := by
  intro s p hs hp
  cases s <;> cases hs <;> first | rfl | exact absurd hp (by decide)

theorem cold_start_then_ca_rotation :
    ((∀ S ∈ [fun _ => false, renewKubernetesCA], DownClosed S) ∧ coldStart.Consistent ∧
      coldStart.rootCA.all (·.resolved)) ∧
    (generateRuns default [fun _ => false, renewKubernetesCA] coldStart).1 = .ok () ∧
    (generateRuns default [fun _ => false, renewKubernetesCA] coldStart).2.Consistent ∧
    ([fun _ => false, renewKubernetesCA] ≠ [] →
      ChainOK (generateRuns default [fun _ => false, renewKubernetesCA] coldStart).2) :=
  have hS : ∀ S ∈ [fun _ => false, renewKubernetesCA], DownClosed S := by
    simp only [List.mem_cons, List.mem_singleton, List.not_mem_nil, or_false, forall_eq_or_imp,
      forall_eq]
    exact ⟨fun _ _ _ h => h, renewKubernetesCA_downClosed⟩
  ⟨⟨hS, coldStart_consistent, rfl⟩, generate_runs_chain default _ hS coldStart coldStart_consistent rfl⟩

end Runs

/-! ## A rerun signs nothing -/

section Rerun

variable {st : PKIState}

theorem forM_realize_of_resolved : ∀ rs : List certificateRequest,
    (∀ r ∈ rs, ((st.kubernetes.get r.target).getD default).resolved) →
      rs.forM realize st = (.ok (), st)
  | [], _ => rfl
  | r :: rs, h => by
    show (realize r >>= fun _ => rs.forM realize) st = _
    rw [bind_apply, realize_of_resolved (h r (List.mem_cons_self r rs))]
    exact forM_realize_of_resolved rs fun r' hr' => h r' (List.mem_cons_of_mem r hr')

theorem buildAndGenerate_of_resolved {rs : List certificateRequest}
    (hind : ∀ r ∈ rs, waitsFor rs r = false)
    (hres : ∀ r ∈ rs, ((st.kubernetes.get r.target).getD default).resolved) :
    buildAndGenerate rs st = (.ok (), st) := by
  unfold buildAndGenerate
  rw [topologicalOrder_of_independent rs hind]
  exact forM_realize_of_resolved rs hres

/-- `Generate` on a state where every certificate carries material returns `nil` and
changes nothing: every request finds its target resolved. -/
theorem generate_of_resolved (d : Certificate) (h : ∀ s, st.Resolved s) :
    generate d st = (.ok (), st) := by
  have hw : ∀ t, st.withTarget t = st := fun t => by
    obtain ⟨c, hc, -⟩ := h t
    simp [PKIState.withTarget, hc]
  have hres : ∀ t, ((st.kubernetes.get t).getD default).resolved := fun t => by
    obtain ⟨c, hc, hr⟩ := h t
    simp [hc, hr]
  have hapi : st.kubernetes.kubeAPIServer.isNone = false := by
    obtain ⟨c, hc, -⟩ := h .server
    have := Kubernetes.hasSlot_of_get (show (st.kubernetes.get .server).isSome by rw [hc]; rfl)
    simpa [Kubernetes.hasSlot, Slot.inAPIServer] using this
  simp only [generate, bind_apply, kubernetesCACR, kubernetesFrontProxyCACR, kubeAPIServerServerCR,
    kubeAPIServerKubeletCR, kubeAPIServerFrontProxyClientCR, adminCR, kubeControllerManagerCR,
    kubeSchedulerCR, serviceAccountCR, requestFor_eq, hw, wrap_apply]
  rw [buildAndGenerate_of_resolved (by simp [waitsFor]) (by simp [hres])]
  simp only [modify_apply, hapi, Bool.false_eq_true, if_false, hw]
  exact buildAndGenerate_of_resolved (by simp [waitsFor]) (by simp [hres])

/-- **A rerun of `Generate` signs nothing.** From a consistent state with a root CA that
has material or is nil, `Generate` run again on the state it left returns `nil` and leaves
that state as it is: no certificate is issued again and no key is used. -/
theorem generate_rerun (d : Certificate) (hc : st.Consistent) (hroot : st.rootCA.all (·.resolved)) :
    generate d (generate d st).2 = (.ok (), (generate d st).2) :=
  generate_of_resolved d (generate_spec d hc hroot).2.2.1

theorem cold_start_rerun :
    (coldStart.Consistent ∧ coldStart.rootCA.all (·.resolved)) ∧
      generate default (generate default coldStart).2 = (.ok (), (generate default coldStart).2) :=
  ⟨⟨coldStart_consistent, rfl⟩, generate_rerun default coldStart_consistent rfl⟩

end Rerun

/-! ## A CA renewed under kept leaves -/

/-- The certificates a first run from `coldStart` issues, under the keys `1` to `9`, after the
caller removed the material of the Kubernetes CA, `1`, and kept that of its leaves. -/
def caRemoved : PKIState :=
  ⟨{ (default : Kubernetes) with
      ca := some { (default : Certificate) with commonName := kubernetesCACN, ca := true }
      frontProxyCA := some (keyed kubernetesFrontProxyCACN 2 0)
      kubeAPIServer := some ⟨default, [], [], some (keyed "kube-apiserver" 3 1),
        some (keyed "kube-apiserver-kubelet-client" 4 1), some (keyed "front-proxy-client" 5 2)⟩
      adminCertificate := some (keyed "kubernetes-admin" 6 1)
      kubeControllerManagerCertificate := some (keyed "system:kube-controller-manager" 7 1)
      kubeSchedulerCertificate := some (keyed "system:kube-scheduler" 8 1)
      serviceAccountCertificate := some (keyed "" 9 1) },
    some selfSignedRoot, 10⟩

/-- `Generate` on `caRemoved` succeeds and gives the Kubernetes CA the new key `10`, but
keeps the API server certificate signed by the old key `1`: the leaf is not issued by the
CA `k` holds. -/
theorem ca_renewed_leaves_stale :
    (generate default caRemoved).1 = .ok () ∧
    ((generate default caRemoved).2.kubernetes.get .ca).map (·.privateKey) = some (some 10) ∧
    ((generate default caRemoved).2.kubernetes.get .server).map (·.x509Certificate) =
      some (some ⟨3, 1⟩) ∧
    ((generate default caRemoved).2.kubernetes.get .server).bind (fun c =>
      ((generate default caRemoved).2.kubernetes.get .ca).map c.issuedBy) = some false := by
  decide

end Pki

end Flexkube
