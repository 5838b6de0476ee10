import Flexkube.Pki.Chain

/-!
# When Generate Fails

`Kubernetes.Generate` realizes two batches of requests, the two CAs and then the seven
leaves, and either batch could fail with *cycle-in-ca-graph* or *unresolved-ca*. Neither
graph has a cycle, and once the first batch succeeded every leaf's CA carries material. So
`Generate` fails in one way only: the first batch finds the caller's root CA without
material while one of the two CAs still needs signing.

Main results:
- `forM_realize_signs`: a batch whose CAs can sign and whose targets can be written
  succeeds and leaves every target with material, from every state where adding material
  keeps that so.
- `realizeRoots_error_iff`, `realizeRoots_resolved`: the exact failure of a batch of two
  requests signed by the root CA, and what it leaves when it succeeds.
- `generate_error_iff`: `Generate` fails exactly when the root CA is not nil and has no
  material and one of the two CAs has no material either, with the first batch's message.
-/

namespace Flexkube

namespace Pki

open Exec PKIState

/-! ## Requests that can be signed -/

/-- The caller's root CA is not nil and has no material: nothing can be signed with it. -/
def PKIState.RootBlocked (st : PKIState) : Prop := ∃ c, st.rootCA = some c ∧ c.resolved = false

/-- The CA a request points to can sign it: a nil root CA or one with material, or a slot
with material. -/
def PKIState.CanSign (st : PKIState) : CARef → Prop
  | .root => st.rootCA.all (·.resolved)
  | .slot p => st.Resolved p

section Signing

variable {st : PKIState} {r : certificateRequest}

theorem not_rootBlocked_iff : ¬st.RootBlocked ↔ st.rootCA.all (·.resolved) := by
  unfold RootBlocked
  cases st.rootCA <;> simp

theorem getD_resolved_iff (t : Slot) :
    ((st.kubernetes.get t).getD default).resolved ↔ st.Resolved t := by
  unfold Resolved
  cases st.kubernetes.get t <;> simp

instance PKIState.decidableResolved (st : PKIState) (t : Slot) : Decidable (st.Resolved t) :=
  decidable_of_iff _ (getD_resolved_iff t)

instance PKIState.decidableRootBlocked (st : PKIState) : Decidable st.RootBlocked :=
  decidable_of_iff _ (not_iff_comm.1 not_rootBlocked_iff)

theorem PKIState.CanSign.signerFor {ca : CARef} (h : st.CanSign ca) (key : Nat) :
    (st.signerFor ca key).isSome := by
  have hkey : ∀ c : Certificate, c.resolved → c.signingKey.isSome := fun c hc => by
    simp only [Certificate.signingKey, hc, if_true]
    exact (Bool.and_eq_true_iff.1 hc).2
  cases ca with
  | root =>
    unfold CanSign at h
    unfold PKIState.signerFor PKIState.lookup
    cases hr : st.rootCA with
    | none => rfl
    | some c => rw [hr, Option.all_some] at h; exact hkey c h
  | slot p =>
    obtain ⟨c, hc, hres⟩ := h
    simp only [PKIState.signerFor, PKIState.lookup, hc]
    exact hkey c hres

/-- A request whose CA can sign it and whose target can be written succeeds and leaves its
target with material. -/
theorem realize_signs (r : certificateRequest) :
    Triple (fun st => st.CanSign r.ca ∧ st.kubernetes.hasSlot r.target) (realize r)
      (fun _ st => st.Resolved r.target) := by
  rintro st ⟨hs, hslot⟩
  cases ht : ((st.kubernetes.get r.target).getD default).resolved
  · obtain ⟨k, hk⟩ := Option.isSome_iff_exists.1 (hs.signerFor st.nextKey)
    rw [realize_of_signerFor ht hk]
    exact ⟨(), rfl, _, Kubernetes.get_set_self hslot, Certificate.issue_resolved _ _ _⟩
  · rw [realize_of_resolved ht]
    exact ⟨(), rfl, (getD_resolved_iff r.target).1 ht⟩

/-- **A batch that can be signed.** From every state of a property that adding material
keeps and under which every request's CA can sign and its target can be written, a batch
succeeds and leaves every target with material. -/
theorem forM_realize_signs {M : PKIState → Prop} (hM : Lasting M) :
    ∀ rs : List certificateRequest,
      (∀ st, M st → ∀ r ∈ rs, st.CanSign r.ca ∧ st.kubernetes.hasSlot r.target) →
      Triple M (rs.forM realize) (fun _ st => M st ∧ ∀ r ∈ rs, st.Resolved r.target)
  | [], _ => Triple.pure fun _ h => ⟨h, by simp⟩
  | r :: rs, hs => by
    have ih := forM_realize_signs (hM.and (Lasting.resolved r.target)) rs
      fun st h r' hr' => hs st h.1 r' (List.mem_cons_of_mem r hr')
    refine Triple.bind ((Triple.frame (realize_signs r) (realize_grows r) hM).conseq
      (fun st h => ⟨hs st h r (List.mem_cons_self r rs), h⟩) fun _ _ h => ⟨h.2, h.1⟩) fun _ =>
        ih.conseq (fun _ h => h) fun _ _ h => ⟨h.1.1, fun r' hr' => ?_⟩
    rcases List.mem_cons.1 hr' with rfl | hr'
    exacts [h.1.2, h.2 r' hr']

end Signing

/-! ## The batch of the two CAs -/

section Roots

variable {s : PKIState} {a b : certificateRequest}

/-- A request signed by a root CA without material is skipped if its target has material,
and rejected otherwise. -/
theorem realize_of_rootBlocked {r : certificateRequest} (hb : s.RootBlocked) (hr : r.ca = .root) :
    realize r s = if s.Resolved r.target then (.ok (), s) else (.error "unresolved-ca", s) := by
  obtain ⟨c, hc, hres⟩ := hb
  have hs : s.signerFor r.ca s.nextKey = none := by
    simp [PKIState.signerFor, PKIState.lookup, hr, hc, Certificate.signingKey, hres]
  by_cases ht : s.Resolved r.target
  · rw [if_pos ht, realize_of_resolved ((getD_resolved_iff r.target).2 ht)]
  · rw [if_neg ht, realize_of_unresolved_ca
      (Bool.eq_false_iff.2 fun h => ht ((getD_resolved_iff r.target).1 h)) hs]

theorem realizeRoots_of_rootBlocked (hb : s.RootBlocked) (ha : a.ca = .root) (hb' : b.ca = .root) :
    [a, b].forM realize s = if s.Resolved a.target ∧ s.Resolved b.target then (.ok (), s)
      else (.error "unresolved-ca", s) := by
  show (realize a >>= fun _ => realize b >>= fun _ => pure ()) s = _
  rw [bind_apply, realize_of_rootBlocked hb ha]
  by_cases hta : s.Resolved a.target
  · rw [if_pos hta]
    dsimp only
    rw [bind_apply, realize_of_rootBlocked hb hb']
    by_cases htb : s.Resolved b.target <;> simp [hta, htb]
  · simp [hta]

theorem realizeRoots_triple (ha : a.ca = .root) (hb : b.ca = .root) :
    Triple (fun s => ¬s.RootBlocked ∧ s.kubernetes.hasSlot a.target ∧ s.kubernetes.hasSlot b.target)
      ([a, b].forM realize) (fun _ s => ∀ r ∈ [a, b], s.Resolved r.target) := by
  have hM : Lasting fun s : PKIState => s.rootCA.all (·.resolved) ∧ s.kubernetes.hasSlot a.target ∧
      s.kubernetes.hasSlot b.target :=
    fun _ _ h hg => ⟨Lasting.root _ _ h.1 hg, hg.hasSlot _ h.2.1, hg.hasSlot _ h.2.2⟩
  refine (forM_realize_signs hM [a, b] fun s h r hr => ?_).conseq
    (fun _ h => ⟨not_rootBlocked_iff.1 h.1, h.2⟩) fun _ _ h => h.2
  rcases List.mem_pair.1 hr with rfl | rfl
  · exact ⟨by rw [ha]; exact h.1, h.2.1⟩
  · exact ⟨by rw [hb]; exact h.1, h.2.2⟩

/-- **The batch of two roots fails exactly when it cannot sign.** A batch of two requests
signed by the root CA, with targets that can be written, fails exactly when the root CA
is not nil and has no material and one of the targets has no material either. -/
theorem realizeRoots_error_iff (ha : a.ca = .root) (hb : b.ca = .root)
    (hsa : s.kubernetes.hasSlot a.target) (hsb : s.kubernetes.hasSlot b.target) (e : String) :
    ([a, b].forM realize s).1 = .error e ↔
      s.RootBlocked ∧ (¬s.Resolved a.target ∨ ¬s.Resolved b.target) ∧ e = "unresolved-ca" := by
  by_cases hbl : s.RootBlocked
  · rw [realizeRoots_of_rootBlocked hbl ha hb]
    by_cases h : s.Resolved a.target ∧ s.Resolved b.target
    · simp [h]
    · simp [h, hbl, eq_comm, not_and_or.1 h]
  · obtain ⟨_, hok, -⟩ := realizeRoots_triple ha hb s ⟨hbl, hsa, hsb⟩
    rw [hok]
    simp [hbl]

/-- A batch of two roots that succeeded left both targets with material. -/
theorem realizeRoots_resolved (hok : ([a, b].forM realize s).1 = .ok ()) (ha : a.ca = .root)
    (hb : b.ca = .root) (hsa : s.kubernetes.hasSlot a.target) (hsb : s.kubernetes.hasSlot b.target) :
    ([a, b].forM realize s).2.Resolved a.target ∧ ([a, b].forM realize s).2.Resolved b.target := by
  by_cases hbl : s.RootBlocked
  · rw [realizeRoots_of_rootBlocked hbl ha hb] at hok ⊢
    by_cases h : s.Resolved a.target ∧ s.Resolved b.target
    · simpa only [if_pos h] using h
    · simp only [if_neg h] at hok; cases hok
  · obtain ⟨_, -, h⟩ := realizeRoots_triple ha hb s ⟨hbl, hsa, hsb⟩
    exact ⟨h a (by simp), h b (by simp)⟩

end Roots

/-! ## `Generate` -/

section Generate

variable {st : PKIState}

@[simp] theorem hasSlot_ca (k : Kubernetes) : k.hasSlot .ca := by simp [Kubernetes.hasSlot, Slot.inAPIServer]

@[simp] theorem hasSlot_frontProxyCA (k : Kubernetes) : k.hasSlot .frontProxyCA := by
  simp [Kubernetes.hasSlot, Slot.inAPIServer]

theorem withTarget_resolved_iff (t s : Slot) : (st.withTarget t).Resolved s ↔ st.Resolved s := by
  unfold PKIState.withTarget Resolved
  split
  · rename_i h
    rw [Kubernetes.get_set]
    split_ifs with hs
    · obtain ⟨rfl, -⟩ := hs; simp [Option.isNone_iff_eq_none.1 h]
    · rfl
  · rfl

theorem withTarget_rootBlocked (t : Slot) : (st.withTarget t).RootBlocked ↔ st.RootBlocked := by
  unfold PKIState.withTarget
  split <;> rfl

/-- What the leaves need: both CAs carry material and `KubeAPIServer` is not nil. -/
def LeavesReady (st : PKIState) : Prop :=
  st.Resolved .ca ∧ st.Resolved .frontProxyCA ∧ st.kubernetes.kubeAPIServer.isSome

theorem LeavesReady.lasting : Lasting LeavesReady :=
  fun _ _ h hg => ⟨h.1.grows hg, h.2.1.grows hg, Lasting.apiServer _ _ h.2.2 hg⟩

theorem buildAndGenerate_of_independent {rs : List certificateRequest}
    (h : ∀ r ∈ rs, waitsFor rs r = false) : buildAndGenerate rs = rs.forM realize := by
  unfold buildAndGenerate
  rw [topologicalOrder_of_independent rs h]

theorem LeavesReady.withTarget (h : LeavesReady st) (t : Slot) : LeavesReady (st.withTarget t) :=
  LeavesReady.lasting _ _ h (withTarget_grows st t)

theorem LeavesReady.withAPIServer (hca : st.Resolved .ca) (hfp : st.Resolved .frontProxyCA) :
    LeavesReady st.withAPIServer := by
  refine ⟨hca.grows (withAPIServer_grows st), hfp.grows (withAPIServer_grows st), ?_⟩
  unfold PKIState.withAPIServer
  split <;> simp_all [Option.ne_none_iff_isSome]

/-- **The leaves never fail.** Once both CAs carry material and `KubeAPIServer` is not nil,
the batch of the seven leaves succeeds, whatever their chains. -/
theorem leaves_ok {c₁ c₂ c₃ c₄ c₅ c₆ c₇ : List Certificate} (hr : LeavesReady st) :
    (buildAndGenerate [⟨.server, .slot .ca, c₁⟩, ⟨.kubelet, .slot .ca, c₂⟩,
      ⟨.frontProxyClient, .slot .frontProxyCA, c₃⟩, ⟨.admin, .slot .ca, c₄⟩,
      ⟨.controllerManager, .slot .ca, c₅⟩, ⟨.scheduler, .slot .ca, c₆⟩,
      ⟨.serviceAccount, .slot .ca, c₇⟩] st).1 = .ok () := by
  rw [buildAndGenerate_of_independent (by simp [waitsFor])]
  refine (forM_realize_signs LeavesReady.lasting _ (fun st h r hr => ?_) st hr).elim
    fun ⟨⟩ hu => hu.1
  have hslot : ∀ t, st.kubernetes.hasSlot t := fun t => by simp [Kubernetes.hasSlot, h.2.2]
  simp only [List.mem_cons, List.mem_singleton, List.not_mem_nil, or_false] at hr
  rcases hr with rfl | rfl | rfl | rfl | rfl | rfl | rfl
  all_goals first | exact ⟨h.1, hslot _⟩ | exact ⟨h.2.1, hslot _⟩

/-- **When `Generate` fails.** `Generate` returns an error exactly when the caller's root CA
is not nil and has no material while one of the two CAs has no material either, and the
error is then the first batch's *unresolved-ca*: it never reports a cycle, and its leaves
never fail. -/
theorem generate_error_iff (d : Certificate) (st : PKIState) (e : String) :
    (generate d st).1 = .error e ↔ st.RootBlocked ∧ (¬st.Resolved .ca ∨ ¬st.Resolved .frontProxyCA) ∧
      e = "failed to generate kubernetes CA certificates: unresolved-ca" := by
  simp only [generate, kubernetesCACR, kubernetesFrontProxyCACR, kubeAPIServerServerCR,
    kubeAPIServerKubeletCR, kubeAPIServerFrontProxyClientCR, adminCR, kubeControllerManagerCR,
    kubeSchedulerCR, serviceAccountCR, bind_apply, requestFor_eq, modify_apply, wrap_apply]
  rw [buildAndGenerate_of_independent (by simp [waitsFor])]
  have hiff := realizeRoots_error_iff (a := ⟨.ca, .root, [d, (st.withTarget .ca).kubernetes.certificate,
      caCertificate kubernetesCACN]⟩) (b := ⟨.frontProxyCA, .root, [d,
      ((st.withTarget .ca).withTarget .frontProxyCA).kubernetes.certificate,
      caCertificate kubernetesFrontProxyCACN]⟩) (s := (st.withTarget .ca).withTarget .frontProxyCA)
    rfl rfl (hasSlot_ca _) (hasSlot_frontProxyCA _)
  generalize hx : List.forM _ realize ((st.withTarget .ca).withTarget .frontProxyCA) = x at hiff ⊢
  simp only [withTarget_rootBlocked, withTarget_resolved_iff] at hiff
  rcases x with ⟨e' | ⟨⟩, s₃⟩
  · -- the CAs failed
    have h := (hiff e').1 rfl
    simp only [h.2.2] at h ⊢
    constructor
    · rintro ⟨⟩; exact ⟨h.1, h.2.1, rfl⟩
    · rintro ⟨-, -, rfl⟩; rfl
  · -- the CAs succeeded, and the leaves cannot fail
    obtain ⟨hca, hfp⟩ := realizeRoots_resolved (congrArg Prod.fst hx) rfl rfl (hasSlot_ca _)
      (hasSlot_frontProxyCA _)
    rw [hx] at hca hfp
    dsimp only
    rw [leaves_ok]
    · refine ⟨fun h => (by cases h), fun ⟨hb, hr, _⟩ => ?_⟩
      cases (hiff _).2 ⟨hb, hr, rfl⟩
    · repeat apply LeavesReady.withTarget
      exact LeavesReady.withAPIServer hca hfp

end Generate

end Pki

end Flexkube
