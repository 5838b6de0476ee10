import Flexkube.Container.Drift

/-!
# Footprints on the Hosts

What a step of the reconciler does on the hosts for a name `k`: it writes and deletes
config files only at locations `k` owns, a path of one of its entries on the host of one
of its entries (`World.owns`); the only existing container it starts or removes is the
one the current entry of `k` records (`World.recordedId`); and it creates containers under
fresh identifiers. `World.HostFrame` says this of a run, and every step of the passes has
the host frame of its name.

When distinct names own disjoint locations and record distinct containers
(`World.Separated`), a step of one name therefore keeps what the hosts hold for every
other name (`World.Truthful.step`). `World.Truthful` is what the hosts hold for a name:
the container its current entry records exists on that entry's host with its runtime
config, and, once the entry is placed on the desired host, its config files are there.
-/

namespace Flexkube

variable {H C : Type}

/-! ## Footprints -/

namespace World

/-- The entries of `n`: its current one and its desired one. -/
def entries (w : World H C) (n : String) : List (HostConfiguredContainer H C) :=
  (w.currentState.get n).toList ++ (w.desiredState.get n).toList

/-- The locations `n` owns: a path of one of its entries, on the host of one of its
entries. -/
def owns (w : World H C) (n : String) (x : H) (p : String) : Prop :=
  (∃ r ∈ w.entries n, r.host = x) ∧ ∃ r ∈ w.entries n, p ∈ r.configFiles.keys

/-- The identifier of the container the current entry of `n` records. -/
def recordedId (w : World H C) (n : String) : Option Nat :=
  (w.currentState.get n).bind fun r => r.container.status.map (·.id)

/-- Distinct names record distinct containers and own disjoint locations. -/
structure Apart (w : World H C) : Prop where
  ids : ∀ n m i, n ≠ m → w.recordedId n = some i → w.recordedId m ≠ some i
  files : ∀ n m x p, n ≠ m → w.owns n x p → ¬ w.owns m x p

/-- Names are apart, and every recorded identifier was handed out by a runtime. -/
structure Separated (w : World H C) extends Apart w : Prop where
  fresh : ∀ n i, w.recordedId n = some i → i < w.hosts.nextId

/-- From `w` to `w'` the hosts changed only at locations `k` owns, at the container `k`
records and by new containers, and what `k` owns and records stayed within what it did,
or is a new container. -/
structure HostFrame (k : String) (w w' : World H C) : Prop where
  files : ∀ x p, ¬ w.owns k x p → w'.hosts.files x p = w.hosts.files x p
  instances : ∀ i, w.recordedId k ≠ some i → i < w.hosts.nextId →
    w'.hosts.instances i = w.hosts.instances i
  nextId : w.hosts.nextId ≤ w'.hosts.nextId
  owns : ∀ x p, w'.owns k x p → w.owns k x p
  recorded : ∀ i, w'.recordedId k = some i →
    w.recordedId k = some i ∨ w.hosts.nextId ≤ i ∧ i < w'.hosts.nextId

section Lemmas

variable {k n : String} {w w₁ w₂ : World H C}

theorem mem_entries_current {r : HostConfiguredContainer H C} (hr : w.currentState.get n = some r) :
    r ∈ w.entries n := by
  simp [entries, hr]

theorem mem_entries_desired {d : HostConfiguredContainer H C} (hd : w.desiredState.get n = some d) :
    d ∈ w.entries n := by
  simp [entries, hd]

theorem recordedId_of_status {r : HostConfiguredContainer H C} {s : ContainerStatus}
    (hr : w.currentState.get n = some r) (hs : r.container.status = some s) :
    w.recordedId n = some s.id := by
  simp [recordedId, hr, hs]

/-- A location of an entry's config files, on that entry's host, is owned. -/
theorem owns_of_mem {r : HostConfiguredContainer H C} {p : String} {v : String}
    (hr : r ∈ w.entries n) (hp : r.configFiles.get p = some v) : w.owns n r.host p :=
  ⟨⟨r, hr, rfl⟩, r, hr, r.configFiles.mem_keys_of_get hp⟩

/-- Owning less: every entry afterwards was an entry before. -/
theorem owns_mono (h : ∀ r ∈ w₁.entries n, r ∈ w.entries n) {x : H} {p : String}
    (ho : w₁.owns n x p) : w.owns n x p :=
  ⟨let ⟨r, hr, hx⟩ := ho.1; ⟨r, h r hr, hx⟩, let ⟨r, hr, hp⟩ := ho.2; ⟨r, h r hr, hp⟩⟩

theorem entries_of_frame (hfr : World.Frame k w w₁) (hn : n ≠ k) : w₁.entries n = w.entries n := by
  simp [entries, hfr.current n hn, hfr.desired n hn]

theorem recordedId_of_frame (hfr : World.Frame k w w₁) (hn : n ≠ k) :
    w₁.recordedId n = w.recordedId n := by
  simp [recordedId, hfr.current n hn]

end Lemmas

namespace HostFrame

variable {k : String} {w w₁ w₂ : World H C}

theorem refl (k : String) (w : World H C) : HostFrame k w w :=
  ⟨fun _ _ _ => rfl, fun _ _ _ => rfl, le_rfl, fun _ _ h => h, fun _ h => .inl h⟩

theorem trans (h₁ : HostFrame k w w₁) (h₂ : HostFrame k w₁ w₂) : HostFrame k w w₂ where
  files x p hx := (h₂.files x p fun h => hx (h₁.owns x p h)).trans (h₁.files x p hx)
  instances i hi hlt := by
    have hi₁ : w₁.recordedId k ≠ some i := fun h => by
      rcases h₁.recorded i h with h | ⟨h, _⟩
      · exact hi h
      · omega
    exact (h₂.instances i hi₁ (lt_of_lt_of_le hlt h₁.nextId)).trans (h₁.instances i hi hlt)
  nextId := h₁.nextId.trans h₂.nextId
  owns x p h := h₁.owns x p (h₂.owns x p h)
  recorded i h := by
    rcases h₂.recorded i h with h | ⟨h, h'⟩
    · rcases h₁.recorded i h with h | ⟨h, h''⟩
      · exact .inl h
      · exact .inr ⟨h, lt_of_lt_of_le h'' h₂.nextId⟩
    · exact .inr ⟨h₁.nextId.trans h, h'⟩

section Effects

variable {r d v : HostConfiguredContainer H C}

/-- An effect on the entries of `k` alone, whose hosts are the hosts of entries `k` had
and whose paths are paths `k` had, recording nothing new. -/
theorem of_entries {w' : World H C} (hfiles : w'.hosts.files = w.hosts.files)
    (hinst : w'.hosts.instances = w.hosts.instances) (hnext : w'.hosts.nextId = w.hosts.nextId)
    (howns : ∀ x p, w'.owns k x p → w.owns k x p)
    (hrec : w'.recordedId k = none ∨ w'.recordedId k = w.recordedId k) : HostFrame k w w' where
  files _ _ _ := by rw [hfiles]
  instances _ _ _ := by rw [hinst]
  nextId := hnext.ge
  owns := howns
  recorded i h := by
    rcases hrec with h' | h'
    · rw [h'] at h; cases h
    · exact .inl (h' ▸ h)

theorem record (e : Event) : HostFrame k w (w.record e) :=
  of_entries rfl rfl rfl (fun _ _ h => h) (.inr rfl)

theorem deleteCurrent : HostFrame k w (w.deleteCurrent k) :=
  of_entries rfl rfl rfl (fun _ _ => owns_mono fun r hr => by simp_all [entries])
    (.inl (by simp [recordedId]))

/-- Making `v` the current entry of `k`, when `v` is placed on a host of `k`'s entries,
owns paths of them, and records no container or the one `k` records. -/
theorem setCurrent (hhost : ∃ r ∈ w.entries k, r.host = v.host)
    (hkeys : ∀ p ∈ v.configFiles.keys, ∃ r ∈ w.entries k, p ∈ r.configFiles.keys)
    (hid : v.container.status.map (·.id) = none ∨ v.container.status.map (·.id) = w.recordedId k) :
    HostFrame k w (w.setCurrent k v) := by
  refine of_entries rfl rfl rfl (fun x p ⟨⟨r, hr, hx⟩, ⟨r', hr', hp⟩⟩ => ⟨?_, ?_⟩)
    (by simpa [recordedId] using hid)
  · simp only [entries, World.setCurrent_currentState, GoMap.get_set_self, Option.toList_some,
      World.setCurrent_desiredState, List.singleton_append, List.mem_cons] at hr
    rcases hr with rfl | hr
    · exact hx ▸ hhost
    · exact ⟨r, List.mem_append_right _ hr, hx⟩
  · simp only [entries, World.setCurrent_currentState, GoMap.get_set_self, Option.toList_some,
      World.setCurrent_desiredState, List.singleton_append, List.mem_cons] at hr'
    rcases hr' with rfl | hr'
    · exact hkeys p hp
    · exact ⟨r', List.mem_append_right _ hr', hp⟩

end Effects

end HostFrame

/-- A world that holds entries for one name only is apart. -/
theorem Apart.of_single {w : World H C} {k : String} (h : ∀ n, w.entries n ≠ [] → n = k) : w.Apart where
  ids n m i hnm hn hm := by
    have hne : ∀ n, (w.recordedId n).isSome → w.entries n ≠ [] := fun n hn => by
      cases hr : w.currentState.get n with
      | none => simp [recordedId, hr] at hn
      | some r => exact List.ne_nil_of_mem (mem_entries_current hr)
    exact hnm ((h n (hne n (by simp [hn]))).trans (h m (hne m (by simp [hm]))).symm)
  files n m x p hnm hn hm := by
    obtain ⟨⟨r, hr, -⟩, -⟩ := hn
    obtain ⟨⟨r', hr', -⟩, -⟩ := hm
    exact hnm ((h n (List.ne_nil_of_mem hr)).trans (h m (List.ne_nil_of_mem hr')).symm)

/-- A world that holds entries for the names `a` and `b` only is apart when the two
record different containers and own no location in common. -/
theorem Apart.of_pair {w : World H C} {a b : String} (h : ∀ n, w.entries n ≠ [] → n = a ∨ n = b)
    (hid : ∀ i, w.recordedId a = some i → w.recordedId b ≠ some i)
    (hfiles : ∀ x p, w.owns a x p → ¬ w.owns b x p) : w.Apart where
  ids n m i hnm hn hm := by
    have hne : ∀ n, (w.recordedId n).isSome → w.entries n ≠ [] := fun n hn => by
      cases hr : w.currentState.get n with
      | none => simp [recordedId, hr] at hn
      | some r => exact List.ne_nil_of_mem (mem_entries_current hr)
    rcases h n (hne n (by simp [hn])) with rfl | rfl <;> rcases h m (hne m (by simp [hm])) with rfl | rfl
    exacts [absurd rfl hnm, hid i hn hm, hid i hm hn, absurd rfl hnm]
  files n m x p hnm hn hm := by
    have hne : ∀ n, w.owns n x p → w.entries n ≠ [] := fun _ ⟨⟨_, hr, _⟩, _⟩ => List.ne_nil_of_mem hr
    rcases h n (hne n hn) with rfl | rfl <;> rcases h m (hne m hm) with rfl | rfl
    exacts [absurd rfl hnm, hfiles x p hn hm, hfiles x p hm hn, absurd rfl hnm]

/-- A world whose maps hold the name `k` alone is apart. -/
theorem Apart.of_singletons {k : String} {r d : HostConfiguredContainer H C} {h : Hosts H C} :
    (⟨GoMap.ofList [(k, r)], GoMap.ofList [(k, d)], h⟩ : World H C).Apart :=
  Apart.of_single (k := k) fun n hn => by
    by_contra hk
    exact hn (by simp [World.entries, GoMap.ofList, hk])

/-- A step with the frame and the host frame of `k` keeps the names separated. -/
theorem Separated.step {k : String} {w w₁ : World H C} (hs : w.Separated) (hfr : World.Frame k w w₁)
    (hh : HostFrame k w w₁) : w₁.Separated := by
  -- what a name records afterwards it recorded before, or it is `k` and a new container
  have hrec : ∀ n i, w₁.recordedId n = some i →
      w.recordedId n = some i ∨ n = k ∧ w.hosts.nextId ≤ i ∧ i < w₁.hosts.nextId := fun n i h => by
    by_cases hn : n = k
    · subst hn
      rcases hh.recorded i h with h | h
      exacts [.inl h, .inr ⟨rfl, h⟩]
    · exact .inl (by rwa [recordedId_of_frame hfr hn] at h)
  have howns : ∀ n x p, w₁.owns n x p → w.owns n x p := fun n x p h => by
    by_cases hn : n = k
    · exact hn ▸ hh.owns x p (hn ▸ h)
    · exact owns_mono (fun r hr => by rwa [entries_of_frame hfr hn] at hr) h
  refine ⟨⟨fun n m i hnm hn hm => ?_, fun n m x p hnm hn hm =>
    hs.files n m x p hnm (howns n x p hn) (howns m x p hm)⟩, fun n i hn => ?_⟩
  · rcases hrec n i hn with hn' | ⟨rfl, hlo, -⟩ <;> rcases hrec m i hm with hm' | ⟨rfl, hlo', -⟩
    · exact hs.ids n m i hnm hn' hm'
    · exact absurd (hs.fresh n i hn') (not_lt.2 hlo')
    · exact absurd (hs.fresh m i hm') (not_lt.2 hlo)
    · exact hnm rfl
  · rcases hrec n i hn with h | ⟨-, -, h⟩
    exacts [lt_of_lt_of_le (hs.fresh n i h) hh.nextId, h]

end World

/-! ## What the hosts hold for a name -/

variable [DecidableEq H]

namespace Hosts

variable {h : Hosts H C} {x : H} {j : Nat}

/-- What a runtime reports for a container depends only on the container. -/
theorem find_congr {h' : Hosts H C} (hj : h'.instances j = h.instances j) : h'.find x j = h.find x j := by
  simp [find, hj]

theorem find_startAt_self {s : ContainerStatus} {i : Instance H C} (hi : h.find x s.id = some i) :
    (h.startAt x (some s)).find x s.id = some { i with running := true } := by
  simp only [find, Option.filter_eq_some, Option.mem_def, decide_eq_true_eq] at hi
  simp [find, startAt, hi.1, hi.2]

theorem find_spawn_self (i : Instance H C) : (h.spawn i).find i.host h.nextId = some i := by
  simp [find]

end Hosts

namespace World

/-- The hosts agree with the current entry of `n`: the container it records exists on
its host with its runtime config, running if the status says so; and when the entry is
placed on the desired host, its config files are on that host. -/
structure Truthful (w : World H C) (n : String) : Prop where
  container : ∀ r s, w.currentState.get n = some r → r.container.status = some s →
    ∃ i, w.hosts.find r.host s.id = some i ∧ i.config = r.container.config ∧ (s.running → i.running)
  files : ∀ r d, w.currentState.get n = some r → w.desiredState.get n = some d → r.host = d.host →
    ∀ p v, r.configFiles.get p = some v → w.hosts.files r.host p = some v

/-- The container the current entry of `n` records runs. -/
def Running (w : World H C) (n : String) : Prop :=
  ∀ r s, w.currentState.get n = some r → r.container.status = some s →
    ∃ i, w.hosts.find r.host s.id = some i ∧ i.running

section Others

variable {k n : String} {w w₁ : World H C}

/-- The container another name records is untouched by a step of `k`. -/
theorem find_of_step (hs : w.Separated) (hh : HostFrame k w w₁) (hn : n ≠ k)
    {r : HostConfiguredContainer H C} {s : ContainerStatus}
    (hr : w.currentState.get n = some r) (hst : r.container.status = some s) :
    w₁.hosts.find r.host s.id = w.hosts.find r.host s.id :=
  have hid := recordedId_of_status hr hst
  Hosts.find_congr (hh.instances s.id (hs.ids n k s.id hn hid) (hs.fresh n s.id hid))

/-- **A step of `k` keeps what the hosts hold for every other name.** -/
theorem Truthful.step (hs : w.Separated) (hfr : World.Frame k w w₁) (hh : HostFrame k w w₁)
    (hn : n ≠ k) (ht : w.Truthful n) : w₁.Truthful n where
  container r s hr hst := by
    rw [hfr.current n hn] at hr
    rw [find_of_step hs hh hn hr hst]
    exact ht.container r s hr hst
  files r d hr hd hrd p v hp := by
    rw [hfr.current n hn] at hr
    rw [hfr.desired n hn] at hd
    rw [hh.files _ _ fun ho => hs.files n k _ _ hn (owns_of_mem (mem_entries_current hr) hp) ho]
    exact ht.files r d hr hd hrd p v hp

theorem Running.step (hs : w.Separated) (hfr : World.Frame k w w₁) (hh : HostFrame k w w₁)
    (hn : n ≠ k) (ht : w.Running n) : w₁.Running n := fun r s hr hst => by
  rw [hfr.current n hn] at hr
  rw [find_of_step hs hh hn hr hst]
  exact ht r s hr hst

end Others

/-! ## The host frames of the effects -/

namespace HostFrame

variable {k : String} {w : World H C} {r d v : HostConfiguredContainer H C}

theorem configure (hd : w.desiredState.get k = some d) (fs : List String) :
    HostFrame k w (w.configure d fs) where
  files x p hx := by
    simp only [World.configure_hosts, Hosts.writeFiles]
    rw [if_neg]
    rintro ⟨rfl, -, hp⟩
    obtain ⟨v, hv⟩ := Option.isSome_iff_exists.1 hp
    exact hx (owns_of_mem (mem_entries_desired hd) hv)
  instances _ _ _ := rfl
  nextId := le_rfl
  owns _ _ h := h
  recorded _ h := .inl h

theorem start (hr : w.currentState.get k = some r) : HostFrame k w (w.start r) where
  files _ _ _ := rfl
  instances i hi _ := by
    simp only [World.start_hosts, Hosts.startAt]
    rw [if_neg]
    rintro ⟨h, -⟩
    exact hi (by simp [recordedId, hr, h])
  nextId := le_rfl
  owns _ _ h := h
  recorded _ h := .inl h

theorem removeContainer (hr : w.currentState.get k = some r) :
    HostFrame k w (w.removeContainer k r) where
  files x p hx := by
    simp only [World.removeContainer_hosts, Hosts.removeFiles, Hosts.removeAt_files]
    rw [if_neg]
    rintro ⟨rfl, hp⟩
    obtain ⟨v, hv⟩ := r.configFiles.get_of_mem_keys hp
    exact hx (owns_of_mem (mem_entries_current hr) hv)
  instances i hi _ := by
    simp only [World.removeContainer_hosts, Hosts.removeFiles_instances, Hosts.removeAt]
    rw [if_neg]
    rintro ⟨h, -⟩
    exact hi (by simp [recordedId, hr, h])
  nextId := le_rfl
  owns _ _ := owns_mono fun r hr => by simp_all [entries]
  recorded i h := by simp [recordedId] at h

/-- `CreateAndStart(k)` and then making `v`, which records the new container, current. -/
theorem created (hd : w.desiredState.get k = some d) (hhost : ∃ r ∈ w.entries k, r.host = v.host)
    (hkeys : ∀ p ∈ v.configFiles.keys, ∃ r ∈ w.entries k, p ∈ r.configFiles.keys)
    (hid : v.container.status = some ⟨w.hosts.nextId, true⟩) :
    HostFrame k w ((w.createAndStart k d).setCurrent k v) where
  files x p hx := by
    simp only [World.setCurrent_hosts, World.createAndStart_hosts, Hosts.spawn_files, Hosts.writeFiles]
    rw [if_neg]
    rintro ⟨rfl, -, hp⟩
    obtain ⟨v, hv⟩ := Option.isSome_iff_exists.1 hp
    exact hx (owns_of_mem (mem_entries_desired hd) hv)
  instances i _ hlt := by
    simp [Function.update_noteq (Nat.ne_of_lt hlt)]
  nextId := Nat.le_succ _
  owns x p := fun ⟨⟨r, hr, hx⟩, ⟨r', hr', hp⟩⟩ => by
    simp only [entries, World.setCurrent_currentState, GoMap.get_set_self, Option.toList_some,
      World.setCurrent_desiredState, World.createAndStart_desiredState, List.singleton_append,
      List.mem_cons, List.mem_singleton, List.mem_nil_iff, or_false] at hr hr'
    refine ⟨?_, ?_⟩
    · rcases hr with rfl | rfl
      · exact hx ▸ hhost
      · exact ⟨d, mem_entries_desired hd, hx⟩
    · rcases hr' with rfl | rfl
      · exact hkeys p hp
      · exact ⟨d, mem_entries_desired hd, hp⟩
  recorded i h := by
    simp only [recordedId, World.setCurrent_currentState, GoMap.get_set_self, Option.some_bind, hid,
      Option.map_some', Option.some.injEq] at h
    exact .inr (h ▸ ⟨le_rfl, Nat.lt_succ_self _⟩)

/-- `ensureConfigured` of `k`, unless it makes current a desired entry that records a
container. -/
theorem configured (hd : w.desiredState.get k = some d)
    (hA : w.currentState.get k = none → d.container.status = none) :
    HostFrame k w (w.configured k d) := by
  unfold World.configured
  refine (record _).trans ((configure ?_ _).trans (setCurrent ?_ ?_ ?_))
  · exact hd
  · cases hr : w.currentState.get k with
    | none => exact ⟨d, mem_entries_desired hd, rfl⟩
    | some r => exact ⟨r, mem_entries_current hr, rfl⟩
  · exact fun p hp => ⟨d, mem_entries_desired hd, by simpa using hp⟩
  · cases hr : w.currentState.get k with
    | none => exact .inl (by simp [configuredEntry, hA hr])
    | some r => exact .inr (by simp [configuredEntry, recordedId, hr])

/-- `RemoveContainer(k)`, `CreateAndStart(k)` and recording the new container as current. -/
theorem recreated (hr : w.currentState.get k = some r) (hd : w.desiredState.get k = some d) :
    HostFrame k w (w.recreated k r d) := by
  unfold World.recreated
  refine (record _).trans ((removeContainer ?_).trans ((record _).trans (created ?_ ?_ ?_ ?_)))
  · exact hr
  · simpa using hd
  · exact ⟨d, mem_entries_desired hd, rfl⟩
  · exact fun p hp => ⟨d, mem_entries_desired hd, hp⟩
  · simp [HostConfiguredContainer.started]

end HostFrame

/-! ## What a step of `k` leaves on the hosts for `k` -/

section Own

variable {k : String} {w : World H C} {r d v : HostConfiguredContainer H C}

/-- `CreateAndStart(k)` and recording the new container in an entry placed like the
desired one: the new container runs on the desired host with the desired runtime config,
and every desired config file is there. -/
theorem truthful_created (hh : v.host = d.host)
    (hc : v.container.config = d.container.config) (hfl : v.configFiles = d.configFiles)
    (hs : v.container.status = some ⟨w.hosts.nextId, true⟩) :
    ((w.createAndStart k d).setCurrent k v).Truthful k ∧ ((w.createAndStart k d).setCurrent k v).Running k := by
  have hfind : ((w.createAndStart k d).setCurrent k v).hosts.find v.host w.hosts.nextId =
      some ⟨k, d.host, d.container.config, true⟩ := by
    rw [hh]; exact Hosts.find_spawn_self (h := w.hosts.writeFiles d.host d.configFiles d.configFiles.keys) _
  refine ⟨⟨fun r s hr hst => ?_, fun r d' hr _ _ p x hp => ?_⟩, fun r s hr hst => ?_⟩ <;>
    simp only [World.setCurrent_currentState, GoMap.get_set_self, Option.some.injEq] at hr <;> subst hr
  · rw [hs, Option.some.injEq] at hst
    subst hst
    exact ⟨_, hfind, hc.symm, fun _ => rfl⟩
  · rw [hfl] at hp
    simp [Hosts.writeFiles, hh, hp, d.configFiles.mem_keys_of_get hp]
  · rw [hs, Option.some.injEq] at hst
    subst hst
    exact ⟨_, hfind, rfl⟩

theorem truthful_recreated :
    (w.recreated k r d).Truthful k ∧ (w.recreated k r d).Running k :=
  truthful_created rfl rfl rfl (by simp [HostConfiguredContainer.started])

/-- `Start` of the recorded container of `k`: it runs. -/
theorem truthful_start (ht : w.Truthful k) (hr : w.currentState.get k = some r) :
    ((w.record (.start k)).start r).Truthful k ∧ ((w.record (.start k)).start r).Running k := by
  have hfind : ∀ s, r.container.status = some s → ∃ i,
      ((w.record (.start k)).start r).hosts.find r.host s.id = some i ∧
        i.config = r.container.config ∧ i.running := fun s hst => by
    obtain ⟨i, hi, hc, -⟩ := ht.container r s hr hst
    refine ⟨{ i with running := true }, ?_, hc, rfl⟩
    show ((w.hosts.record _).startAt r.host r.container.status).find r.host s.id = _
    rw [hst]
    exact Hosts.find_startAt_self hi
  refine ⟨⟨fun r' s hr' hst => ?_, fun r' d hr' hd hrd => ht.files r' d hr' hd hrd⟩, fun r' s hr' hst => ?_⟩ <;>
    obtain rfl : r' = r := Option.some.inj (hr'.symm.trans hr)
  · obtain ⟨i, hi, hc, hrun⟩ := hfind s hst
    exact ⟨i, hi, hc, fun _ => hrun⟩
  · obtain ⟨i, hi, -, hrun⟩ := hfind s hst
    exact ⟨i, hi, hrun⟩

/-- `ensureConfigured` of an existing entry of `k`: its container is untouched, and once it
is on the desired host, every desired file is there, written now or already in place. -/
theorem truthful_configured (ht : w.Truthful k) (hr : w.currentState.get k = some r)
    (hd : w.desiredState.get k = some d) : (w.configured k d).Truthful k := by
  refine ⟨fun r' s hr' hst => ?_, fun r' d' hr' hd' hrd p x hp => ?_⟩ <;>
    simp only [World.configured_get_self, hr, configuredEntry, Option.some.injEq] at hr' <;> subst hr'
  · exact ht.container r s hr hst
  · obtain rfl : d' = d := by simpa [World.configured, hd] using hd'.symm
    simp only [World.configured, World.setCurrent_hosts, World.configure_hosts, Hosts.writeFiles,
      World.record_hosts, Hosts.record_files, hr, withFiles_host, withFiles_configFiles] at hp hrd ⊢
    by_cases hp' : p ∈ filesToUpdate d' (some r)
    · simp [hrd, hp', hp]
    · have hrp : r.configFiles.get p = some x := by
        by_contra hne
        exact hp' (mem_filesToUpdate.2 ⟨x, hp, hne⟩)
      simp [hp', ht.files r d' hr hd hrd p x hrp]

theorem running_configured (hR : w.Running k) (hr : w.currentState.get k = some r) :
    (w.configured k d).Running k := fun r' s hr' hst => by
  simp only [World.configured_get_self, hr, configuredEntry, Option.some.injEq] at hr'
  subst hr'
  exact hR r s hr hst

end Own

/-! ## The passes on the hosts -/

/-- What pass 2 needs of a name: the hosts agree with its current entry, whose container
exists and runs, and a name with no current entry has a desired entry that records no
container. -/
structure Ready2 (w : World H C) (n : String) : Prop where
  truthful : w.Truthful n
  running : w.Running n
  present : ∀ r, w.currentState.get n = some r → r.container.exists
  fresh : w.currentState.get n = none → ∀ d, w.desiredState.get n = some d → d.container.status = none

/-- What pass 3 needs of a name: the hosts agree with its current entry, whose container
exists and runs, and which is desired. -/
structure Ready3 (w : World H C) (n : String) : Prop where
  truthful : w.Truthful n
  running : w.Running n
  present : ∀ r, w.currentState.get n = some r → r.container.exists ∧ (w.desiredState.get n).isSome

section Passes

variable {k n : String} {w w₁ : World H C} {r d : HostConfiguredContainer H C}

theorem Ready2.step (hs : w.Separated) (hfr : World.Frame k w w₁) (hh : HostFrame k w w₁)
    (hn : n ≠ k) (h : w.Ready2 n) : w₁.Ready2 n :=
  ⟨h.truthful.step hs hfr hh hn, h.running.step hs hfr hh hn,
    by rw [hfr.current n hn]; exact h.present, by rw [hfr.current n hn, hfr.desired n hn]; exact h.fresh⟩

theorem Ready3.step (hs : w.Separated) (hfr : World.Frame k w w₁) (hh : HostFrame k w w₁)
    (hn : n ≠ k) (h : w.Ready3 n) : w₁.Ready3 n :=
  ⟨h.truthful.step hs hfr hh hn, h.running.step hs hfr hh hn,
    by rw [hfr.current n hn, hfr.desired n hn]; exact h.present⟩

/-- Pass 1 on a current name: it is dropped, or its container runs. -/
theorem pass1Step_hosts (hf : w.hosts.NoFaults) (ht : w.Truthful k) (hr : w.currentState.get k = some r) :
    ∃ w', pass1Step k r w = (.ok (), w') ∧ HostFrame k w w' ∧ w'.Truthful k ∧ w'.Running k := by
  cases he : r.container.exists
  · exact ⟨_, pass1Step_gone he, HostFrame.deleteCurrent,
      ⟨fun _ _ h => by simp at h, fun _ _ h => by simp at h⟩, fun _ _ h => by simp at h⟩
  cases hrun : r.container.isRunning
  · refine ⟨_, pass1Step_stopped hf he hrun, (HostFrame.record _).trans (HostFrame.start ?_),
      truthful_start ht hr⟩
    exact hr
  · refine ⟨_, pass1Step_running he hrun, HostFrame.refl k w, ht, fun r' s hr' hst => ?_⟩
    obtain rfl := Option.some.inj (hr'.symm.trans hr)
    obtain ⟨i, hi, -, hrun'⟩ := ht.container r' s hr' hst
    exact ⟨i, hi, hrun' (by simpa [Container.isRunning, hst] using hrun)⟩

/-- Pass 2 on a desired name: its entry ends current, existing and running, with the
hosts agreeing with it. -/
theorem pass2Step_hosts (hf : w.hosts.NoFaults) (hR : w.Ready2 k) (hd : w.desiredState.get k = some d) :
    ∃ w', pass2Step k w = (.ok (), w') ∧ HostFrame k w w' ∧ w'.Ready2 k := by
  cases hr : w.currentState.get k with
  | some r =>
    have he := hR.present r hr
    refine ⟨_, pass2Step_present hf hd (by simpa [hr] using he), HostFrame.configured hd (by simp [hr]),
      truthful_configured hR.truthful hr hd, running_configured hR.running hr, fun r' h' => ?_,
      fun h => by simp [hr] at h⟩
    simp only [World.configured_get_self, hr, configuredEntry, Option.some.injEq] at h'
    subst h'
    exact he
  | none =>
    have hA := hR.fresh hr d hd
    have hd₁ : (w.configured k d).desiredState.get k = some d := by simpa [World.configured] using hd
    obtain ⟨ht', hrun'⟩ := truthful_created (k := k) (w := (w.configured k d).record (.createAndStart k))
      (d := d) (v := (configuredEntry d (w.currentState.get k)).withStatus (some ⟨w.hosts.nextId, true⟩))
      (by simp [hr, configuredEntry]) (by simp [hr, configuredEntry]) (by simp) (by simp)
    refine ⟨_, pass2Step_create hf hd (by simp [hr, Container.exists, hA]),
      (HostFrame.configured hd fun _ => hA).trans ((HostFrame.record _).trans
        (HostFrame.created hd₁ ⟨_, mem_entries_current (World.configured_get_self w k d), rfl⟩
          (fun p hp => ⟨d, mem_entries_desired hd₁, by simpa using hp⟩) (by simp))),
      ht', hrun', fun r' h' => ?_, fun h => by simp at h⟩
    simp only [World.setCurrent_currentState, GoMap.get_set_self, Option.some.injEq] at h'
    subst h'
    rfl

/-- A current name that stays placed as it was after `ensureConfigured`. -/
theorem Ready3.configured (hR : w.Ready3 k) (hr : w.currentState.get k = some r)
    (hd : w.desiredState.get k = some d) : (w.configured k d).Ready3 k :=
  ⟨truthful_configured hR.truthful hr hd, running_configured hR.running hr, fun r' h' => by
    simp only [World.configured_get_self, hr, configuredEntry, Option.some.injEq] at h'
    subst h'
    exact ⟨(hR.present r hr).1, by simpa [World.configured] using (hR.present r hr).2⟩⟩

theorem ready3_recreated : (w.recreated k r d).Ready3 k :=
  ⟨truthful_recreated.1, truthful_recreated.2, fun r' h' => by
    simp only [World.recreated_current_self, Option.some.injEq] at h'
    subst h'
    simp [HostConfiguredContainer.started, Container.exists]⟩

/-- Pass 1 keeps the hosts agreeing with every current entry, and leaves the container of
every name it visits running. -/
theorem pass1_hosts (ks : List String) (hf : w.hosts.NoFaults) (hs : w.Separated)
    (ht : ∀ n, w.Truthful n) :
    ∃ w', rangeMap (·.currentState) (fun n r => pass1Step n r) ks w = (.ok (), w') ∧
      w'.hosts.NoFaults ∧ w'.Separated ∧ (∀ n, w'.Truthful n) ∧ ∀ n ∈ ks, w'.Running n := by
  obtain ⟨w', h, hf', hs', ht', hrun⟩ := rangeMap_inv
    (fun vis w => w.hosts.NoFaults ∧ w.Separated ∧ (∀ n, w.Truthful n) ∧ ∀ n ∈ vis, w.Running n)
    (fun vis k v w ⟨hf, hs, ht, hrun⟩ hk => by
      obtain ⟨w', h, hh, htk, hrk⟩ := pass1Step_hosts hf (ht k) hk
      have hfr := (pass1Step_framed v).frame h
      refine ⟨w', h, hfr.noFaults hf, hs.step hfr hh, fun n => ?_, fun n hn => ?_⟩ <;>
        by_cases hnk : n = k
      · exact hnk ▸ htk
      · exact (ht n).step hs hfr hh hnk
      · exact hnk ▸ hrk
      · exact (hrun n ((List.mem_cons.1 hn).resolve_left hnk)).step hs hfr hh hnk)
    (fun vis k w ⟨hf, hs, ht, hrun⟩ hk => ⟨hf, hs, ht, fun n hn r s hr => by
      rcases List.mem_cons.1 hn with rfl | hn
      · simp [hk] at hr
      · exact hrun n hn r s hr⟩)
    ks [] w ⟨hf, hs, ht, by simp⟩
  exact ⟨w', h, hf', hs', ht', fun n hn => hrun n (by simpa using hn)⟩

/-- Pass 2 keeps every name ready for pass 3's needs but for being desired. -/
theorem pass2_hosts (ks : List String) (hf : w.hosts.NoFaults) (hs : w.Separated)
    (hR : ∀ n, w.Ready2 n) :
    ∃ w', rangeMap (·.desiredState) (fun i _ => pass2Step i) ks w = (.ok (), w') ∧
      w'.hosts.NoFaults ∧ w'.Separated ∧ ∀ n, w'.Ready2 n := by
  obtain ⟨w', h, hI⟩ := rangeMap_inv
    (fun _ w => w.hosts.NoFaults ∧ w.Separated ∧ ∀ n, w.Ready2 n)
    (fun _ k _ w ⟨hf, hs, hR⟩ hk => by
      obtain ⟨w', h, hh, hRk⟩ := pass2Step_hosts hf (hR k) hk
      have hfr := pass2Step_framed.frame h
      refine ⟨w', h, hfr.noFaults hf, hs.step hfr hh, fun n => ?_⟩
      by_cases hnk : n = k
      exacts [hnk ▸ hRk, (hR n).step hs hfr hh hnk])
    (fun _ _ _ hI _ => hI) ks [] w ⟨hf, hs, hR⟩
  exact ⟨w', h, hI⟩

variable [DecidableEq C]

/-- Pass 3 on a current name that is desired: whatever drifted, it ends current, existing
and running, with the hosts agreeing with it. -/
theorem pass3Step_hosts (hf : w.hosts.NoFaults) (hR : w.Ready3 k) (hr : w.currentState.get k = some r) :
    ∃ w', pass3Step k w = (.ok (), w') ∧ HostFrame k w w' ∧ w'.Ready3 k := by
  obtain ⟨d, hd⟩ := Option.isSome_iff_exists.1 (hR.present r hr).2
  have hc : (w.configured k d).currentState.get k = some (r.withFiles d.configFiles) := by
    simp [hr, configuredEntry]
  by_cases h1 : r.host = d.host
  · by_cases h2 : r.container.config = d.container.config
    · exact ⟨_, pass3Step_noDrift hf hr hd h1 h2, HostFrame.configured hd (by simp [hr]),
        hR.configured hr hd⟩
    · exact ⟨_, pass3Step_configDrift hf hr hd h1 h2, (HostFrame.configured hd (by simp [hr])).trans
        (HostFrame.recreated hc (by simpa [World.configured] using hd)), ready3_recreated⟩
  · have hc' := World.recreated_current_self w k r d
    have hd' := World.recreated_desired_self w k r d
    exact ⟨_, pass3Step_hostDrift hf hr hd h1, (HostFrame.recreated hr hd).trans
      (HostFrame.configured hd' (by simp [hc'])), ready3_recreated.configured hc' hd'⟩

/-- Pass 3 keeps every name ready. -/
theorem pass3_hosts (ks : List String) (hf : w.hosts.NoFaults) (hs : w.Separated)
    (hR : ∀ n, w.Ready3 n) :
    ∃ w', rangeMap (·.currentState) (fun i _ => pass3Step i) ks w = (.ok (), w') ∧ ∀ n, w'.Ready3 n := by
  obtain ⟨w', h, -, -, hR'⟩ := rangeMap_inv
    (fun _ w => w.hosts.NoFaults ∧ w.Separated ∧ ∀ n, w.Ready3 n)
    (fun _ k _ w ⟨hf, hs, hR⟩ hk => by
      obtain ⟨w', h, hh, hRk⟩ := pass3Step_hosts hf (hR k) hk
      have hfr := pass3Step_framed.frame h
      refine ⟨w', h, hfr.noFaults hf, hs.step hfr hh, fun n => ?_⟩
      by_cases hnk : n = k
      exacts [hnk ▸ hRk, (hR n).step hs hfr hh hnk])
    (fun _ _ _ hI _ => hI) ks [] w ⟨hf, hs, hR⟩
  exact ⟨w', h, hR'⟩

end Passes

/-! ## What `CheckState` establishes -/

section CheckState

variable {w : World H C} {n : String}

/-- The identifier a refreshed entry records names a container its host holds. -/
theorem recordedId_checkState {i : Nat} (h : w.checkState.recordedId n = some i) :
    w.recordedId n = some i ∧ ∃ r inst, w.currentState.get n = some r ∧ w.hosts.find r.host i = some inst := by
  cases hr : w.currentState.get n with
  | none => simp [recordedId, hr] at h
  | some r =>
    cases hs : r.container.status with
    | none => simp [recordedId, hr, HostConfiguredContainer.refresh, Hosts.probe, hs] at h
    | some s =>
      cases hi : w.hosts.find r.host s.id with
      | none => simp [recordedId, hr, HostConfiguredContainer.refresh, Hosts.probe, hs, hi] at h
      | some inst =>
        simp only [recordedId, World.checkState_currentState, GoMap.get_map, hr, Option.map_some',
          Option.some_bind, HostConfiguredContainer.refresh, Hosts.probe, hs, hi, Option.map_some',
          Option.some.injEq] at h
        subst h
        exact ⟨by simp [recordedId, hr, hs], r, inst, rfl, hi⟩

theorem owns_checkState {x : H} {p : String} (h : w.checkState.owns n x p) : w.owns n x p := by
  obtain ⟨⟨r, hr, hx⟩, ⟨r', hr', hp⟩⟩ := h
  simp only [entries, World.checkState_currentState, GoMap.get_map, World.checkState_desiredState,
    List.mem_append, Option.mem_toList, Option.mem_def, Option.map_eq_some'] at hr hr'
  refine ⟨?_, ?_⟩
  · rcases hr with ⟨r₀, hr₀, rfl⟩ | hr
    · exact ⟨r₀, mem_entries_current hr₀, hx⟩
    · exact ⟨r, mem_entries_desired hr, hx⟩
  · rcases hr' with ⟨r₀, hr₀, rfl⟩ | hr'
    · refine ⟨r₀, mem_entries_current hr₀, ?_⟩
      simp only [HostConfiguredContainer.refresh, GoMap.filterMap, List.mem_filter] at hp
      exact hp.1
    · exact ⟨r', mem_entries_desired hr', hp⟩

/-- After `CheckState`, names that were apart are separated. -/
theorem Apart.checkState (ha : w.Apart) : w.checkState.Separated where
  ids n m i hnm hn hm := ha.ids n m i hnm (recordedId_checkState hn).1 (recordedId_checkState hm).1
  files n m x p hnm hn hm := ha.files n m x p hnm (owns_checkState hn) (owns_checkState hm)
  fresh n i hn := by
    obtain ⟨-, r, inst, -, hi⟩ := recordedId_checkState hn
    by_contra hlt
    simp [Hosts.find, w.hosts.fresh i (not_lt.1 hlt)] at hi

/-- After `CheckState` the hosts agree with every current entry, when every recorded
container its host holds has the recorded runtime config. -/
theorem truthful_checkState (hcfg : ∀ n r s i, w.currentState.get n = some r →
    r.container.status = some s → w.hosts.find r.host s.id = some i → i.config = r.container.config)
    (n : String) : w.checkState.Truthful n where
  container r s hr hst := by
    simp only [World.checkState_currentState, GoMap.get_map, Option.map_eq_some'] at hr
    obtain ⟨r₀, hr₀, rfl⟩ := hr
    cases hs₀ : r₀.container.status with
    | none => simp [HostConfiguredContainer.refresh, Hosts.probe, hs₀] at hst
    | some s₀ =>
      cases hi : w.hosts.find r₀.host s₀.id with
      | none => simp [HostConfiguredContainer.refresh, Hosts.probe, hs₀, hi] at hst
      | some i =>
        simp only [HostConfiguredContainer.refresh, Hosts.probe, hs₀, hi, Option.some_bind,
          Option.map_some', Option.some.injEq] at hst
        subst hst
        exact ⟨i, hi, hcfg n r₀ s₀ i hr₀ hs₀ hi, id⟩
  files r d hr _ _ p v hp := by
    simp only [World.checkState_currentState, GoMap.get_map, Option.map_eq_some'] at hr
    obtain ⟨r₀, -, rfl⟩ := hr
    simp only [HostConfiguredContainer.refresh, GoMap.get_filterMap, Option.bind_eq_some] at hp
    obtain ⟨-, -, hv⟩ := hp
    exact hv

end CheckState

/-! ## `Execute` on the hosts -/

section Execute

variable [DecidableEq C] {w : World H C} {o : Orders}

/-- **What `Execute` leaves on the hosts.** With no failing remote operation and no
container scheduled for removal, when names are separated, the hosts agree with every
current entry and no desired entry records a container, `Execute` returns `nil`, and
afterwards every current entry is desired and records a container that exists and runs
on its host with its runtime config, and the hosts agree with it. -/
theorem executePasses_hosts (hf : w.hosts.NoFaults) (ho : o.Covers w) (hrm : NoRemovals w)
    (hs : w.Separated) (ht : ∀ n, w.Truthful n)
    (hA : ∀ n d, w.desiredState.get n = some d → d.container.status = none) :
    ∃ w', executePasses o w = (.ok (), w') ∧ ∀ n, w'.Ready3 n := by
  obtain ⟨w₁, h₁, hf₁, hs₁, ht₁, hrun₁⟩ := pass1_hosts o.pass1 hf hs ht
  obtain ⟨w₁', h₁', -, hv₁⟩ := pass1_views hf o.pass1 ho.nodup1 ho.cover1
  obtain rfl : w₁ = w₁' := (Prod.mk.inj (h₁.symm.trans h₁')).2
  have hv₁' := fun n => hv₁ n
  simp only [World.view, Prod.mk.injEq] at hv₁'
  -- after pass 1 every current entry exists, and its container runs
  have hR₂ : ∀ n, w₁.Ready2 n := fun n => by
    refine ⟨ht₁ n, fun r s hr hst => ?_, fun r hr => ?_, fun hr d hd => hA n d (by rwa [← (hv₁' n).2.1])⟩
    · by_cases hn : n ∈ o.pass1
      · exact hrun₁ n hn r s hr hst
      · have h0 : w.currentState.get n = none := by
          simpa using fun h => hn (ho.cover1 n h)
        simp [(hv₁' n).1, h0, plan1] at hr
    · rw [(hv₁' n).1] at hr
      obtain ⟨r', hr', he⟩ := plan1_isSome (by rw [hr]; rfl)
      rw [hr', plan1_exists he, Option.some.injEq] at hr
      exact hr ▸ he
  obtain ⟨w₂, h₂, hf₂, hs₂, hR₂'⟩ := pass2_hosts o.pass2 hf₁ hs₁ hR₂
  obtain ⟨w₂', h₂', -, hv₂⟩ := pass2_views hf₁ o.pass2 ho.nodup2
    (fun n hn => ho.cover2 n (by rwa [← (hv₁' n).2.1]))
  obtain rfl : w₂ = w₂' := (Prod.mk.inj (h₂.symm.trans h₂')).2
  -- after pass 2 a name is current only if it is desired
  have hR₃ : ∀ n, w₂.Ready3 n := fun n => ⟨(hR₂' n).truthful, (hR₂' n).running, fun r hr => by
    refine ⟨(hR₂' n).present r hr, ?_⟩
    cases hd : w₁.desiredState.get n with
    | some d =>
      obtain ⟨k₂, hk⟩ := (hv₂ n).1 d hd
      simp only [World.view, plan2View, Prod.mk.injEq] at hk
      simp [hk.2.1]
    | none =>
      have hk := (hv₂ n).2 hd
      simp only [World.view, Prod.mk.injEq] at hk
      rw [hk.1, (hv₁' n).1] at hr
      obtain ⟨r', hr', he⟩ := plan1_isSome (by rw [hr]; rfl)
      have := hrm n r' hr' he
      rw [← (hv₁' n).2.1, hd] at this
      cases this⟩
  obtain ⟨w₃, h₃, hR₃'⟩ := pass3_hosts o.pass3 hf₂ hs₂ hR₃
  exact ⟨w₃, by simp [executePasses, h₁, h₂, h₃], hR₃'⟩

end Execute

end World

end Flexkube
