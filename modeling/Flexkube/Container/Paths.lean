import Flexkube.Container.Reach

/-!
# Only Desired Paths Are Written

For a name that is desired, a run of `CheckCurrentState` and `Execute` writes and deletes
config files only at paths its desired entry lists, whatever remote operations of the
hosts fail and whatever it returns (`checkThenExecute_keeps_unmanaged`). Passes 1
and 2 only write, and only the files of desired entries on their hosts
(`World.WritesDesired`). A pass 2 that returns `nil` has given every entry of a desired
name the desired entry's config files (`World.HoldsFiles`), so whatever pass 3 deletes for
a desired name, on whichever host, is a desired path; `World.Within`, taken from the
start of pass 3, gives the rest.

So a path the previous entry of a desired name lists and its desired entry no longer
lists is never deleted: unless another name manages it, its file stays on its host as it
was, while the entry the engine records lists only the desired files
(`moved_file_left_behind`).
-/

namespace Flexkube

open Exec

variable {H C : Type}

namespace World

/-- The locations a run may write for `n`: on the host of one of its entries, a path of its
desired entry, or of its current entry when it is not desired. -/
def manages (w : World H C) (n : String) (x : H) (p : String) : Prop :=
  (∃ r ∈ w.entries n, r.host = x) ∧
    ∃ e, (w.desiredState.get n).or (w.currentState.get n) = some e ∧ p ∈ e.configFiles.keys

/-- Every entry of `n` holds the config files `F`. -/
def HoldsFiles (w : World H C) (n : String) (F : GoMap String) : Prop :=
  ∀ e ∈ w.entries n, e.configFiles = F

/-- From `w₀` to `w` the desired entries kept their names, hosts and config files, and
files were written only at paths of desired entries of `w₀`, on their hosts. -/
structure WritesDesired (w₀ w : World H C) : Prop where
  keys : ∀ m, (w.desiredState.get m).isSome = (w₀.desiredState.get m).isSome
  desired : ∀ m d, w.desiredState.get m = some d → ∃ d₀, w₀.desiredState.get m = some d₀ ∧
    d.host = d₀.host ∧ d.configFiles = d₀.configFiles
  files : ∀ x p, w.hosts.files x p ≠ w₀.hosts.files x p →
    ∃ m d₀, w₀.desiredState.get m = some d₀ ∧ d₀.host = x ∧ p ∈ d₀.configFiles.keys

section Effects

variable {w₀ w w' : World H C} {n : String} {d v : HostConfiguredContainer H C} {F : GoMap String}

/-- A desired location of `w₀` is one its name manages. -/
theorem manages_of_desired {x : H} {p : String} (hd : w₀.desiredState.get n = some d)
    (hx : d.host = x) (hp : p ∈ d.configFiles.keys) : w₀.manages n x p :=
  ⟨⟨d, mem_entries_desired hd, hx⟩, d, by simp [hd], hp⟩

theorem WritesDesired.refl (w : World H C) : WritesDesired w w :=
  ⟨fun _ => rfl, fun _ d hd => ⟨d, hd, rfl, rfl⟩, fun _ _ h => absurd rfl h⟩

/-- A change that leaves the files and the desired entries alone. -/
theorem WritesDesired.of_files (hw : WritesDesired w₀ w) (hf : w'.hosts.files = w.hosts.files)
    (hd : w'.desiredState = w.desiredState) : WritesDesired w₀ w' :=
  ⟨fun m => hd ▸ hw.keys m, fun m d h => hw.desired m d (hd ▸ h),
    fun x p h => hw.files x p (by rwa [hf] at h)⟩

theorem WritesDesired.record (hw : WritesDesired w₀ w) (e : Event) : WritesDesired w₀ (w.record e) :=
  hw.of_files rfl rfl

variable [DecidableEq H]

/-- Writing the files of an entry placed and configured as a desired entry of `w₀`. -/
theorem WritesDesired.files_writeFiles (hw : WritesDesired w₀ w)
    (hd : ∃ d₀, w₀.desiredState.get n = some d₀ ∧ d.host = d₀.host ∧ d.configFiles = d₀.configFiles)
    (ps : List String) (x : H) (p : String)
    (h : (w.hosts.writeFiles d.host d.configFiles ps).files x p ≠ w₀.hosts.files x p) :
    ∃ m d₀, w₀.desiredState.get m = some d₀ ∧ d₀.host = x ∧ p ∈ d₀.configFiles.keys := by
  simp only [Hosts.writeFiles] at h
  split_ifs at h with hp
  · obtain ⟨d₀, hd₀, hh, hf⟩ := hd
    exact ⟨n, d₀, hd₀, hh ▸ hp.1.symm, hf ▸ (d.configFiles.mem_keys p).2 hp.2.2⟩
  · exact hw.files x p h

theorem WritesDesired.configure (hw : WritesDesired w₀ w)
    (hd : ∃ d₀, w₀.desiredState.get n = some d₀ ∧ d.host = d₀.host ∧ d.configFiles = d₀.configFiles)
    (fs : List String) : WritesDesired w₀ (w.configure d fs) :=
  ⟨hw.keys, hw.desired, hw.files_writeFiles hd fs⟩

theorem WritesDesired.createAndStart (hw : WritesDesired w₀ w)
    (hd : ∃ d₀, w₀.desiredState.get n = some d₀ ∧ d.host = d₀.host ∧ d.configFiles = d₀.configFiles)
    (hn : (w.desiredState.get n).isSome) : WritesDesired w₀ (w.createAndStart n d) where
  keys m := by
    simp only [createAndStart_desiredState, GoMap.get_set]
    split_ifs with hm
    · exact hm ▸ hn.symm.trans (hw.keys n)
    · exact hw.keys m
  desired m d' h := by
    simp only [createAndStart_desiredState, GoMap.get_set] at h
    split_ifs at h with hm
    · cases h; exact hm ▸ by simpa using hd
    · exact hw.desired m d' h
  files := hw.files_writeFiles hd d.configFiles.keys

omit [DecidableEq H] in
theorem HoldsFiles.setCurrent (hh : w.HoldsFiles n F) (hv : v.configFiles = F) :
    (w.setCurrent n v).HoldsFiles n F := fun e he => by
  simp only [World.entries, setCurrent_currentState, GoMap.get_set_self, Option.toList_some,
    setCurrent_desiredState, List.singleton_append, List.mem_cons] at he
  rcases he with rfl | he
  exacts [hv, hh e (List.mem_append_right _ he)]

theorem HoldsFiles.createAndStart (hh : w.HoldsFiles n F) (hd : d.configFiles = F) :
    (w.createAndStart n d).HoldsFiles n F := fun e he => by
  simp only [World.entries, createAndStart_currentState, createAndStart_desiredState,
    GoMap.get_set_self, Option.toList_some, List.mem_append, List.mem_singleton] at he
  rcases he with he | rfl
  exacts [hh e (List.mem_append_left _ he), hd]

omit [DecidableEq H] in
theorem HoldsFiles.frame {k : String} (hh : w.HoldsFiles n F) (hfr : Frame k w w') (hn : n ≠ k) :
    w'.HoldsFiles n F := fun e he => hh e (entries_of_frame hfr hn ▸ he)

/-- `ensureConfigured` of a desired `d` leaves every entry of its name with `d`'s files. -/
theorem holdsFiles_configured (hd : w.desiredState.get n = some d) :
    (w.configured n d).HoldsFiles n d.configFiles := fun e he => by
  have hdes : (w.configured n d).desiredState = w.desiredState := rfl
  simp only [World.entries, World.configured_get_self, Option.toList_some, hdes, hd,
    List.singleton_append, List.mem_cons, List.not_mem_nil, or_false] at he
  rcases he with rfl | rfl
  exacts [configuredEntry_configFiles d _, rfl]

end Effects

end World

/-! ## Passes 1 and 2 only write desired files -/

section Writes

variable [DecidableEq H] {w₀ : World H C} {n : String}

open World in
theorem checkState_writes : Preserves (WritesDesired w₀) (checkState : Exec (World H C) Unit) :=
  remote_preserves _ (fun _ h => h.record _) fun _ h => h.of_files rfl rfl

theorem configure_writes {d : HostConfiguredContainer H C}
    (hd : ∃ d₀, w₀.desiredState.get n = some d₀ ∧ d.host = d₀.host ∧ d.configFiles = d₀.configFiles)
    (fs : List String) : Preserves (World.WritesDesired w₀) (configure n d fs) :=
  remote_preserves _ (fun _ h => h.record _) fun _ h => h.configure hd fs

theorem createAndStart_writes : Preserves (World.WritesDesired w₀) (createAndStart n : Exec (World H C) Unit) :=
  fun w hw => by
    unfold createAndStart
    split
    · exact hw
    next d hd => exact remote_preserves _ (fun _ h => h.record _) (fun w' h =>
      h.createAndStart (hw.desired n d hd) (by rw [h.keys, ← hw.keys, hd]; rfl)) w hw

theorem ensureConfigured_writes : Preserves (World.WritesDesired w₀) (ensureConfigured n : Exec (World H C) Unit) :=
  .get_bind fun w hw => by
    split
    · exact .pure _
    next d hd =>
      refine .bind (.wrap _ (configure_writes (hw.desired n d hd) _)) fun _ => ?_
      split <;> exact .modify fun _ h => h.of_files rfl rfl

theorem ensureExists_writes : Preserves (World.WritesDesired w₀) (ensureExists n : Exec (World H C) Unit) :=
  .get_bind fun _ _ => .ite (.pure _) (.bind (.pure _) fun _ =>
    .bind (.wrap _ createAndStart_writes) fun _ => .get_bind fun _ _ => by
      split <;> first | exact .pure _ | exact .modify fun _ h => h.of_files rfl rfl)

theorem pass1Step_writes (r : HostConfiguredContainer H C) : Preserves (World.WritesDesired w₀) (pass1Step n r) :=
  .ite (.modify fun _ h => h.of_files rfl rfl) (.wrap _ (.ite (.pure _)
    (remote_preserves _ (fun _ h => h.record _) fun _ h => h.of_files rfl rfl)))

theorem pass2Step_writes : Preserves (World.WritesDesired w₀) (pass2Step n : Exec (World H C) Unit) :=
  .bind (.wrap _ ensureConfigured_writes) fun _ => .wrap _ ensureExists_writes

/-- `CreateAndStart` of `n` keeps the config files of its entries. -/
theorem createAndStart_holdsFiles {F : GoMap String} :
    Preserves (fun w => w.HoldsFiles n F) (createAndStart n : Exec (World H C) Unit) := fun w hw => by
  unfold createAndStart
  split
  · exact hw
  next d hd => exact remote_preserves (I := fun w => w.HoldsFiles n F) _ (fun _ h => h) (fun _ h =>
    h.createAndStart (hw d (World.mem_entries_desired hd))) w hw

/-- `ensureExists` of `n` keeps the config files of its entries. -/
theorem ensureExists_holdsFiles {F : GoMap String} :
    Preserves (fun w => w.HoldsFiles n F) (ensureExists n : Exec (World H C) Unit) :=
  .get_bind fun _ hw => .ite (.pure _) (.bind (.pure _) fun _ =>
    .bind (.wrap _ createAndStart_holdsFiles) fun _ => .get_bind fun _ hw' => by
      split
      next d _ hd => exact .modify fun _ h => h.setCurrent (hw' d (World.mem_entries_desired hd))
      next r d hr _ => exact .modify fun _ h => h.setCurrent (hw r (World.mem_entries_current hr))
      next => exact .pure _)

/-- A visit of pass 2 that returns `nil` leaves every entry of its name with the desired
entry's files. -/
theorem pass2Step_holdsFiles {w w' : World H C} {d : HostConfiguredContainer H C}
    (hd : w.desiredState.get n = some d) (hok : pass2Step n w = (.ok (), w')) :
    w'.HoldsFiles n d.configFiles := by
  obtain ⟨_, w₁, h₁, h₂⟩ := bind_eq_ok hok
  have hc := wrap_ok.1 h₁
  have hw₁ : w₁ = w.configured n d := by
    have := ensureConfigured_of_ok hd (by rw [hc])
    rwa [hc] at this
  have := ensureExists_holdsFiles w₁ (hw₁ ▸ World.holdsFiles_configured hd)
  rwa [wrap_ok.1 h₂] at this

/-- After a pass 2 that returns `nil`, every entry of a name it visited, desired in `w₀`,
holds the files of that desired entry. -/
theorem pass2_holdsFiles :
    ∀ (ks vis : List String) (w w' : World H C), World.WritesDesired w₀ w →
      (∀ m ∈ vis, ∀ d₀, w₀.desiredState.get m = some d₀ → w.HoldsFiles m d₀.configFiles) →
      rangeMap (·.desiredState) (fun i _ => pass2Step i) ks w = (.ok (), w') →
      ∀ m ∈ ks ++ vis, ∀ d₀, w₀.desiredState.get m = some d₀ → w'.HoldsFiles m d₀.configFiles
  | [], vis, w, w', _, hh, h => by cases h; exact hh
  | k :: ks, vis, w, w', hw, hh, h => by
    cases hk : w.desiredState.get k with
    | none =>
      rw [rangeMap_cons_none hk] at h
      refine fun m hm => pass2_holdsFiles ks (k :: vis) w w' hw (fun m hm d₀ hd₀ => ?_) h m
        (by simpa [or_left_comm] using hm)
      rcases List.mem_cons.1 hm with rfl | hm
      · have := hw.keys m; rw [hk, hd₀] at this; cases this
      · exact hh m hm d₀ hd₀
    | some v =>
      rcases hb : pass2Step k w with ⟨_ | ⟨⟩, w₁⟩
      · rw [rangeMap_cons_error hk hb] at h; cases h
      rw [rangeMap_cons_some hk hb] at h
      have hw₁ : World.WritesDesired w₀ w₁ := by
        have := pass2Step_writes (n := k) w hw
        rwa [hb] at this
      refine fun m hm => pass2_holdsFiles ks (k :: vis) w₁ w' hw₁ (fun m hm d₀ hd₀ => ?_) h m
        (by simpa [or_left_comm] using hm)
      by_cases hmk : m = k
      · subst hmk
        obtain ⟨d₀', hd₀', -, hf⟩ := hw.desired m v hk
        rw [hd₀] at hd₀'
        cases hd₀'
        exact hf ▸ pass2Step_holdsFiles hk hb
      · exact (hh m ((List.mem_cons.1 hm).resolve_left hmk) d₀ hd₀).frame
          (by have := pass2Step_framed (k := k) w; rwa [hb] at this) hmk

end Writes

/-! ## The paths a run writes -/

section Run

variable {w₀ w : World H C} {o : Orders}

/-- At the start of pass 3 what a name owns it manages at the start of the run. -/
theorem World.manages_of_owns {m : String} {x : H} {p : String} (hw : w₀.Within w)
    (hh : ∀ d₀, w₀.desiredState.get m = some d₀ → w.HoldsFiles m d₀.configFiles)
    (ho : w.owns m x p) : w₀.manages m x p := by
  obtain ⟨⟨e, he, rfl⟩, e', he', hp⟩ := ho
  refine ⟨(hw.budgeted he).host, ?_⟩
  cases hd₀ : w₀.desiredState.get m with
  | some d₀ => exact ⟨d₀, by simp [hd₀], hh d₀ hd₀ e' he' ▸ hp⟩
  | none =>
    obtain ⟨r, hr, hpr⟩ := (hw.budgeted he').paths p hp
    simp only [World.entries, hd₀, Option.toList_none, List.append_nil, Option.mem_toList,
      Option.mem_def] at hr
    exact ⟨r, by simp [hd₀, hr], hpr⟩

variable [DecidableEq H] [DecidableEq C]

/-- The three passes, from a world within `w₀` whose files only desired entries changed,
write only locations some name manages in `w₀`. -/
theorem executePasses_writes_desired (hcov : ∀ m, (w.desiredState.get m).isSome → m ∈ o.pass2)
    (hw : w₀.Within w) (hwd : World.WritesDesired w₀ w) (x : H) (p : String)
    (hx : (executePasses o w).2.hosts.files x p ≠ w₀.hosts.files x p) : ∃ m, w₀.manages m x p := by
  have hd : ∀ {w'}, World.WritesDesired w₀ w' → w'.hosts.files x p ≠ w₀.hosts.files x p →
      ∃ m, w₀.manages m x p := fun h hx => by
    obtain ⟨m, d₀, hd₀, hh, hp⟩ := h.files x p hx
    exact ⟨m, World.manages_of_desired hd₀ hh hp⟩
  have p1 : World.WritesDesired w₀ (rangeMap (·.currentState) (fun n r => pass1Step n r) o.pass1 w).2 :=
    rangeMap_preserves (fun _ _ w h _ => pass1Step_writes _ w h) o.pass1 w hwd
  have p1' : w₀.Within (rangeMap (·.currentState) (fun n r => pass1Step n r) o.pass1 w).2 :=
    rangeMap_preserves (fun _ _ w hw hv => pass1Step_within (hw.budgeted
      (World.mem_entries_current hv)) w hw) o.pass1 w hw
  unfold executePasses at hx
  rcases bind_snd (P := fun w' : World H C => w'.hosts.files x p ≠ w₀.hosts.files x p) hx with
    ⟨_, -, hx⟩ | ⟨_, w₁, h₁, hx⟩
  · exact hd p1 hx
  rw [h₁] at p1 p1'
  have p2 : World.WritesDesired w₀ (rangeMap (·.desiredState) (fun i _ => pass2Step i) o.pass2 w₁).2 :=
    rangeMap_preserves (fun _ _ w h _ => pass2Step_writes w h) o.pass2 w₁ p1
  have p2' : w₀.Within (rangeMap (·.desiredState) (fun i _ => pass2Step i) o.pass2 w₁).2 :=
    rangeMap_preserves (fun _ _ w h _ => pass2Step_within w h) o.pass2 w₁ p1'
  rcases bind_snd (P := fun w' : World H C => w'.hosts.files x p ≠ w₀.hosts.files x p) hx with
    ⟨_, -, hx⟩ | ⟨_, w₂, h₂, hx⟩
  · exact hd p2 hx
  rw [h₂] at p2 p2'
  have hh := pass2_holdsFiles o.pass2 [] w₁ w₂ p1 (by simp) h₂
  by_cases h2x : w₂.hosts.files x p = w₀.hosts.files x p
  · -- the file changed in pass 3, at a location some name owns at its start
    have p3 : w₂.Within (rangeMap (·.currentState) (fun i _ => pass3Step i) o.pass3 w₂).2 :=
      rangeMap_preserves (fun _ _ w h _ => pass3Step_within w h) o.pass3 w₂ (World.Within.refl w₂)
    by_contra hno
    refine hx ((p3.files x p fun m hm => hno ⟨m, World.manages_of_owns p2' (fun d₀ hd₀ => ?_) hm⟩).trans h2x)
    exact hh m (List.mem_append_left _ (hcov m (by rw [hwd.keys, hd₀]; rfl))) d₀ hd₀
  · exact hd p2 h2x

end Run

/-- **Only desired paths are written.** Whatever remote operations of the hosts fail, in
every order Go may take and whatever `CheckCurrentState` and `Execute` return, a run keeps
the file at every location no name manages at the start: a location off the hosts of a
name's entries, or at a path its desired entry does not list (its previous entry's, when it
is not desired). So a path that the previous entry of a desired name lists and its desired
entry does not, on a host where no other name manages it, keeps its file. -/
theorem checkThenExecute_keeps_unmanaged [DecidableEq H] [DecidableEq C] {o : Orders}
    {c : containers H C} {h : Hosts H C} (ho : o.Covers (c.world h)) (x : H) (p : String)
    (hno : ∀ n, ¬ (c.world h).manages n x p) : (c.checkThenExecute o h).2.2.files x p = h.files x p := by
  by_contra hx
  suffices ∃ n, (c.world h).manages n x p from this.elim hno
  have hc : (c.world h).Within ((c.checkCurrentState h).2.1.world (c.checkCurrentState h).2.2) :=
    checkState_within _ (World.Within.refl _)
  have hcd : World.WritesDesired (c.world h)
      ((c.checkCurrentState h).2.1.world (c.checkCurrentState h).2.2) :=
    checkState_writes _ (World.WritesDesired.refl _)
  have hcov : ∀ m, ((c.checkCurrentState h).2.1.desiredState.get m).isSome → m ∈ o.pass2 :=
    fun m hm => ho.cover2 m ((hcd.keys m).symm.trans hm)
  unfold containers.checkThenExecute at hx
  split at hx
  next hcs =>
    rw [hcs] at hcd
    obtain ⟨m, d₀, hd₀, hh, hp⟩ := hcd.files x p hx
    exact ⟨m, World.manages_of_desired hd₀ hh hp⟩
  next hcs =>
    rw [hcs] at hc hcd hcov
    unfold containers.execute at hx
    split at hx
    · obtain ⟨m, d₀, hd₀, hh, hp⟩ := hcd.files x p hx
      exact ⟨m, World.manages_of_desired hd₀ hh hp⟩
    · exact executePasses_writes_desired hcov hc hcd x p hx


/-- The entry of `"a"` on `"h1"`: container 1, with `/etc/a.conf` and `/etc/extra.conf`. -/
def onFirstHost : HostConfiguredContainer String String :=
  ⟨"h1", ⟨"cfg", some ⟨1, true⟩⟩, GoMap.ofList [("/etc/a.conf", "old"), ("/etc/extra.conf", "e")]⟩

/-- `"a"` desired on `"h2"`, with `/etc/a.conf` alone. -/
def onSecondHost : HostConfiguredContainer String String :=
  ⟨"h2", ⟨"cfg", none⟩, GoMap.ofList [("/etc/a.conf", "new")]⟩

/-- The engine moving `"a"` from `"h1"` to `"h2"`. -/
def moving : containers String String :=
  ⟨GoMap.ofList [("a", onFirstHost)], false, GoMap.ofList [("a", onSecondHost)]⟩

/-- Hosts running container 1 of `"a"` on `"h1"`, which holds both of its files. -/
def firstHostRunning : Hosts String String where
  instances i := if i = 1 then some ⟨"a", "h1", "cfg", true⟩ else none
  nextId := 2
  fresh i hi := if_neg (by omega)
  files x p := if x = "h1" ∧ p = "/etc/a.conf" then some "old"
    else if x = "h1" ∧ p = "/etc/extra.conf" then some "e" else none
  log := []
  fails _ := none

/-- Moving `"a"` to `"h2"` leaves on `"h1"` the file `/etc/extra.conf`, which its desired
entry no longer lists. -/
theorem moved_file_left_behind :
    (⟨["a"], ["a"], ["a"]⟩ : Orders).Covers (moving.world firstHostRunning) ∧
    (∀ n, ¬ (moving.world firstHostRunning).manages n "h1" "/etc/extra.conf") ∧
    (moving.checkThenExecute ⟨["a"], ["a"], ["a"]⟩ firstHostRunning).2.2.files "h1" "/etc/extra.conf" =
      some "e" :=
  have ho : (⟨["a"], ["a"], ["a"]⟩ : Orders).Covers (moving.world firstHostRunning) :=
    Orders.covers_of_perm (by decide) (by decide) (by decide)
  have hno : ∀ n, ¬ (moving.world firstHostRunning).manages n "h1" "/etc/extra.conf" := by
    rintro n ⟨-, e, he, hp⟩
    by_cases hn : n = "a"
    · subst hn
      obtain rfl : onSecondHost = e := by simpa [moving, GoMap.ofList] using he
      exact absurd hp (by decide)
    · simp [moving, GoMap.ofList, hn] at he
  ⟨ho, hno, checkThenExecute_keeps_unmanaged ho _ _ hno⟩

end Flexkube
