import Flexkube.Container.Steps

/-!
# Frames

`World.Frame k w w'` says that going from `w` to `w'` touched only the entries of the name
`k` and only logged operations of `k`. `Framed k x` says this of every run of the engine
function `x`, whatever world it starts from and whatever it returns, failures included.

Every function of the reconciler called for a name `k` is `Framed k`: the lemmas below
derive it once per function from the way it is built (binds, wraps, remote operations of
`k`), so that the passes can be taken apart name by name, also in runs where a remote
operation fails.
-/

namespace Flexkube

open Exec

variable {H C : Type}

/-! ## Frames of one name -/

/-- Names an operation serves. -/
def Event.named (n : String) (e : Event) : Bool := e.name? == some n

/-- From `w` to `w'` only the entries of `k` changed and only operations of `k` were
logged; the failure pattern is the same. -/
structure World.Frame (k : String) (w w' : World H C) : Prop where
  current : ∀ n, n ≠ k → w'.currentState.get n = w.currentState.get n
  desired : ∀ n, n ≠ k → w'.desiredState.get n = w.desiredState.get n
  log : ∃ es, w'.hosts.log = w.hosts.log ++ es ∧ ∀ e ∈ es, e.name? = some k
  fails : w'.hosts.fails = w.hosts.fails

namespace World.Frame

variable {k : String} {w w₁ w₂ : World H C}

theorem refl (k : String) (w : World H C) : World.Frame k w w :=
  ⟨fun _ _ => rfl, fun _ _ => rfl, ⟨[], by simp, by simp⟩, rfl⟩

theorem trans (h₁ : World.Frame k w w₁) (h₂ : World.Frame k w₁ w₂) : World.Frame k w w₂ where
  current n hn := (h₂.current n hn).trans (h₁.current n hn)
  desired n hn := (h₂.desired n hn).trans (h₁.desired n hn)
  log := by
    obtain ⟨es₁, h1, he₁⟩ := h₁.log
    obtain ⟨es₂, h2, he₂⟩ := h₂.log
    exact ⟨es₁ ++ es₂, by simp [h2, h1], fun e he => by
      rcases List.mem_append.1 he with he | he
      exacts [he₁ e he, he₂ e he]⟩
  fails := h₂.fails.trans h₁.fails

/-- The log of another name is untouched. -/
theorem log_filter (h : World.Frame k w w₁) {n : String} (hn : n ≠ k) :
    w₁.hosts.log.filter (Event.named n) = w.hosts.log.filter (Event.named n) := by
  obtain ⟨es, h1, he⟩ := h.log
  have hes : es.filter (Event.named n) = [] :=
    List.filter_eq_nil_iff.2 fun e he' => by simp [Event.named, he e he', Ne.symm hn]
  rw [h1, List.filter_append, hes, List.append_nil]

theorem noFaults (h : World.Frame k w w₁) (hf : w.hosts.NoFaults) : w₁.hosts.NoFaults := by
  intro i; rw [h.fails]; exact hf i

theorem of_hosts (hc : w₁.currentState = w.currentState) (hd : w₁.desiredState = w.desiredState)
    (hl : w₁.hosts.log = w.hosts.log) (hf : w₁.hosts.fails = w.hosts.fails) :
    World.Frame k w w₁ :=
  ⟨fun _ _ => by rw [hc], fun _ _ => by rw [hd], ⟨[], by simp [hl], by simp⟩, hf⟩

end World.Frame

/-- What the world holds for one name: its current and desired entries and its operations. -/
def World.view (n : String) (w : World H C) :
    Option (HostConfiguredContainer H C) × Option (HostConfiguredContainer H C) × List Event :=
  (w.currentState.get n, w.desiredState.get n, w.hosts.log.filter (Event.named n))

theorem World.Frame.view {k : String} {w w₁ : World H C} (h : World.Frame k w w₁) {n : String}
    (hn : n ≠ k) : World.view n w₁ = World.view n w := by
  simp [World.view, h.current n hn, h.desired n hn, h.log_filter hn]

/-! ## Frames of the effects -/

section Effects

variable {k : String} {w : World H C} {d r v : HostConfiguredContainer H C}

theorem World.Frame.record (e : Event) (he : e.name? = some k) : World.Frame k w (w.record e) :=
  ⟨fun _ _ => rfl, fun _ _ => rfl, ⟨[e], by simp, by simp [he]⟩, rfl⟩

theorem World.Frame.configure [DecidableEq H] (fs : List String) :
    World.Frame k w (w.configure d fs) :=
  World.Frame.of_hosts rfl rfl rfl rfl

theorem World.Frame.start [DecidableEq H] : World.Frame k w (w.start r) := World.Frame.of_hosts rfl rfl rfl rfl

theorem World.Frame.createAndStart [DecidableEq H] : World.Frame k w (w.createAndStart k d) :=
  ⟨fun _ _ => rfl, fun n hn => by simp [hn], ⟨[], by simp, by simp⟩, rfl⟩

theorem World.Frame.removeContainer [DecidableEq H] : World.Frame k w (w.removeContainer k r) :=
  ⟨fun n hn => by simp [hn], fun _ _ => rfl, ⟨[], by simp, by simp⟩, rfl⟩

theorem World.Frame.setCurrent : World.Frame k w (w.setCurrent k v) :=
  ⟨fun n hn => by simp [hn], fun _ _ => rfl, ⟨[], by simp, by simp⟩, rfl⟩

theorem World.Frame.deleteCurrent : World.Frame k w (w.deleteCurrent k) :=
  ⟨fun n hn => by simp [hn], fun _ _ => rfl, ⟨[], by simp, by simp⟩, rfl⟩

theorem World.Frame.copyDesired : World.Frame k w (w.copyDesired k) := by
  unfold World.copyDesired; split
  exacts [World.Frame.setCurrent, World.Frame.refl k w]

end Effects

/-! ## Framed engine functions -/

/-- Every run of `x`, from any world and whatever it returns, has the frame of `k`. -/
def Framed {α : Type} (k : String) (x : Exec (World H C) α) : Prop := ∀ w, World.Frame k w (x w).2

namespace Framed

variable {α β : Type} {k : String} {x : Exec (World H C) α}

theorem frame (hx : Framed k x) {w w' : World H C} {res : Except String α}
    (h : x w = (res, w')) : World.Frame k w w' := by
  simpa [h] using hx w

theorem pure (a : α) : Framed k (Pure.pure a : Exec (World H C) α) := World.Frame.refl k

theorem get : Framed k (Exec.get : Exec (World H C) (World H C)) := World.Frame.refl k

theorem fail (e : String) : Framed k (Exec.fail e : Exec (World H C) α) := World.Frame.refl k

theorem modify {f : World H C → World H C} (hf : ∀ w, World.Frame k w (f w)) :
    Framed k (Exec.modify f) := hf

theorem bind {f : α → Exec (World H C) β} (hx : Framed k x) (hf : ∀ a, Framed k (f a)) :
    Framed k (x >>= f) := fun w => by
  simp only [Exec.bind_apply]
  split <;> rename_i h
  exacts [(hx.frame h).trans (hf _ _), hx.frame h]

theorem wrap (msg : String) (hx : Framed k x) : Framed k (Exec.wrap msg x) := fun w => by
  rw [Exec.wrap_snd]; exact hx w

/-- A function that never changes the world is framed by every name. -/
theorem of_snd (hx : ∀ w, (x w).2 = w) : Framed k x := fun w => by
  rw [hx]; exact World.Frame.refl k w

theorem ite {c : Prop} [Decidable c] {y : Exec (World H C) α} (hx : Framed k x) (hy : Framed k y) :
    Framed k (if c then x else y) := by
  split <;> assumption

theorem remote (e : Event) {f : World H C → World H C} (he : e.name? = some k)
    (hf : ∀ w, World.Frame k w (f w)) : Framed k (Flexkube.remote e f) := fun w => by
  unfold Flexkube.remote; split
  exacts [World.Frame.record e he, (World.Frame.record e he).trans (hf _)]

end Framed

section Engine

variable [DecidableEq H] {k : String}

theorem configure_framed (d : HostConfiguredContainer H C) (fs : List String) :
    Framed k (configure k d fs) :=
  Framed.remote _ rfl fun _ => World.Frame.configure fs

theorem start_framed (r : HostConfiguredContainer H C) : Framed k (start k r) :=
  Framed.remote _ rfl fun _ => World.Frame.start

theorem createAndStart_framed : Framed k (createAndStart k : Exec (World H C) Unit) := fun w => by
  unfold createAndStart; split
  exacts [World.Frame.refl k w, Framed.remote (.createAndStart k) rfl (fun _ => World.Frame.createAndStart) w]

theorem removeContainer_framed : Framed k (removeContainer k : Exec (World H C) Unit) := fun w => by
  unfold removeContainer; split
  exacts [World.Frame.refl k w, Framed.remote (.removeContainer k) rfl (fun _ => World.Frame.removeContainer) w]

theorem ensureConfigured_framed : Framed k (ensureConfigured k : Exec (World H C) Unit) := by
  refine Framed.bind Framed.get fun w => ?_
  split
  · exact Framed.pure _
  · refine Framed.bind (Framed.wrap _ (configure_framed _ _)) fun _ => ?_
    split <;> exact Framed.modify fun _ => World.Frame.setCurrent

theorem ensureRunning_framed (c : Option (HostConfiguredContainer H C)) :
    Framed k (ensureRunning k c) := by
  unfold ensureRunning; split
  · exact Framed.fail _
  · split
    exacts [Framed.pure _, start_framed _]

theorem ensureExists_framed : Framed k (ensureExists k : Exec (World H C) Unit) := by
  refine Framed.bind Framed.get fun w => ?_
  dsimp only
  refine Framed.ite (Framed.pure _) (Framed.bind (Framed.pure _) fun _ =>
    Framed.bind (Framed.wrap _ createAndStart_framed) fun _ => Framed.bind Framed.get fun _ => ?_)
  split <;> first | exact Framed.pure _ | exact Framed.modify fun _ => World.Frame.setCurrent

omit [DecidableEq H] in
/-- `isUpdatable` only reads the world. -/
theorem isUpdatable_snd (w : World H C) : (isUpdatable k w).2 = w := by
  simp only [isUpdatable, Exec.bind_apply, Exec.get_apply]
  split_ifs <;> rfl

theorem diffHost_framed : Framed k (diffHost k : Exec (World H C) String) :=
  Framed.bind (Framed.wrap _ (Framed.of_snd isUpdatable_snd)) fun _ =>
    Framed.bind Framed.get fun _ => by split <;> exact Framed.pure _

theorem recreate_framed : Framed k (recreate k : Exec (World H C) Unit) :=
  Framed.bind (Framed.wrap _ removeContainer_framed) fun _ => createAndStart_framed

theorem ensureHost_framed : Framed k (ensureHost k : Exec (World H C) Unit) :=
  Framed.bind (Framed.wrap _ diffHost_framed) fun _ => Framed.ite (Framed.pure _)
    (Framed.bind (Framed.pure _) fun _ => Framed.bind (Framed.wrap _ recreate_framed) fun _ =>
      Framed.modify fun _ => World.Frame.copyDesired)

theorem pass1Step_framed (r : HostConfiguredContainer H C) : Framed k (pass1Step k r) :=
  Framed.ite (Framed.modify fun _ => World.Frame.deleteCurrent) (Framed.wrap _ (ensureRunning_framed _))

theorem pass2Step_framed : Framed k (pass2Step k : Exec (World H C) Unit) :=
  Framed.bind (Framed.wrap _ ensureConfigured_framed) fun _ => Framed.wrap _ ensureExists_framed

section Config

variable [DecidableEq C]

omit [DecidableEq H] in
theorem diffContainer_framed : Framed k (diffContainer k : Exec (World H C) String) :=
  Framed.bind (Framed.wrap _ (Framed.of_snd isUpdatable_snd)) fun _ =>
    Framed.bind Framed.get fun _ => by split <;> exact Framed.pure _

theorem ensureContainer_framed : Framed k (ensureContainer k : Exec (World H C) Unit) :=
  Framed.bind (Framed.wrap _ diffContainer_framed) fun _ => Framed.ite (Framed.pure _)
    (Framed.bind (Framed.pure _) fun _ => Framed.bind (Framed.wrap _ recreate_framed) fun _ =>
      Framed.modify fun _ => World.Frame.copyDesired)

theorem pass3Step_framed : Framed k (pass3Step k : Exec (World H C) Unit) :=
  Framed.bind (Framed.wrap _ ensureHost_framed) fun _ =>
    Framed.bind (Framed.wrap _ ensureConfigured_framed) fun _ =>
      Framed.bind (Framed.wrap _ ensureContainer_framed) fun _ => Framed.bind Framed.get fun _ =>
        Framed.ite (Framed.pure _) (Framed.bind (Framed.pure _) fun _ =>
          Framed.wrap _ removeContainer_framed)

end Config

end Engine

end Flexkube
