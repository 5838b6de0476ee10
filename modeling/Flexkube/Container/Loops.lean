import Flexkube.Container.Frame

/-!
# The Passes, Name by Name

`rangeMap_inv` and `rangeMap_inv_nodup` package the induction over a pass once: an
invariant indexed by the names visited so far, kept by every visit of a present key
and by every skipped key, holds at the end of a pass that returns `nil`.
`rangeMap_inv_of_ok` is the same rule for a pass that is known to return `nil`, whose
visits need only keep the invariant when they do, and `rangeMap_preserves` the rule for
every run of a pass, failed runs included; `rangeMap_error` traces the error of a failed
pass back to the visit that returned it.

On top of them, the `rangeMap_views` lemmas take a pass apart by name: since every visit
of a name has the frame of that name, a property of one name's view that each visit
establishes holds at the end for every visited name, and the other names keep their
views. `rangeMap_views_abort` does the same for passes that may stop at a failing visit.
-/

namespace Flexkube

open Exec

variable {H C : Type}

/-! ## The loop -/

section Range

variable {sel : World H C → ContainersState H C}
  {body : String → HostConfiguredContainer H C → Exec (World H C) Unit}

@[simp] theorem rangeMap_nil (w : World H C) : rangeMap sel body [] w = (.ok (), w) := rfl

theorem rangeMap_cons_none {k : String} {ks : List String} {w : World H C}
    (hk : (sel w).get k = none) : rangeMap sel body (k :: ks) w = rangeMap sel body ks w := by
  simp [rangeMap, hk]

theorem rangeMap_cons_some {k : String} {ks : List String} {w w' : World H C}
    {v : HostConfiguredContainer H C} (hk : (sel w).get k = some v)
    (hb : body k v w = (.ok (), w')) : rangeMap sel body (k :: ks) w = rangeMap sel body ks w' := by
  simp [rangeMap, hk, hb]

theorem rangeMap_cons_error {k : String} {ks : List String} {w w' : World H C}
    {v : HostConfiguredContainer H C} {e : String} (hk : (sel w).get k = some v)
    (hb : body k v w = (.error e, w')) : rangeMap sel body (k :: ks) w = (.error e, w') := by
  simp [rangeMap, hk, hb]

/-- The loop invariant of a pass, indexed by the names visited so far. -/
theorem rangeMap_inv (I : List String → World H C → Prop)
    (hstep : ∀ vis k v w, I vis w → (sel w).get k = some v →
      ∃ w', body k v w = (.ok (), w') ∧ I (k :: vis) w')
    (hskip : ∀ vis k w, I vis w → (sel w).get k = none → I (k :: vis) w) :
    ∀ (ks vis : List String) (w : World H C), I vis w →
      ∃ w', rangeMap sel body ks w = (.ok (), w') ∧ I (ks.reverse ++ vis) w'
  | [], vis, w, hI => ⟨w, rfl, hI⟩
  | k :: ks, vis, w, hI => by
    cases hk : (sel w).get k with
    | none =>
      obtain ⟨w', h, hI'⟩ := rangeMap_inv I hstep hskip ks (k :: vis) w (hskip vis k w hI hk)
      exact ⟨w', (rangeMap_cons_none hk).trans h, by simpa using hI'⟩
    | some v =>
      obtain ⟨w1, h1, hI1⟩ := hstep vis k v w hI hk
      obtain ⟨w', h, hI'⟩ := rangeMap_inv I hstep hskip ks (k :: vis) w1 hI1
      exact ⟨w', (rangeMap_cons_some hk h1).trans h, by simpa using hI'⟩

/-- The loop invariant of a pass that returns `nil`, kept by every visit that does. -/
theorem rangeMap_inv_of_ok (I : World H C → Prop)
    (hstep : ∀ k v w w', I w → (sel w).get k = some v → body k v w = (.ok (), w') → I w') :
    ∀ (ks : List String) (w w' : World H C), I w → rangeMap sel body ks w = (.ok (), w') → I w'
  | [], w, w', hI, h => by cases h; exact hI
  | k :: ks, w, w', hI, h => by
    cases hk : (sel w).get k with
    | none =>
      rw [rangeMap_cons_none hk] at h
      exact rangeMap_inv_of_ok I hstep ks w w' hI h
    | some v =>
      rcases hb : body k v w with ⟨_ | ⟨⟩, w₁⟩
      · rw [rangeMap_cons_error hk hb] at h; cases h
      · rw [rangeMap_cons_some hk hb] at h
        exact rangeMap_inv_of_ok I hstep ks w₁ w' (hstep k v w w₁ hI hk hb) h

/-- The loop invariant of a pass whose keys are visited at most once. -/
theorem rangeMap_inv_nodup (I : List String → World H C → Prop)
    (hstep : ∀ vis k v w, k ∉ vis → I vis w → (sel w).get k = some v →
      ∃ w', body k v w = (.ok (), w') ∧ I (k :: vis) w')
    (hskip : ∀ vis k w, k ∉ vis → I vis w → (sel w).get k = none → I (k :: vis) w) :
    ∀ (ks vis : List String) (w : World H C), ks.Nodup → (∀ k ∈ ks, k ∉ vis) → I vis w →
      ∃ w', rangeMap sel body ks w = (.ok (), w') ∧ I (ks.reverse ++ vis) w'
  | [], vis, w, _, _, hI => ⟨w, rfl, hI⟩
  | k :: ks, vis, w, hnd, hdisj, hI => by
    have hk0 : k ∉ vis := hdisj k (List.mem_cons_self k ks)
    have hdisj' : ∀ j ∈ ks, j ∉ k :: vis := fun j hj hj' => by
      rcases List.mem_cons.1 hj' with rfl | hj'
      · exact (List.nodup_cons.1 hnd).1 hj
      · exact hdisj j (List.mem_cons_of_mem k hj) hj'
    cases hk : (sel w).get k with
    | none =>
      obtain ⟨w', h, hI'⟩ := rangeMap_inv_nodup I hstep hskip ks (k :: vis) w
        (List.nodup_cons.1 hnd).2 hdisj' (hskip vis k w hk0 hI hk)
      exact ⟨w', (rangeMap_cons_none hk).trans h, by simpa using hI'⟩
    | some v =>
      obtain ⟨w1, h1, hI1⟩ := hstep vis k v w hk0 hI hk
      obtain ⟨w', h, hI'⟩ := rangeMap_inv_nodup I hstep hskip ks (k :: vis) w1
        (List.nodup_cons.1 hnd).2 hdisj' hI1
      exact ⟨w', (rangeMap_cons_some hk h1).trans h, by simpa using hI'⟩

/-- Every run of a pass keeps an invariant that each visit keeps from the world it starts
in. -/
theorem rangeMap_preserves {I : World H C → Prop}
    (hb : ∀ k v w, I w → (sel w).get k = some v → I (body k v w).2) :
    ∀ ks, Preserves I (rangeMap sel body ks)
  | [] => .pure ()
  | k :: ks => fun w hw => by
    unfold rangeMap
    rw [bind_apply, get_apply]
    dsimp only
    cases hv : (sel w).get k with
    | none => exact Preserves.bind (.pure ()) (fun _ => rangeMap_preserves hb ks) w hw
    | some v => exact Preserves.bind_at (hb k v w hw hv) fun _ => rangeMap_preserves hb ks

/-- A pass fails with the error of one of its visits, made from a world in `I` when every
visit keeps `I`. -/
theorem rangeMap_error {I : World H C → Prop}
    (hb : ∀ k v w, I w → (sel w).get k = some v → I (body k v w).2) :
    ∀ ks w e, I w → (rangeMap sel body ks w).1 = .error e →
      ∃ k v w₁, I w₁ ∧ (sel w₁).get k = some v ∧ (body k v w₁).1 = .error e
  | [], _, _, _, h => by cases h
  | k :: ks, w, e, hw, h => by
    cases hk : (sel w).get k with
    | none => rw [rangeMap_cons_none hk] at h; exact rangeMap_error hb ks w e hw h
    | some v =>
      rcases hbw : body k v w with ⟨_ | ⟨⟩, w'⟩
      · rw [rangeMap_cons_error hk hbw] at h
        exact ⟨k, v, w, hw, hk, by rw [hbw]; exact h⟩
      · rw [rangeMap_cons_some hk hbw] at h
        exact rangeMap_error hb ks w' e (by simpa only [hbw] using hb k v w hw hk) h

end Range

/-! ## Passes, name by name -/

section Views

variable (sel : World H C → ContainersState H C)
  (body : String → HostConfiguredContainer H C → Exec (World H C) Unit)

/-- A pass visiting each key at most once acts name by name: every name it visits goes
from its view at the start of the pass to one satisfying `Q`, every other name keeps its
view, provided each visit has the frame of its name and keeps the global invariant `G`. -/
theorem rangeMap_views_nodup (G : World H C → Prop)
    (Q : String → Option (HostConfiguredContainer H C) × Option (HostConfiguredContainer H C) ×
      List Event → Prop) (w₀ : World H C)
    (hstep : ∀ k v w, G w → World.view k w = World.view k w₀ → (sel w).get k = some v →
      ∃ w', body k v w = (.ok (), w') ∧ World.Frame k w w' ∧ G w' ∧ Q k (World.view k w'))
    (hskip : ∀ k w, G w → World.view k w = World.view k w₀ → (sel w).get k = none →
      Q k (World.view k w))
    (ks : List String) (hnd : ks.Nodup) (hG : G w₀) :
    ∃ w', rangeMap sel body ks w₀ = (.ok (), w') ∧ G w' ∧
      ∀ n, (n ∈ ks → Q n (World.view n w')) ∧ (n ∉ ks → World.view n w' = World.view n w₀) := by
  let I : List String → World H C → Prop := fun vis w => G w ∧
    ∀ n, (n ∈ vis → Q n (World.view n w)) ∧ (n ∉ vis → World.view n w = World.view n w₀)
  have step : ∀ vis k v w, k ∉ vis → I vis w → (sel w).get k = some v →
      ∃ w', body k v w = (.ok (), w') ∧ I (k :: vis) w' := by
    intro vis k v w hk ⟨hG, hv⟩ hsel
    obtain ⟨w', hb, hfr, hG', hQ⟩ := hstep k v w hG ((hv k).2 hk) hsel
    refine ⟨w', hb, hG', fun n => ⟨fun hn => ?_, fun hn => ?_⟩⟩
    · rcases List.mem_cons.1 hn with rfl | hn'
      · exact hQ
      · rw [hfr.view fun h => hk (h ▸ hn')]; exact (hv n).1 hn'
    · rw [hfr.view (fun h => hn (h ▸ List.mem_cons_self _ _))]
      exact (hv n).2 fun h => hn (List.mem_cons_of_mem _ h)
  have skip : ∀ vis k w, k ∉ vis → I vis w → (sel w).get k = none → I (k :: vis) w := by
    intro vis k w hk ⟨hG, hv⟩ hsel
    refine ⟨hG, fun n => ⟨fun hn => ?_, fun hn => (hv n).2 fun h => hn (List.mem_cons_of_mem _ h)⟩⟩
    rcases List.mem_cons.1 hn with rfl | hn
    · exact hskip n w hG ((hv n).2 hk) hsel
    · exact (hv n).1 hn
  obtain ⟨w', h, hG', hv⟩ := rangeMap_inv_nodup I step skip ks [] w₀ hnd (by simp) ⟨hG, by simp⟩
  exact ⟨w', h, hG', fun n => by simpa using hv n⟩

/-- A pass that may visit a key again acts name by name as well, when a visit of a name
already satisfying `Q` keeps it satisfying `Q`. -/
theorem rangeMap_views (G : World H C → Prop)
    (Q : String → Option (HostConfiguredContainer H C) × Option (HostConfiguredContainer H C) ×
      List Event → Prop) (w₀ : World H C)
    (hstep : ∀ k v w, G w → (World.view k w = World.view k w₀ ∨ Q k (World.view k w)) →
      (sel w).get k = some v →
      ∃ w', body k v w = (.ok (), w') ∧ World.Frame k w w' ∧ G w' ∧ Q k (World.view k w'))
    (hskip : ∀ k w, G w → (World.view k w = World.view k w₀ ∨ Q k (World.view k w)) →
      (sel w).get k = none → Q k (World.view k w))
    (ks : List String) (hG : G w₀) :
    ∃ w', rangeMap sel body ks w₀ = (.ok (), w') ∧ G w' ∧
      ∀ n, (n ∈ ks → Q n (World.view n w')) ∧ (n ∉ ks → World.view n w' = World.view n w₀) := by
  let I : List String → World H C → Prop := fun vis w => G w ∧
    ∀ n, (n ∈ vis → Q n (World.view n w)) ∧ (n ∉ vis → World.view n w = World.view n w₀)
  have pre : ∀ vis w n, I vis w → (World.view n w = World.view n w₀ ∨ Q n (World.view n w)) :=
    fun vis w n ⟨_, hv⟩ => by
      by_cases hn : n ∈ vis
      exacts [Or.inr ((hv n).1 hn), Or.inl ((hv n).2 hn)]
  have step : ∀ vis k v w, I vis w → (sel w).get k = some v →
      ∃ w', body k v w = (.ok (), w') ∧ I (k :: vis) w' := by
    intro vis k v w hI hsel
    obtain ⟨w', hb, hfr, hG', hQ⟩ := hstep k v w hI.1 (pre vis w k hI) hsel
    refine ⟨w', hb, hG', fun n => ⟨fun hn => ?_, fun hn => ?_⟩⟩
    · by_cases hnk : n = k
      · exact hnk ▸ hQ
      · rw [hfr.view hnk]; exact (hI.2 n).1 ((List.mem_cons.1 hn).resolve_left hnk)
    · rw [hfr.view (fun h => hn (h ▸ List.mem_cons_self _ _))]
      exact (hI.2 n).2 fun h => hn (List.mem_cons_of_mem _ h)
  have skip : ∀ vis k w, I vis w → (sel w).get k = none → I (k :: vis) w := by
    intro vis k w hI hsel
    refine ⟨hI.1, fun n => ⟨fun hn => ?_, fun hn => (hI.2 n).2 fun h => hn (List.mem_cons_of_mem _ h)⟩⟩
    by_cases hnk : n = k
    · exact hnk ▸ hskip k w hI.1 (pre vis w k hI) hsel
    · exact (hI.2 n).1 ((List.mem_cons.1 hn).resolve_left hnk)
  obtain ⟨w', h, hG', hv⟩ := rangeMap_inv I step skip ks [] w₀ ⟨hG, by simp⟩
  exact ⟨w', h, hG', fun n => by simpa using hv n⟩

/-- A pass whose visits may fail acts name by name as well: whatever it returns, every
name keeps its view or ends satisfying `Q`, provided each visit, whatever it returns, has
the frame of its name, keeps `G` and leaves its name satisfying `Q`. -/
theorem rangeMap_views_abort (G : World H C → Prop)
    (Q : String → Option (HostConfiguredContainer H C) × Option (HostConfiguredContainer H C) ×
      List Event → Prop) (w₀ : World H C)
    (hstep : ∀ k v w, G w → (World.view k w = World.view k w₀ ∨ Q k (World.view k w)) →
      (sel w).get k = some v →
      World.Frame k w (body k v w).2 ∧ G (body k v w).2 ∧ Q k (World.view k (body k v w).2))
    (ks : List String) (hG : G w₀) :
    G (rangeMap sel body ks w₀).2 ∧ ∀ n, World.view n (rangeMap sel body ks w₀).2 =
      World.view n w₀ ∨ Q n (World.view n (rangeMap sel body ks w₀).2) := by
  let J : World H C → Prop := fun w =>
    G w ∧ ∀ n, World.view n w = World.view n w₀ ∨ Q n (World.view n w)
  suffices h : ∀ ks w, J w → J (rangeMap sel body ks w).2 from h ks w₀ ⟨hG, fun _ => .inl rfl⟩
  intro ks
  induction ks with
  | nil => exact fun w hJ => hJ
  | cons k ks ih =>
    intro w hJ
    cases hk : (sel w).get k with
    | none => rw [rangeMap_cons_none hk]; exact ih w hJ
    | some v =>
      obtain ⟨hfr, hG', hQ⟩ := hstep k v w hJ.1 (hJ.2 k) hk
      have hJ' : J (body k v w).2 := ⟨hG', fun n => by
        by_cases hn : n = k
        · subst hn; exact .inr hQ
        · rw [hfr.view hn]; exact hJ.2 n⟩
      rcases hb : body k v w with ⟨_ | ⟨⟩, w'⟩ <;> rw [hb] at hJ'
      · rw [rangeMap_cons_error hk hb]; exact hJ'
      · rw [rangeMap_cons_some hk hb]; exact ih w' hJ'

end Views

end Flexkube
