import PositionOverlay.Proofs.Scene.Visits
import PositionOverlay.Proofs.Tracker.Likeness

/-! # Trackers alone and among others

Trackers share a chart and do not disturb each other. As long as nothing else is on the chart, a
tracker looks at any time as it would look if the commands to the other trackers had never been
given.
-/
namespace PositionOverlay

/-- A command to the tracker of the given name, or to the chart. -/
def Command.concerns (name : String) : Command → Bool
  | .tracker other _ => other == name
  | _ => true

namespace Scene

open Work Tracker

/-- What the tracker of a name shows. -/
def snapshot? (s : Scene) (name : String) : Option Snapshot :=
  (s.trackers.find? name).map fun p => p.2.snapshot

/-- All of the tracker of a name that does not depend on numbers. -/
def look (s : Scene) (name : String) : Option Tracker :=
  (s.trackers.find? name).map fun p => p.2.bare

variable {s s' : Scene} {name other : String} {c : Command}

theorem snapshot?_eq (s : Scene) (name : String) :
    s.snapshot? name = (s.look name).map Tracker.snapshot := by
  rw [snapshot?, look, Option.map_map]
  congr 1
  funext p
  exact p.2.snapshot_bare.symm

/-- A command of plain kind leaves a secluded scene secluded. -/
theorem Secluded.run (h : s.Secluded) (hc : c.plain = true) : (s.run c).2.Secluded :=
  attempt_keepsTidy (runPlain_keepsTidy (fun _ _ hl => hl.elim) hc) h rfl

theorem run_of_ok {reply : Reply} {s₁ : Scene}
    (h : runWith (runScript s.depth) c s = .ok (reply, s₁)) : (s.run c).2 = s₁ := by
  rw [Scene.run, attempt, h]

theorem run_of_error {cause : Refusal} (h : runWith (runScript s.depth) c s = .error cause) :
    (s.run c).2 = s := by
  rw [Scene.run, attempt, h]

/-- Trackers that look alike do it alike. -/
def Uniform (work : Entrance Item Listener → Tracker → ChartM Item Listener Tracker) : Prop :=
  ∀ own own' t t', t.Like t' → LikeResults (work own t) (work own' t')

variable {work : Entrance Item Listener → Tracker → ChartM Item Listener Tracker}

/-! ## One tracker among others -/

/-- The view stays as it is, and so does the tracker of the name. -/
def Spares (name : String) (x : SceneM Reply) : Prop :=
  ∀ ⦃s reply s'⦄, s.Secluded → x s = .ok (reply, s') →
    s'.chart.view = s.chart.view ∧ s'.trackers.find? name = s.trackers.find? name

theorem changeTracker_spares (hwork : Uniform work) (hne : name ≠ other) :
    Spares name (changeTracker other work) := by
  intro s reply s' hs hrun
  obtain ⟨key, t, t', c, hfind, hx, rfl⟩ := changeTracker_eq_ok hrun
  exact ⟨(hwork _ _ t t rfl).view hx,
    Registry.find?_set_of_ne hs.distinct (Registry.holds_of_find? hfind) hne t'⟩

theorem drop_view {t t' : Tracker} {c c' : Chart Item Listener} (h : t.drop c = .ok (t', c')) :
    c'.view = c.view :=
  (drop_alike (t := t) rfl).view h

theorem makeTracker_spares (symbol : String) (config : OverlayConfig) (hne : name ≠ other) :
    Spares name (makeTracker other symbol config) := by
  intro s reply s' hs hrun
  obtain ⟨t, c, c', hcreate, rfl, hold⟩ := makeTracker_eq_ok hrun
  have hview : c.view = s.chart.view := (create_alike _ _ symbol config).view hcreate
  refine ⟨?_, Registry.find?_add_of_ne hs.distinct hne t⟩
  rcases hold with ⟨-, rfl⟩ | ⟨key, old, t', -, hdrop⟩
  · exact hview
  · exact (drop_view hdrop).trans hview

theorem dropTracker_spares (hne : name ≠ other) : Spares name (dropTracker other) := by
  intro s reply s' hs hrun
  rcases dropTracker_eq_ok hrun with ⟨-, rfl⟩ | ⟨key, t, t', c, -, hdrop, rfl⟩
  · exact ⟨rfl, rfl⟩
  · exact ⟨drop_view hdrop, Registry.find?_drop_of_ne hs.distinct hne⟩

theorem current_spares (f : Tracker → Reply) :
    Spares name (runTracker.current other >>= fun t => pure (f t)) := by
  intro s reply s' _ hrun
  obtain ⟨t, s₁, hcurrent, hrun⟩ := bind_eq_ok.mp hrun
  obtain ⟨-, rfl⟩ := Prod.mk.inj (Except.ok.inj hrun)
  rw [current_eq_ok hcurrent]
  exact ⟨rfl, rfl⟩

theorem runTracker_spares {c : TrackerCommand} (hc : c.tidy = true) (hne : name ≠ other) :
    Spares name (runTracker other c) := by
  unfold runTracker
  cases c with
  | make symbol config => exact makeTracker_spares symbol config hne
  | drop => exact dropTracker_spares hne
  | update avgPrice size =>
    exact changeTracker_spares (fun _ _ _ _ h => update_alike h _) hne
  | updateLine price size =>
    exact changeTracker_spares (fun _ _ _ _ h => updateLine_alike h _ _) hne
  | levelMarker size => exact changeTracker_spares (fun _ _ _ _ h => levelMarker_alike h _) hne
  | «show» => exact changeTracker_spares (fun _ _ _ _ h => show_alike h) hne
  | hide => exact changeTracker_spares (fun _ _ _ _ h => .pure (h.map hide_bare)) hne
  | hideInfo => exact changeTracker_spares (fun _ _ _ _ h => .pure (h.map fun _ => rfl)) hne
  | fill f => exact changeTracker_spares (fun _ _ _ _ h => recordFill_alike h f) hne
  | positionLine size level keepAs => exact nomatch hc
  | _ => exact current_spares _

/-! ## One tracker in two scenes -/

/-- Secluded scenes of one view, in which the tracker of a name looks alike. -/
structure Resembles (name : String) (s s' : Scene) : Prop where
  secluded : s.Secluded
  secluded' : s'.Secluded
  view : s'.chart.view = s.chart.view
  look : s'.look name = s.look name

/-- On scenes in which the tracker of a name looks alike, works are both refused, or it looks alike
afterwards. -/
def Pairs (name : String) (x x' : SceneM Reply) : Prop :=
  ∀ ⦃s s'⦄, Resembles name s s' →
    (∃ e e', x s = .error e ∧ x' s' = .error e') ∨
      ∃ r s₁ r' s₁', x s = .ok (r, s₁) ∧ x' s' = .ok (r', s₁') ∧
        s₁'.chart.view = s₁.chart.view ∧ s₁'.look name = s₁.look name

theorem look_of_find? {key : Nat} {t : Tracker} (h : s.trackers.find? name = some (key, t)) :
    s.look name = some t.bare := by
  rw [look, h]
  rfl

/-- If a tracker looks alike in two scenes, then both have it or none. -/
theorem Resembles.find? (h : Resembles name s s') :
    (s.trackers.find? name = none ∧ s'.trackers.find? name = none) ∨
      ∃ key t key' t', s.trackers.find? name = some (key, t) ∧
        s'.trackers.find? name = some (key', t') ∧ t.Like t' := by
  have h := h.look
  unfold Scene.look at h
  rcases hf : s.trackers.find? name with _ | ⟨key, t⟩ <;>
    rcases hf' : s'.trackers.find? name with _ | ⟨key', t'⟩ <;> rw [hf, hf'] at h
  · exact .inl ⟨rfl, rfl⟩
  · exact nomatch h
  · exact nomatch h
  · exact .inr ⟨key, t, key', t', rfl, rfl, (Option.some.inj h).symm⟩

theorem changeTracker_pairs (hwork : Uniform work) :
    Pairs name (changeTracker name work) (changeTracker name work) := by
  intro s s' h
  simp only [changeTracker_eq]
  rcases h.find? with ⟨hf, hf'⟩ | ⟨key, t, key', t', hf, hf', ht⟩
  · simp only [hf, hf']
    exact .inl ⟨_, _, rfl, rfl⟩
  · simp only [hf, hf']
    rcases hwork (entrance key) (entrance key') t t' ht h.view with
      ⟨f, hx, hx'⟩ | ⟨t₁, c₁, t₁', c₁', hx, hx', ht₁, hv₁, hv₁'⟩
    · simp only [hx, hx']
      exact .inl ⟨_, _, rfl, rfl⟩
    · simp only [hx, hx']
      have hset := Registry.find?_set_self h.secluded.distinct (Registry.holds_of_find? hf) t₁
      have hset' := Registry.find?_set_self h.secluded'.distinct (Registry.holds_of_find? hf') t₁'
      refine .inr ⟨_, _, _, _, rfl, rfl, hv₁'.trans hv₁.symm, ?_⟩
      rw [look_of_find? hset', look_of_find? hset, ht₁]

theorem makeTracker_pairs (symbol : String) (config : OverlayConfig) :
    Pairs name (makeTracker name symbol config) (makeTracker name symbol config) := by
  intro s s' h
  simp only [makeTracker_eq]
  rcases create_alike (entrance s.trackers.nextKey) (entrance s'.trackers.nextKey) symbol config
    h.view with ⟨f, hx, hx'⟩ | ⟨t₁, c₁, t₁', c₁', hx, hx', ht₁, hv₁, hv₁'⟩
  · simp only [hx, hx']
    exact .inl ⟨_, _, rfl, rfl⟩
  · have hadd := Registry.find?_add_self h.secluded.distinct name t₁
    have hadd' := Registry.find?_add_self h.secluded'.distinct name t₁'
    simp only [hx, hx']
    rcases h.find? with ⟨hf, hf'⟩ | ⟨key, t, key', t', hf, hf', ht⟩
    · simp only [hf, hf']
      refine .inr ⟨_, _, _, _, rfl, rfl, hv₁'.trans hv₁.symm, ?_⟩
      rw [look_of_find? hadd', look_of_find? hadd, ht₁]
    · simp only [hf, hf']
      rcases drop_alike ht (hv₁'.trans hv₁.symm) with
        ⟨f, hx, hx'⟩ | ⟨_, c₂, _, c₂', hx, hx', -, hv₂, hv₂'⟩
      · simp only [hx, hx']
        exact .inl ⟨_, _, rfl, rfl⟩
      · simp only [hx, hx']
        refine .inr ⟨_, _, _, _, rfl, rfl, hv₂'.trans hv₂.symm, ?_⟩
        rw [look_of_find? hadd', look_of_find? hadd, ht₁]

theorem dropTracker_pairs : Pairs name (dropTracker name) (dropTracker name) := by
  intro s s' h
  simp only [dropTracker_eq]
  rcases h.find? with ⟨hf, hf'⟩ | ⟨key, t, key', t', hf, hf', ht⟩
  · simp only [hf, hf']
    exact .inr ⟨_, _, _, _, rfl, rfl, h.view, h.look⟩
  · simp only [hf, hf']
    rcases drop_alike ht h.view with ⟨f, hx, hx'⟩ | ⟨_, c₁, _, c₁', hx, hx', -, hv₁, hv₁'⟩
    · simp only [hx, hx']
      exact .inl ⟨_, _, rfl, rfl⟩
    · simp only [hx, hx']
      refine .inr ⟨_, _, _, _, rfl, rfl, hv₁'.trans hv₁.symm, ?_⟩
      rw [look, look, Registry.find?_drop_self, Registry.find?_drop_self]

theorem current_pairs (f f' : Tracker → Reply) :
    Pairs name (runTracker.current name >>= fun t => pure (f t))
      (runTracker.current name >>= fun t => pure (f' t)) := by
  intro s s' h
  simp only [bind_run, current_eq]
  rcases h.find? with ⟨hf, hf'⟩ | ⟨key, t, key', t', hf, hf', ht⟩
  · simp only [hf, hf']
    exact .inl ⟨_, _, rfl, rfl⟩
  · simp only [hf, hf']
    exact .inr ⟨_, _, _, _, rfl, rfl, h.view, h.look⟩

theorem runTracker_pairs {c : TrackerCommand} (hc : c.tidy = true) :
    Pairs name (runTracker name c) (runTracker name c) := by
  unfold runTracker
  cases c with
  | make symbol config => exact makeTracker_pairs symbol config
  | drop => exact dropTracker_pairs
  | update avgPrice size => exact changeTracker_pairs fun _ _ _ _ h => update_alike h _
  | updateLine price size => exact changeTracker_pairs fun _ _ _ _ h => updateLine_alike h _ _
  | levelMarker size => exact changeTracker_pairs fun _ _ _ _ h => levelMarker_alike h _
  | «show» => exact changeTracker_pairs fun _ _ _ _ h => show_alike h
  | hide => exact changeTracker_pairs fun _ _ _ _ h => .pure (h.map hide_bare)
  | hideInfo => exact changeTracker_pairs fun _ _ _ _ h => .pure (h.map fun _ => rfl)
  | fill f => exact changeTracker_pairs fun _ _ _ _ h => recordFill_alike h f
  | positionLine size level keepAs => exact nomatch hc
  | _ => exact current_pairs _ _

/-! ## Commands to the chart -/

/-- Visits of two scenes. -/
theorem visits_pairs {view : View → View} {f : View → Tracker → Tracker}
    (hf : ∀ v t, (f v t).bare = f v t.bare) {x x' : SceneM Unit} (hx : Visits view f x)
    (hx' : Visits view f x') :
    Pairs name (x >>= fun _ => get >>= fun s => pure (.dump s.dump))
      (x' >>= fun _ => get >>= fun s => pure (.dump s.dump)) := by
  intro s s' h
  obtain ⟨c, r, hv, hrun, hr⟩ := hx h.secluded
  obtain ⟨c', r', hv', hrun', hr'⟩ := hx' h.secluded'
  refine .inr ⟨_, _, _, _, (bind_of_ok hrun _).trans rfl, (bind_of_ok hrun' _).trans rfl, ?_, ?_⟩
  · rw [hv, hv', h.view]
  · have hlook (s : Scene) (v : View) : ((s.trackers.find? name).map fun p => (p.1, f v p.2)).map
        (fun p => p.2.bare) = (s.look name).map (f v) := by
      rw [look, Option.map_map, Option.map_map]
      congr 1
      funext p
      exact hf v p.2
    change (r'.find? name).map (fun p => p.2.bare) = (r.find? name).map fun p => p.2.bare
    rw [hr, hr', hlook, hlook, h.view, h.look]

theorem told_bare (v : View) (t : Tracker) : (t.told v).bare = t.bare.told v := by
  have hs : t.bare.marker.subscription.isSome = t.marker.subscription.isSome := Option.isSome_map
  unfold told
  rw [apply_ite bare, heard_bare, hs]

/-- A command to the tracker of the name or to the chart. -/
theorem runWith_pairs (script script' : String → List (String × Command) → SceneM Unit)
    (hc : c.plain = true) (hname : c.concerns name = true) :
    Pairs name (runWith script c) (runWith script' c) := by
  unfold runWith
  cases c with
  | tick t =>
    cases t with
    | range yMin yMax => exact visits_pairs told_bare (setView_visits _ _) (setView_visits _ _)
    | height y => exact visits_pairs told_bare (setView_visits _ _) (setView_visits _ _)
    | paint => exact visits_pairs repainted_bare paint_visits paint_visits
    | place marker => exact nomatch hc
  | tracker other c =>
    obtain rfl : other = name := eq_of_beq hname
    exact runTracker_pairs hc
  | _ => exact nomatch hc

theorem runWith_spares (script : String → List (String × Command) → SceneM Unit)
    (hc : c.plain = true) (hname : c.concerns name = false) : Spares name (runWith script c) := by
  cases c with
  | tracker other c => exact runTracker_spares hc fun h => by simp [Command.concerns, h] at hname
  | _ => exact nomatch hname

/-! ## Runs -/

namespace Resembles

theorem refl (h : s.Secluded) (name : String) : Resembles name s s := ⟨h, h, rfl, rfl⟩

theorem symm (h : Resembles name s s') : Resembles name s' s :=
  ⟨h.secluded', h.secluded, h.view.symm, h.look.symm⟩

theorem trans {s'' : Scene} (h : Resembles name s s') (h' : Resembles name s' s'') :
    Resembles name s s'' :=
  ⟨h.secluded, h'.secluded', h'.view.trans h.view, h'.look.trans h.look⟩

theorem snapshot? (h : Resembles name s s') : s.snapshot? name = s'.snapshot? name := by
  rw [snapshot?_eq, snapshot?_eq, h.look]

/-- A command that concerns the tracker, in both scenes. -/
theorem run (h : Resembles name s s') (hc : c.plain = true) (hname : c.concerns name = true) :
    Resembles name (s.run c).2 (s'.run c).2 := by
  have hs := h.secluded.run hc
  have hs' := h.secluded'.run hc
  rcases runWith_pairs (runScript s.depth) (runScript s'.depth) hc hname h with
    ⟨_, _, he, he'⟩ | ⟨_, _, _, _, hr, hr', hv, hl⟩
  · rw [run_of_error he, run_of_error he']
    exact h
  · rw [run_of_ok hr] at hs ⊢
    rw [run_of_ok hr'] at hs' ⊢
    exact ⟨hs, hs', hv, hl⟩

/-- A command to another tracker, in one of the scenes. -/
theorem run_left (h : Resembles name s s') (hc : c.plain = true)
    (hname : c.concerns name = false) : Resembles name (s.run c).2 s' := by
  have hs := h.secluded.run hc
  rcases hr : runWith (runScript s.depth) c s with e | ⟨reply, s₁⟩
  · rw [run_of_error hr]
    exact h
  · obtain ⟨hv, hf⟩ := runWith_spares (runScript s.depth) hc hname h.secluded hr
    rw [run_of_ok hr] at hs ⊢
    refine ⟨hs, h.secluded', h.view.trans hv.symm, ?_⟩
    rw [h.look, Scene.look, Scene.look, hf]

/-- Any commands in one scene, and those that concern the tracker in the other. -/
theorem runAll_filter (h : Resembles name s s') {cs : List Command}
    (hcs : ∀ c ∈ cs, c.plain = true) :
    Resembles name (s.runAll cs) (s'.runAll (cs.filter (Command.concerns name))) := by
  induction cs generalizing s s' with
  | nil => exact h
  | cons c cs ih =>
    obtain ⟨hc, hcs⟩ := List.forall_mem_cons.mp hcs
    by_cases hname : c.concerns name = true
    · rw [List.filter_cons_of_pos hname]
      exact ih (h.run hc hname) hcs
    · rw [List.filter_cons_of_neg hname]
      exact ih (h.run_left hc (Bool.eq_false_iff.mpr hname)) hcs

theorem runAll (h : Resembles name s s') {cs : List Command} (hcs : ∀ c ∈ cs, c.plain = true) :
    Resembles name (s.runAll cs) (s'.runAll cs) :=
  (h.runAll_filter hcs).trans ((refl h.secluded' name).runAll_filter hcs).symm

end Resembles

/-- The items and the listeners of a chart in another order. -/
def reorder (s : Scene) (items : List (Nat × Item)) (listeners : List (Nat × Listener)) : Scene :=
  { s with chart := { s.chart with items, listeners } }

theorem Secluded.reorder (h : s.Secluded) {items : List (Nat × Item)}
    {listeners : List (Nat × Listener)} (hi : items.Perm s.chart.items)
    (hl : listeners.Perm s.chart.listeners) : (s.reorder items listeners).Secluded :=
  h.chart rfl fun _ hb => hb.reorder hi hl

/-- At any time a tracker shows what it would show if the commands to other trackers had never been
given. A command to another tracker does not change what it shows, nor does it matter in which
order the chart keeps items and listeners. -/
theorem runAll_projection (view : View) (cs : List Command) (hcs : ∀ c ∈ cs, c.plain = true)
    (name : String) :
    let s := (empty view).runAll cs
    (∀ n, ((empty view).runAll (cs.take n)).snapshot? name =
      ((empty view).runAll ((cs.take n).filter (Command.concerns name))).snapshot? name) ∧
    (∀ c : Command, c.plain = true → c.concerns name = false →
      (s.run c).2.snapshot? name = s.snapshot? name) ∧
    ∀ items listeners, items.Perm s.chart.items → listeners.Perm s.chart.listeners →
      ∀ later : List Command, (∀ c ∈ later, c.plain = true) →
        ((s.reorder items listeners).runAll later).snapshot? name =
          (s.runAll later).snapshot? name := by
  intro s
  have hempty : (empty view).Secluded := tidy_empty view
  have hs : s.Secluded := ((Resembles.refl hempty name).runAll_filter hcs).secluded
  refine ⟨fun n => ?_, fun c hc hname => ?_, fun items listeners hi hl later hlater => ?_⟩
  · have htaken : ∀ c ∈ cs.take n, c.plain = true := fun c hc => hcs c (List.mem_of_mem_take hc)
    exact ((Resembles.refl hempty name).runAll_filter htaken).snapshot?
  · exact ((Resembles.refl hs name).run_left hc hname).snapshot?
  · have hreorder : Resembles name (s.reorder items listeners) s := ⟨hs.reorder hi hl, hs, rfl, rfl⟩
    exact (hreorder.runAll hlater).snapshot?

/-- Two trackers with lines, one of which is built anew, so that it is painted after the other and
under another number than alone. -/
theorem runAll_projection_shared :
    let cs : List Command := [.tracker "A" (.make "BTC" .standard),
      .tracker "B" (.make "ETH" .standard), .tracker "B" (.update 50.0 (-2.0)),
      .tracker "A" (.update 100.0 2.0), .tick (.range 0.0 10.0), .tracker "A" (.levelMarker 1.0)]
    let s := (empty .standard).runAll cs
    let alone := (empty .standard).runAll (cs.filter (Command.concerns "A"))
    (∀ c ∈ cs, c.plain = true) ∧ (s.snapshot? "A").isSome ∧
      s.chart.items.map Prod.fst = [2, 7] ∧ alone.chart.items.map Prod.fst = [4] ∧
      s.snapshot? "A" = alone.snapshot? "A" ∧
      (s.run (.tracker "B" .drop)).2.snapshot? "A" = s.snapshot? "A" ∧
      ((s.reorder s.chart.items.reverse s.chart.listeners.reverse).runAll
        [.tick .paint]).snapshot? "A" = (s.runAll [.tick .paint]).snapshot? "A" := by
  intro cs s alone
  have hall : cs.all Command.plain = true := rfl
  have hcs := List.all_eq_true.mp hall
  obtain ⟨hprojection, hothers, horder⟩ := runAll_projection .standard cs hcs "A"
  refine ⟨hcs, by decide +kernel, by decide +kernel, by decide +kernel, hprojection 6,
    hothers _ rfl rfl, ?_⟩
  exact horder _ _ s.chart.items.reverse_perm s.chart.listeners.reverse_perm _ fun c hc =>
    List.all_eq_true.mp (show [Command.tick .paint].all Command.plain = true from rfl) c hc

end Scene

end PositionOverlay
