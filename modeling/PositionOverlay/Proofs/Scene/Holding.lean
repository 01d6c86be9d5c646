import PositionOverlay.Proofs.Scene.Visits
import PositionOverlay.Proofs.Tracker.Holding

/-! # Ticks while something is held

Holding on to parts of trackers does not change who is on the chart, so a tick calls the same
trackers as ever. Whoever holds what, once everything has been let go the view has changed, the
trackers have drifted, and nothing else has happened to them.
-/
namespace PositionOverlay

/-- What a tick makes of the view. -/
def Tick.view : Tick → View → View
  | .range yMin yMax, v => { v with yMin, yMax }
  | .height y, v => { v with height := y }
  | _, v => v

namespace Scene

open Work Tracker Tracker.Account

variable {guest : Listener → Prop} {taken : List (Nat × Listener)} {s s' : Scene} {tick : Tick}
  {name : String} {F : Nat → Tracker → Tracker}

/-! ## Trackers that drift -/

/-- Trackers that drift keep what they have on the chart. -/
theorem Tidy.alter (h : s.Tidy guest taken) (hF : ∀ key (t : Tracker), t.Drifts (F key t)) :
    Tidy guest taken { s with trackers := s.trackers.alter F } := by
  have haccount (p : Nat × Tracker) : (F p.1 p.2).account = p.2.account :=
    (hF p.1 p.2).moved.account
  have hentries : entriesOfAll (s.trackers.alter F).living = entriesOfAll s.trackers.living := by
    rw [entriesOfAll, Registry.living_alter, List.map_map]
    refine congrArg List.sum (List.map_congr_left fun p _ => ?_)
    simp only [Function.comp_apply, entriesOf, haccount]
  have hliving : ∀ q ∈ (s.trackers.alter F).living, ∃ p ∈ s.trackers.living,
      q.2.account = p.2.account := by
    intro q hq
    rw [Registry.living_alter] at hq
    obtain ⟨p, hp, rfl⟩ := List.mem_map.mp hq
    exact ⟨p, hp, haccount p⟩
  refine ⟨h.distinct.alter F, h.free.alter fun key t ht => ?_, fun q hq => ?_, ?_, fun p hp =>
    ⟨(h.reserved p hp).1, fun q hq => ?_⟩⟩
  · exact (congrArg Account.holders (haccount (key, t))).trans ht
  · obtain ⟨p, hp, ha⟩ := hliving q hq
    exact ha ▸ h.inOrder p hp
  · rw [hentries]
    exact h.books
  · obtain ⟨p', hp', ha⟩ := hliving q hq
    have hsub : q.2.marker.subscription = p'.2.marker.subscription :=
      congrArg Account.subscription ha
    rw [hsub]
    exact (h.reserved p hp).2 p' hp'

/-- What a tick does to a scene: the view has changed, trackers have drifted, and the chart has the
entries that it had. -/
structure Ticked (tick : Tick) (s s' : Scene) : Prop where
  view : s'.chart.view = tick.view s.chart.view
  nextId : s'.chart.nextId = s.chart.nextId
  books : ∀ b, s.chart.Books [] b → s'.chart.Books [] b
  trackers : ∃ F, s'.trackers = s.trackers.alter F ∧ ∀ key (t : Tracker), t.Drifts (F key t)
  subscriptions : s'.subscriptions = s.subscriptions

theorem Ticked.tidy (ht : s.Ticked tick s') (h : s.Tidy guest []) : s'.Tidy guest [] := by
  obtain ⟨F, hs', hF⟩ := ht.trackers
  have hchart : Tidy guest [] { s with trackers := s.trackers.alter F, chart := s'.chart } :=
    (h.alter hF).chart ht.nextId ht.books
  exact hchart.congr rfl hs' ht.subscriptions

theorem Ticked.find? (ht : s.Ticked tick s') (h : s.Tidy guest []) (name : String) :
    ∃ f : Tracker → Tracker, (∀ t : Tracker, t.Drifts (f t)) ∧
      s'.trackers.find? name = (s.trackers.find? name).map fun p => (p.1, f p.2) := by
  obtain ⟨F, hs', hF⟩ := ht.trackers
  rw [hs', Registry.find?_alter h.distinct]
  rcases s.trackers.find? name with _ | ⟨key, t⟩
  · exact ⟨id, .refl, rfl⟩
  · exact ⟨F key, hF key, rfl⟩

/-! ## Ticks -/

theorem ticked_paint {c : Chart Item Listener} (hc : s.chart.Noted c) (keys : List Nat) (v : View) :
    s.Ticked .paint { s with chart := c, trackers := s.trackers.modify keys (repainted v) } where
  view := hc.view
  nextId := by
    obtain ⟨_, rfl⟩ := hc
    rfl
  books b hb := by
    obtain ⟨_, rfl⟩ := hc
    exact hb.of_still rfl rfl rfl rfl rfl rfl
  trackers := ⟨_, Registry.modify_eq_alter _ _ _, fun _ t =>
    .iterate (fun t => t.repainted_drifts v) _ t⟩
  subscriptions := rfl

theorem ticked_setView {c : Chart Item Listener} (f : View → View) (hf : tick.view = f)
    (hc : ({ s.chart with view := f s.chart.view }.takeListeners.2).Noted c) (keys : List Nat)
    (v : View) : s.Ticked tick { s with
      chart := c.putListeners s.chart.listeners
      trackers := s.trackers.modify keys (heard v) } where
  view := by
    rw [hf]
    exact hc.view
  nextId := by
    obtain ⟨_, rfl⟩ := hc
    rfl
  books b hb := by
    have htaken : c.Books s.chart.listeners b := by
      obtain ⟨_, rfl⟩ := hc
      exact hb.takeListeners.of_still rfl rfl rfl rfl rfl rfl
    exact htaken.putListeners
  trackers := ⟨_, Registry.modify_eq_alter _ _ _, fun _ t =>
    .iterate (fun t => t.heard_drifts v) _ t⟩
  subscriptions := rfl

/-- Each tick that concerns all trackers succeeds where nothing but trackers is on the chart. -/
theorem Peopled.runTick (h : s.Peopled) (runScript : String → List (String × Command) → SceneM Unit)
    (htick : (Command.tick tick).plain = true) :
    ∃ reply s', Scene.runTick runScript tick s = .ok (reply, s') ∧ s.Ticked tick s' := by
  unfold Scene.runTick
  cases tick with
  | range yMin yMax =>
    let f : View → View := fun v => { v with yMin, yMax }
    obtain ⟨c, hc, hrun⟩ := h.setView runScript f
    exact ⟨_, _, (bind_of_ok hrun _).trans rfl, ticked_setView f rfl hc _ _⟩
  | height height =>
    let f : View → View := fun v => { v with height }
    obtain ⟨c, hc, hrun⟩ := h.setView runScript f
    exact ⟨_, _, (bind_of_ok hrun _).trans rfl, ticked_setView f rfl hc _ _⟩
  | paint =>
    obtain ⟨c, hc, hrun⟩ := h.paint
    exact ⟨_, _, (bind_of_ok hrun _).trans rfl, ticked_paint hc _ _⟩
  | place marker => exact nomatch htick

/-! ## Holders -/

/-- The holders of a tracker's parts are changed as often as its key is listed. -/
theorem changeHolders_trackers (g : Grip) (f : Nat → Nat) (s : Scene) :
    (s.changeHolders g f).trackers = s.trackers.alter fun key =>
      gripped f^[g.trackerMarkers.count key] f^[g.ppLabels.count key]
        f^[g.sizeLabels.count key] := by
  have hmarker : (fun t : Tracker => { t with marker.holders := f t.marker.holders }) =
      gripped f id id := rfl
  have hpp : (fun t : Tracker => { t with ppLabel.holders := f t.ppLabel.holders }) =
      gripped id f id := rfl
  have hsize : (fun t : Tracker => { t with sizeLabel.holders := f t.sizeLabel.holders }) =
      gripped id id f := rfl
  simp only [changeHolders, hmarker, hpp, hsize, Registry.modify_eq_alter, Registry.alter_alter,
    gripped_iterate, Function.iterate_id]
  rfl

theorem Peopled.alter (h : s.Peopled) (hc : s'.chart = s.chart)
    (hs' : s'.trackers = s.trackers.alter F)
    (hF : ∀ key (t : Tracker), (F key t).marker.item = t.marker.item ∧
      (F key t).marker.subscription = t.marker.subscription ∧ (F key t).build = t.build) :
    s'.Peopled := by
  constructor
  · rw [hc, hs', Registry.living_alter, entriesUnder, List.filterMap_map]
    simp only [Function.comp_def, (hF _ _).1, (hF _ _).2.2]
    exact h.items
  · rw [hc, hs', Registry.living_alter, entriesUnder, List.filterMap_map]
    simp only [Function.comp_def, (hF _ _).2.1, (hF _ _).2.2]
    exact h.listeners

/-- Holding on to something does not change who is on the chart. -/
theorem Peopled.changeHolders (h : s.Peopled) (g : Grip) (f : Nat → Nat) :
    (s.changeHolders g f).Peopled :=
  h.alter rfl (changeHolders_trackers g f s) fun _ _ => ⟨rfl, rfl, rfl⟩

/-- A tick while something is held, and after that everything has been let go. -/
theorem Ticked.release {g : Grip} (h : (s.changeHolders g (· + 1)).Ticked tick s') :
    s.Ticked tick (s'.changeHolders g (· - 1)) where
  view := h.view
  nextId := h.nextId
  books := h.books
  trackers := by
    obtain ⟨F, hs', hF⟩ := h.trackers
    have hstep : Function.LeftInverse (· - 1 : Nat → Nat) (· + 1) := fun n => Nat.add_sub_cancel n 1
    rw [changeHolders_trackers, hs', changeHolders_trackers, Registry.alter_alter,
      Registry.alter_alter]
    exact ⟨_, rfl, fun key t =>
      .of_gripped (hstep.iterate _) (hstep.iterate _) (hstep.iterate _) (hF key _)⟩
  subscriptions := h.subscriptions

theorem Peopled.runHold (h : s.Peopled) (runScript : String → List (String × Command) → SceneM Unit)
    (holdings : Holdings) (htick : (Command.tick tick).plain = true) :
    ∃ reply s', runWith runScript (.hold holdings tick) s = .ok (reply, s') ∧
      s.Ticked tick s' := by
  obtain ⟨reply, s', hrun, ht⟩ :=
    (h.changeHolders (gripOf s holdings) (· + 1)).runTick runScript htick
  refine ⟨.dump (s'.changeHolders (gripOf s holdings) (· - 1)).dump, _, ?_, ht.release⟩
  refine (bind_of_ok (get_run s) _).trans ?_
  refine (bind_of_ok (modifyGet_run _ s) _).trans ?_
  refine (bind_of_ok hrun _).trans ?_
  rfl

end Scene

end PositionOverlay
