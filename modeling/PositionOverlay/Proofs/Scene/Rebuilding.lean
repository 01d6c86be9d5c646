import PositionOverlay.Proofs.Scene.Healing
import PositionOverlay.Proofs.Tracker.Rebuilding

/-! # Trackers whose markers are built anew

A tracker that has followed nothing but reports is faithful, whatever was held meanwhile and
whatever the other trackers have done. If its marker is shown beside a line and is built anew for
the size of the position, then after the next paint cycle only numbers tell that it has been:
nothing that is done later with any of the trackers brings a difference to light.
-/
namespace PositionOverlay.Scene

open Work Tracker

variable {s s' : Scene} {name other : String} {tick : Tick} {c : Command} {reply : Reply}
  {key : Nat} {t : Tracker} {a : Arrow}

/-- The tracker of a name, if there is one, is faithful. -/
def Trusts (s : Scene) (name : String) : Prop :=
  ∀ key t, s.trackers.find? name = some (key, t) → t.Faithful

/-! ## Faithful trackers stay faithful -/

theorem Trusts.ticked (h : s.Trusts name) (hs : s.Secluded) (ht : s.Ticked tick s') :
    s'.Trusts name := by
  obtain ⟨f, hf, hfind⟩ := ht.find? hs name
  intro key t' ht'
  rw [hfind, Option.map_eq_some_iff] at ht'
  obtain ⟨⟨key', t⟩, ht, he⟩ := ht'
  obtain ⟨-, rfl⟩ := Prod.mk.inj he
  exact (h key' t ht).drifts (hf t)

/-- Work after which a tracker that was faithful is so. -/
abbrev KeepsTrust (name : String) {α : Type} (x : SceneM α) : Prop :=
  Ensures (fun s => s.Secluded ∧ s.Trusts name) x fun _ s => s.Trusts name

theorem changeTracker_keepsTrust
    {work : Entrance Item Listener → Tracker → ChartM Item Listener Tracker}
    (hwork : ∀ own t, t.Faithful → Yields Faithful (work own t)) :
    KeepsTrust name (changeTracker name work) := by
  rintro s reply s' ⟨hs, h⟩ hrun
  obtain ⟨key, t, t', c, hfind, hx, rfl⟩ := changeTracker_eq_ok hrun
  intro key' t'' hfind'
  rw [Registry.find?_set_self hs.distinct (Registry.holds_of_find? hfind) t'] at hfind'
  obtain ⟨rfl, rfl⟩ := Prod.mk.inj (Option.some.inj hfind')
  exact hwork _ t (h key t hfind) hx

theorem makeTracker_keepsTrust (symbol : String) (config : OverlayConfig) :
    KeepsTrust name (makeTracker name symbol config) := by
  rintro s reply s' ⟨hs, h⟩ hrun
  obtain ⟨t, c, c', hcreate, rfl, -⟩ := makeTracker_eq_ok hrun
  intro key' t' hfind'
  rw [Registry.find?_add_self hs.distinct name t] at hfind'
  obtain ⟨rfl, rfl⟩ := Prod.mk.inj (Option.some.inj hfind')
  exact .of_create hcreate

theorem dropTracker_keepsTrust : KeepsTrust name (dropTracker name) := by
  rintro s reply s' ⟨hs, h⟩ hrun
  rcases dropTracker_eq_ok hrun with ⟨-, rfl⟩ | ⟨key, t, t', c, hfind, hdrop, rfl⟩
  · exact h
  · intro key' t'' hfind'
    rw [Registry.find?_drop_self] at hfind'
    exact nomatch hfind'

theorem current_keepsTrust (f : Tracker → Reply) :
    KeepsTrust name (runTracker.current name >>= fun t => pure (f t)) := by
  rintro s reply s' ⟨-, h⟩ hrun
  obtain ⟨t, s₁, hcurrent, hrun⟩ := bind_eq_ok.mp hrun
  obtain ⟨-, rfl⟩ := Prod.mk.inj (Except.ok.inj hrun)
  rwa [current_eq_ok hcurrent]

theorem runTracker_keepsTrust {c : TrackerCommand} (hc : c.ordinary = true) :
    KeepsTrust name (runTracker name c) := by
  unfold runTracker
  cases c with
  | make symbol config => exact makeTracker_keepsTrust symbol config
  | drop => exact dropTracker_keepsTrust
  | update avgPrice size => exact changeTracker_keepsTrust fun _ t h c t' c' hu => h.update hu
  | «show» => exact changeTracker_keepsTrust fun _ t h => .lift fun t' hshow => h.shown hshow
  | hide => exact changeTracker_keepsTrust fun _ t h => .pure (h.exposed false)
  | hideInfo => exact changeTracker_keepsTrust fun _ t h => .pure h.hideInfo
  | fill f => exact changeTracker_keepsTrust fun _ t h => .after fun _ => .pure (h.record f)
  | updateLine price size => exact nomatch hc
  | levelMarker size => exact nomatch hc
  | positionLine size level keepAs => exact nomatch hc
  | _ => exact current_keepsTrust _

theorem Trusts.run (h : s.Trusts name) (hs : s.Secluded) (hc : c.minds name = true) :
    (s.run c).2.Secluded ∧ (s.run c).2.Trusts name := by
  cases c with
  | tick tick =>
    obtain ⟨reply, s', hrun, ht⟩ := hs.peopled.runTick (runScript s.depth) hc
    have hok : runWith (runScript s.depth) (.tick tick) s = .ok (reply, s') := hrun
    rw [run_of_ok hok]
    exact ⟨ht.tidy hs, h.ticked hs ht⟩
  | hold holdings tick =>
    obtain ⟨reply, s', hrun, ht⟩ := hs.peopled.runHold (runScript s.depth) holdings hc
    rw [run_of_ok hrun]
    exact ⟨ht.tidy hs, h.ticked hs ht⟩
  | tracker other c =>
    simp only [Command.minds] at hc
    have htidy : c.tidy = true := by
      split_ifs at hc
      · exact TrackerCommand.tidy_of_ordinary hc
      · exact hc
    have hs' := hs.run (c := .tracker other c) htidy
    rcases hrun : runWith (runScript s.depth) (.tracker other c) s with e | ⟨reply, s'⟩
    · rw [run_of_error hrun]
      exact ⟨hs, h⟩
    · rw [run_of_ok hrun] at hs' ⊢
      refine ⟨hs', ?_⟩
      split_ifs at hc with hname
      · subst hname
        exact runTracker_keepsTrust hc ⟨hs, h⟩ hrun
      · intro key t hfind
        rw [(runTracker_spares hc (Ne.symm hname) hs hrun).2] at hfind
        exact h key t hfind
  | _ => exact absurd hc Bool.false_ne_true

theorem Trusts.runAll (h : s.Trusts name) (hs : s.Secluded) {cs : List Command}
    (hcs : ∀ c ∈ cs, c.minds name = true) :
    (s.runAll cs).Secluded ∧ (s.runAll cs).Trusts name := by
  induction cs generalizing s with
  | nil => exact ⟨hs, h⟩
  | cons c cs ih =>
    obtain ⟨hc, hcs⟩ := List.forall_mem_cons.mp hcs
    obtain ⟨hs', h'⟩ := h.run hs hc
    exact ih h' hs' hcs

theorem trusts_empty (view : View) (name : String) : (empty view).Trusts name := by
  intro key t hfind
  rw [empty, Registry.find?_empty] at hfind
  cases hfind

/-! ## Paint cycles -/

/-- A paint cycle leaves the entries of the chart and repaints each tracker. -/
theorem Secluded.painted (h : s.Secluded) :
    s.chart.Noted (s.run (.tick .paint)).2.chart ∧
      ∀ n, (s.run (.tick .paint)).2.look n = (s.look n).map (repainted s.chart.view) := by
  obtain ⟨c, hc, hrun⟩ := h.peopled.paint
  obtain ⟨c', r, -, hrun', hr⟩ := paint_visits h
  obtain ⟨-, hscene⟩ := Prod.mk.inj (Except.ok.inj (hrun.symm.trans hrun'))
  have htrackers := congrArg trackers hscene
  have hok : runWith (runScript s.depth) (.tick .paint) s = .ok (.dump _, _) :=
    (bind_of_ok hrun' _).trans rfl
  have hchart : c' = c := (congrArg chart hscene).symm
  rw [run_of_ok hok]
  refine ⟨hchart ▸ hc, fun n => ?_⟩
  change (r.find? n).map (fun p => p.2.bare) = _
  rw [hr, look, Option.map_map, Option.map_map]
  congr 1
  funext p
  exact repainted_bare _ p.2

/-- It does not matter which tracker is registered, but how many are. -/
theorem length_entriesUnder_set {β : Type} {number : Tracker → Option Nat}
    {of : (key build : Nat) → β} {r : Registry Tracker} {t' : Tracker}
    (hfind : r.find? name = some (key, t)) (hn : (number t').isSome = (number t).isSome) :
    (entriesUnder number of (r.set key t').living).length =
      (entriesUnder number of r.living).length := by
  have hk := Registry.holds_of_find? hfind
  have hset := ((Registry.living_set hk t').filterMap fun p =>
    (number p.2).map fun n => (n, of p.1 p.2.build)).length_eq
  have hheld := ((Registry.living_of_holds hk).filterMap fun p =>
    (number p.2).map fun n => (n, of p.1 p.2.build)).length_eq
  refine hset.trans (Eq.trans ?_ hheld.symm)
  rw [List.filterMap_cons, List.filterMap_cons]
  cases hnew : number t' <;> cases hold : number t <;> rw [hnew, hold] at hn
  · rfl
  · exact nomatch hn
  · exact nomatch hn
  · rfl

/-! ## Markers that are built anew -/

/-- The scene once the marker of a tracker has been built anew. -/
theorem Trusts.run_levelMarker (h : s.Trusts name) (hfind : s.trackers.find? name = some (key, t))
    {l : Line} (hl : t.line = some l) (ha : Arrow.ofSize? t.info.size = some a) :
    ∃ item subscription c, c.view = s.chart.view ∧
      s.run (.tracker name (.levelMarker t.info.size)) =
        (.snapshot (t.rebuilt a l.color item subscription).snapshot, { s with
          chart := c
          trackers := s.trackers.set key (t.rebuilt a l.color item subscription) }) := by
  obtain ⟨symbol, config, hr, hconfig⟩ := (h key t hfind).rigged
  obtain ⟨item, subscription, c, hx⟩ := hr.levelMarker_eq hconfig hl ha (entrance key) s.chart
  have hlike : LikeResults (t.levelMarker (entrance key) t.info.size)
      (t.levelMarker (entrance key) t.info.size) :=
    levelMarker_alike (rfl : t.Like t) t.info.size
  refine ⟨item, subscription, c, hlike.view hx, ?_⟩
  let work : Entrance Item Listener → Tracker → ChartM Item Listener Tracker :=
    fun own t' => t'.levelMarker own t.info.size
  have hok : changeTracker name work s = _ := changeTracker_eq s name
  simp only [hfind, work, hx] at hok
  change attempt (changeTracker name work) s = _
  rw [attempt, hok]

/-- Once the marker has been built anew and painted, nothing but numbers has changed. -/
theorem Trusts.rebuilt_resembles (h : s.Trusts name) (hs : s.Secluded)
    (hfind : s.trackers.find? name = some (key, t)) (hl : t.line.isSome = true)
    (hv : t.marker.visible = true) (ha : Arrow.ofSize? t.info.size = some a) :
    let rebuilt := s.run (.tracker name (.levelMarker t.info.size))
    (∃ shot, rebuilt.1 = .snapshot shot) ∧
      rebuilt.2.chart.items.length = s.chart.items.length ∧
      rebuilt.2.chart.listeners.length = s.chart.listeners.length ∧ rebuilt.2.Secluded ∧
      ∀ other, Resembles other (s.run (.tick .paint)).2 (rebuilt.2.run (.tick .paint)).2 := by
  intro rebuilt
  have hsub : t.marker.subscription.isSome = true := hs.subscribed hfind hl
  have hitem : t.marker.item.isSome = true :=
    (hs.inOrder _ (Registry.mem_living.mpr ⟨name, Registry.holds_of_find? hfind⟩)).item
  obtain ⟨l, hl⟩ := Option.isSome_iff_exists.mp hl
  obtain ⟨item, subscription, c, hview, hrun⟩ := h.run_levelMarker hfind hl ha
  have hplain : (Command.tracker name (.levelMarker t.info.size)).plain = true := rfl
  have hs' : rebuilt.2.Secluded := hs.run hplain
  have hrebuilt : rebuilt = _ := hrun
  refine ⟨⟨_, congrArg Prod.fst hrebuilt⟩, ?_, ?_, hs', fun other => ?_⟩
  · rw [hs'.peopled.items.length_eq, hs.peopled.items.length_eq, hrebuilt]
    exact length_entriesUnder_set hfind hitem.symm
  · rw [hs'.peopled.listeners.length_eq, hs.peopled.listeners.length_eq, hrebuilt]
    exact length_entriesUnder_set hfind hsub.symm
  · have hpaint : (Command.tick .paint).plain = true := rfl
    by_cases hname : other = name
    · -- The paint cycle makes up for the place of the new marker.
      subst hname
      obtain ⟨hnoted, hlook⟩ := hs.painted
      obtain ⟨hnoted', hlook'⟩ := hs'.painted
      have hset := Registry.find?_set_self hs.distinct (Registry.holds_of_find? hfind)
        (t.rebuilt a l.color item subscription)
      have hview' : rebuilt.2.chart.view = s.chart.view := by
        rw [hrebuilt]
        exact hview
      have hlooks : rebuilt.2.look other = some (t.rebuilt a l.color item subscription).bare := by
        rw [hrebuilt]
        exact look_of_find? hset
      refine ⟨hs.run hpaint, hs'.run hpaint, ?_, ?_⟩
      · rw [hnoted'.view, hnoted.view, hview']
      · rw [hlook', hlook, hlooks, look_of_find? hfind, hview', Option.map_some, Option.map_some,
          ← repainted_bare, ← repainted_bare,
          (h key t hfind).repainted_rebuilt hv hl ha hsub item subscription]
    · have hne : (Command.tracker name (.levelMarker t.info.size)).concerns other = false := by
        simpa [Command.concerns] using Ne.symm hname
      exact (((Resembles.refl hs other).run_left hplain hne).run hpaint rfl).symm

/-- If the marker of a tracker is shown beside a line and is built anew for the size of the
position, then after the next paint cycle the chart has as many items and listeners as without that,
and nothing but numbers can tell the two scenes apart, whatever is done with the trackers later. -/
theorem runAll_rebuilds (view : View) (name : String) {cs : List Command}
    (hcs : ∀ c ∈ cs, c.minds name = true) {key : Nat} {t : Tracker}
    (hfind : ((empty view).runAll cs).trackers.find? name = some (key, t))
    (hl : t.line.isSome = true) (hv : t.marker.visible = true) {a : Arrow}
    (ha : Arrow.ofSize? t.info.size = some a) :
    let s := (empty view).runAll cs
    let rebuilt := s.run (.tracker name (.levelMarker t.info.size))
    let painted := (s.run (.tick .paint)).2
    let painted' := (rebuilt.2.run (.tick .paint)).2
    (∃ shot, rebuilt.1 = .snapshot shot) ∧
      painted'.chart.items.length = painted.chart.items.length ∧
      painted'.chart.listeners.length = painted.chart.listeners.length ∧
      (∃ key₁ t₁ key₂ t₂, painted.trackers.find? name = some (key₁, t₁) ∧
        painted'.trackers.find? name = some (key₂, t₂) ∧ t₂.snapshot = t₁.snapshot ∧
        t₂.marker.pen = t₁.marker.pen ∧ t₂.marker.brush = t₁.marker.brush ∧
        t₂.marker.level = t₁.marker.level) ∧
      ∀ later : List Command, (∀ c ∈ later, c.plain = true) → ∀ other,
        (painted'.runAll later).look other = (painted.runAll later).look other ∧
        (painted'.runAll later).snapshot? other = (painted.runAll later).snapshot? other := by
  intro s rebuilt painted painted'
  obtain ⟨hs, htrusts⟩ : s.Secluded ∧ s.Trusts name :=
    (trusts_empty view name).runAll (tidy_empty view) hcs
  obtain ⟨hreply, hitems, hlisteners, hs', hresembles⟩ :=
    htrusts.rebuilt_resembles hs hfind hl hv ha
  obtain ⟨hnoted, hlook⟩ := hs.painted
  obtain ⟨hnoted', -⟩ := hs'.painted
  refine ⟨hreply, ?_, ?_, ?_, fun later hlater other => ?_⟩
  · rw [hnoted'.items, hnoted.items]
    exact hitems
  · rw [hnoted'.listeners, hnoted.listeners]
    exact hlisteners
  · rcases (hresembles name).find? with ⟨hnone, -⟩ | ⟨key₁, t₁, key₂, t₂, h₁, h₂, hlike⟩
    · have hsome := hlook name
      rw [look_of_find? hfind, look, hnone] at hsome
      cases hsome
    · have hm := hlike.marker
      exact ⟨key₁, t₁, key₂, t₂, h₁, h₂, hlike.snapshot.symm, (congrArg Marker.pen hm).symm,
        (congrArg Marker.brush hm).symm, (congrArg Marker.level hm).symm⟩
  · have hlater := (hresembles other).runAll hlater
    exact ⟨hlater.look, hlater.snapshot?.symm⟩

/-- A short position out of sight, beside another tracker; the marker was held while the view
changed. -/
theorem runAll_rebuilds_outOfSight :
    let cs : List Command := [.tracker "A" (.make "BTC" .standard),
      .tracker "B" (.make "ETH" .standard), .tracker "A" (.update 50.0 (-2.0)),
      .tracker "B" (.levelMarker 0.0), .hold ⟨[], [], ["A"], [], []⟩ (.range 0.0 200.0),
      .tracker "A" .hideInfo, .tick (.range 60.0 70.0)]
    let later : List Command := [.tracker "A" .show, .tick (.range 40.0 60.0),
      .tracker "B" (.update 50.0 1.0), .tracker "A" (.updateLine 45.0 1.0), .tick .paint]
    let s := (empty .standard).runAll cs
    (∀ c ∈ cs, c.minds "A" = true) ∧ (∀ c ∈ later, c.plain = true) ∧
      ∃ key t a, s.trackers.find? "A" = some (key, t) ∧ t.line.isSome = true ∧
        t.marker.visible = true ∧ Arrow.ofSize? t.info.size = some a ∧
        let rebuilt := s.run (.tracker "A" (.levelMarker t.info.size))
        let painted := (s.run (.tick .paint)).2
        let painted' := (rebuilt.2.run (.tick .paint)).2
        painted'.chart.items.length = painted.chart.items.length ∧
          (painted'.runAll later).snapshot? "A" = (painted.runAll later).snapshot? "A" := by
  intro cs later s
  have hcs := List.all_eq_true.mp (show cs.all (Command.minds "A") = true from rfl)
  have hlater := List.all_eq_true.mp (show later.all Command.plain = true from rfl)
  have hreach : (s.trackers.find? "A").any (fun p => p.2.line.isSome && p.2.marker.visible &&
      (Arrow.ofSize? p.2.info.size).isSome) = true := by decide +kernel
  obtain ⟨⟨key, t⟩, hfind, ht⟩ := (Option.any_eq_true _ _).mp hreach
  simp only [Bool.and_eq_true] at ht
  obtain ⟨⟨hl, hv⟩, ha⟩ := ht
  obtain ⟨a, ha⟩ := Option.isSome_iff_exists.mp ha
  obtain ⟨-, hitems, -, -, hsame⟩ := runAll_rebuilds .standard "A" hcs hfind hl hv ha
  exact ⟨hcs, hlater, key, t, a, hfind, hl, hv, ha, hitems, (hsame later hlater "A").2⟩

end PositionOverlay.Scene
