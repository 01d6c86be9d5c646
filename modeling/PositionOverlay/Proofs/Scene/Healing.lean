import PositionOverlay.Proofs.Scene.Holding
import PositionOverlay.Proofs.Scene.Projection
import PositionOverlay.Proofs.Tracker.Safety

/-! # What was passed over is made up for

A tick passes over what is held, so a marker or a label may be left where an older view or an older
price has put it. What a tracker depicts is not touched by that: it is at any time what it would be
if nobody had ever held on to anything. The next tick that reaches the marker while nothing is held
puts everything in its place, and nothing is left of what was passed over.
-/
namespace PositionOverlay

/-- A command to a tracker that leaves it assembled, if it is. -/
def TrackerCommand.ordinary : TrackerCommand → Bool
  | .updateLine _ _ => false
  | .levelMarker _ => false
  | .positionLine _ _ _ => false
  | _ => true

/-- The command, while nothing is held. -/
def Command.unheld : Command → Command
  | .hold _ t => .tick t
  | c => c

/-- A tick while something is held or nothing, an ordinary command to the tracker of a name, or a
tidy command to another tracker. -/
def Command.minds (name : String) : Command → Bool
  | .tick t => (Command.tick t).plain
  | .hold _ t => (Command.tick t).plain
  | .tracker other c => if other = name then c.ordinary else c.tidy
  | _ => false

/-- Whether a tick puts a tracker in its place that shows what is given: a change of the view if
there is a line, as its marker hears of the change, and a paint cycle if the marker can be seen. -/
def Tick.settles (shot : Snapshot) : Tick → Bool
  | .range _ _ => shot.lineLevel.isSome
  | .height _ => shot.lineLevel.isSome
  | .paint => shot.markerVisible
  | .place _ => false

/-- Whether a tick keeps a marker in sight. -/
def Tick.keeps (config : OverlayConfig) : Tick → Bool
  | .paint => config.keepInView
  | _ => true

theorem TrackerCommand.tidy_of_ordinary {c : TrackerCommand} (h : c.ordinary = true) :
    c.tidy = true := by
  cases c with
  | positionLine size level keepAs => exact nomatch h
  | _ => rfl

theorem Command.minds_unheld (name : String) (c : Command) :
    c.unheld.minds name = c.minds name := by
  cases c <;> rfl

/-! ## Portraits -/

/-- The view, and the configuration of a tracker with what it depicts, if there is a tracker. -/
structure Portrait where
  view : View
  tracker : Option (OverlayConfig × Snapshot)

/-- What a command makes of the tracker in a portrait. -/
def TrackerCommand.portray :
    TrackerCommand → Option (OverlayConfig × Snapshot) → Option (OverlayConfig × Snapshot)
  | .make symbol config, p =>
    if config.isBuildable then some (config, (Tracker.initial symbol config 0).depiction) else p
  | .drop, _ => none
  | .update avgPrice size, p => p.map (Prod.map id (Snapshot.reported (.ofSize avgPrice size)))
  | .show, p => p.map (Prod.map id Snapshot.shown)
  | .hide, p => p.map (Prod.map id (Snapshot.exposed false))
  | .hideInfo, p => p.map (Prod.map id fun s => { s with sizeVisible := false })
  | .fill _, p => p.map (Prod.map id fun s => { s with fills := s.fills + 1 })
  | _, p => p

/-- What a command makes of the portrait of a name's tracker. -/
def Command.portray (name : String) : Command → Portrait → Portrait
  | .tick t, p => { p with view := t.view p.view }
  | .hold _ t, p => { p with view := t.view p.view }
  | .tracker other c, p => if other = name then { p with tracker := c.portray p.tracker } else p
  | _, p => p

/-- It does not matter whether something is held. -/
theorem Command.portray_unheld (name : String) (c : Command) :
    c.unheld.portray name = c.portray name := by
  cases c <;> rfl

namespace Scene

open Work Tracker

variable {s s' : Scene} {name other : String} {p : Portrait} {tick : Tick} {c : Command}

/-- The tracker of a name is assembled, and its configuration and what it depicts are as given; or
there is none, if nothing is given. -/
def Sits (s : Scene) (name : String) : Option (OverlayConfig × Snapshot) → Prop
  | none => s.trackers.find? name = none
  | some (config, shot) => ∃ key t, s.trackers.find? name = some (key, t) ∧ t.Assembled ∧
      t.config = config ∧ t.depiction = shot

theorem sits_none : s.Sits name none ↔ s.trackers.find? name = none := Iff.rfl

/-- A portrait shows the scene. -/
structure Portrayed (s : Scene) (name : String) (p : Portrait) : Prop where
  secluded : s.Secluded
  view : s.chart.view = p.view
  tracker : s.Sits name p.tracker

/-! ## Ticks -/

theorem Portrayed.ticked (h : s.Portrayed name p) (ht : s.Ticked tick s') :
    s'.Portrayed name { p with view := tick.view p.view } := by
  refine ⟨ht.tidy h.secluded, ht.view.trans (congrArg _ h.view), ?_⟩
  obtain ⟨f, hf, hfind⟩ := ht.find? h.secluded name
  obtain ⟨view, tracker⟩ := p
  cases tracker with
  | none => exact hfind.trans (congrArg _ (sits_none.mp h.tracker))
  | some q =>
    obtain ⟨key, t, ht, ha, hconfig, hdepiction⟩ := h.tracker
    rw [ht] at hfind
    exact ⟨key, f t, hfind, (hf t).assembled ha, (hf t).moved.config.trans hconfig,
      (hf t).moved.depiction.trans hdepiction⟩

/-- What can be seen of a tracker after it has been visited. -/
theorem snapshot?_visited {view : View → View} {f : View → Tracker → Tracker} {x : SceneM Unit}
    (hx : Visits view f x) (h : s.Secluded) (name : String)
    (hc : runWith (runScript s.depth) c = x >>= fun _ => get >>= fun s => pure (.dump s.dump)) :
    (s.run c).2.snapshot? name =
      (s.trackers.find? name).map fun p => (f (view s.chart.view) p.2).snapshot := by
  obtain ⟨chart, r, -, hrun, hr⟩ := hx h
  have hok : runWith (runScript s.depth) c s = .ok (.dump { s with chart, trackers := r }.dump,
      { s with chart, trackers := r }) := by
    rw [hc]
    exact (bind_of_ok hrun _).trans rfl
  rw [run_of_ok hok, snapshot?, hr, Option.map_map]
  rfl

theorem Secluded.subscribed (h : s.Secluded) {key : Nat} {t : Tracker}
    (hfind : s.trackers.find? name = some (key, t)) (hl : t.line.isSome = true) :
    t.marker.subscription.isSome = true := by
  have hp : (key, t) ∈ s.trackers.living :=
    Registry.mem_living.mpr ⟨name, Registry.holds_of_find? hfind⟩
  refine (h.inOrder _ hp).subscribed ?_
  rwa [account, Option.isSome_map]

/-- After a tick that reaches the marker the tracker shows what its portrait and the view tell. -/
theorem Portrayed.settled {view : View} {config : OverlayConfig} {shot : Snapshot}
    (h : s.Portrayed name ⟨view, some (config, shot)⟩) (ht : tick.settles shot = true) :
    (s.run (.tick tick)).2.snapshot? name =
      some (shot.placed config (tick.keeps config) (tick.view view)) := by
  obtain ⟨key, t, hfind, ha, rfl, rfl⟩ := h.tracker
  have hview : s.chart.view = view := h.view
  -- Whoever hears of a new view goes where this view wants it.
  have hrange (v : View) (hl : t.depiction.lineLevel.isSome = true) :
      (t.told v).snapshot = t.depiction.placed t.config true v := by
    have hline : t.line.isSome = true := Option.isSome_map.symm.trans hl
    rw [told, if_pos (h.secluded.subscribed hfind hline), ha.heard_eq, onRange,
      ha.snapshot_eq_placed]
  cases tick with
  | range yMin yMax =>
    rw [snapshot?_visited (setView_visits _ _) h.secluded name rfl, hfind, hview]
    exact congrArg some (hrange _ ht)
  | height height =>
    rw [snapshot?_visited (setView_visits _ _) h.secluded name rfl, hfind, hview]
    exact congrArg some (hrange _ ht)
  | paint =>
    have hv : t.marker.visible = true := ht
    rw [snapshot?_visited paint_visits h.secluded name rfl, hfind, hview, Option.map_some,
      ha.repainted_eq, onPaint, if_pos hv, ha.snapshot_eq_placed]
    rfl
  | place marker => exact absurd ht Bool.false_ne_true

/-! ## Commands to the tracker -/

/-- What a command to the tracker makes of it is what it makes of its portrait; the view stays as it
is. A command that is refused makes nothing of the portrait either. -/
def Portrays (name : String) (x : SceneM Reply)
    (f : Option (OverlayConfig × Snapshot) → Option (OverlayConfig × Snapshot)) : Prop :=
  ∀ ⦃s p⦄, s.Portrayed name p → match x s with
    | .ok (_, s') => s'.chart.view = p.view ∧ s'.Sits name (f p.tracker)
    | .error _ => f p.tracker = p.tracker

theorem changeTracker_portrays
    {work : Entrance Item Listener → Tracker → ChartM Item Listener Tracker}
    {f : Snapshot → Snapshot} (hwork : ∀ key, Depicts (work (entrance key)) f) :
    Portrays name (changeTracker name work) fun p => p.map (Prod.map id f) := by
  intro s p h
  rw [changeTracker_eq]
  obtain ⟨view, tracker⟩ := p
  cases tracker with
  | none =>
    rw [sits_none.mp h.tracker]
    rfl
  | some q =>
    obtain ⟨key, t, hfind, ha, hconfig, hdepiction⟩ := h.tracker
    obtain ⟨t', c, hw, ha', hconfig', hv, hd⟩ := hwork key (c := s.chart) ha
    simp only [hfind, hw]
    have hset := Registry.find?_set_self h.secluded.distinct (Registry.holds_of_find? hfind) t'
    exact ⟨hv.trans h.view, key, t', hset, ha', hconfig'.trans hconfig,
      hd.trans (congrArg f hdepiction)⟩

theorem exists_drop (t : Tracker) (c : Chart Item Listener) :
    ∃ t' c', t.drop c = .ok (t', c') ∧ c'.view = c.view := by
  obtain ⟨t', c', hdrop, -⟩ :=
    exists_of_unfailing t.drop_unfailing c
  exact ⟨t', c', hdrop, drop_view hdrop⟩

theorem makeTracker_portrays (symbol : String) (config : OverlayConfig) :
    Portrays name (makeTracker name symbol config) (TrackerCommand.make symbol config).portray := by
  intro s p h
  rw [makeTracker_eq]
  by_cases hb : config.isBuildable = true
  · obtain ⟨t, c, hcreate, -⟩ :=
      exists_of_unfailing (create_unfailing (entrance s.trackers.nextKey) symbol hb) s.chart
    have hview : c.view = p.view :=
      ((create_alike _ (entrance s.trackers.nextKey) symbol config).view hcreate).trans h.view
    have hsits (c' : Chart Item Listener) : Sits
        { s with chart := c', trackers := s.trackers.add name t } name
        ((TrackerCommand.make symbol config).portray p.tracker) := by
      rw [TrackerCommand.portray, if_pos hb]
      obtain ⟨rfl, -⟩ := create_eq hcreate
      exact ⟨_, _, Registry.find?_add_self h.secluded.distinct name _, initial_assembled _ _ _,
        rfl, rfl⟩
    simp only [hcreate]
    rcases s.trackers.find? name with _ | ⟨key, old⟩
    · exact ⟨hview, hsits c⟩
    · obtain ⟨t', c', hdrop, hv⟩ := exists_drop old c
      simp only [hdrop]
      exact ⟨hv.trans hview, hsits c'⟩
  · simp only [create_of_not_isBuildable _ _ (Bool.eq_false_iff.mpr hb)]
    exact if_neg hb

theorem dropTracker_portrays : Portrays name (dropTracker name) fun _ => none := by
  intro s p h
  rw [dropTracker_eq]
  rcases hfind : s.trackers.find? name with _ | ⟨key, t⟩
  · exact ⟨h.view, hfind⟩
  · obtain ⟨t', c, hdrop, hv⟩ := exists_drop t s.chart
    simp only [hdrop]
    exact ⟨hv.trans h.view, Registry.find?_drop_self _ _⟩

theorem current_portrays (f : Tracker → Reply) :
    Portrays name (runTracker.current name >>= fun t => pure (f t)) id := by
  intro s p h
  rw [bind_run, current_eq]
  rcases s.trackers.find? name with _ | ⟨key, t⟩
  · rfl
  · exact ⟨h.view, h.tracker⟩

theorem runTracker_portrays {c : TrackerCommand} (hc : c.ordinary = true) :
    Portrays name (runTracker name c) c.portray := by
  unfold runTracker
  cases c with
  | make symbol config => exact makeTracker_portrays symbol config
  | drop => exact dropTracker_portrays
  | update avgPrice size => exact changeTracker_portrays fun _ => update_depicts _ _
  | «show» => exact changeTracker_portrays fun _ => show_depicts
  | hide => exact changeTracker_portrays fun _ => hide_depicts
  | hideInfo => exact changeTracker_portrays fun _ => hideInfo_depicts
  | fill f => exact changeTracker_portrays fun _ => recordFill_depicts f
  | updateLine price size => exact nomatch hc
  | levelMarker size => exact nomatch hc
  | positionLine size level keepAs => exact nomatch hc
  | _ => exact current_portrays _

/-- A command to the tracker. -/
theorem Portrayed.runOwn (h : s.Portrayed name p) {c : TrackerCommand} (hc : c.ordinary = true) :
    (s.run (.tracker name c)).2.Portrayed name { p with tracker := c.portray p.tracker } := by
  have hs := h.secluded.run (c := .tracker name c) (TrackerCommand.tidy_of_ordinary hc)
  have hportrays : Portrays name (runWith (runScript s.depth) (.tracker name c)) c.portray :=
    runTracker_portrays hc
  have hp := hportrays h
  rcases hrun : runWith (runScript s.depth) (.tracker name c) s with e | ⟨reply, s'⟩ <;>
    rw [hrun] at hp
  · rw [run_of_error hrun, hp]
    exact h
  · rw [run_of_ok hrun] at hs ⊢
    exact ⟨hs, hp.1, hp.2⟩

/-- A command to another tracker. -/
theorem Portrayed.runOther (h : s.Portrayed name p) (hne : name ≠ other) {c : TrackerCommand}
    (hc : c.tidy = true) : (s.run (.tracker other c)).2.Portrayed name p := by
  have hs := h.secluded.run (c := .tracker other c) hc
  rcases hrun : runWith (runScript s.depth) (.tracker other c) s with e | ⟨reply, s'⟩
  · rw [run_of_error hrun]
    exact h
  · obtain ⟨hv, hf⟩ := runTracker_spares hc hne h.secluded hrun
    rw [run_of_ok hrun] at hs ⊢
    refine ⟨hs, hv.trans h.view, ?_⟩
    have ht := h.tracker
    unfold Sits at ht ⊢
    rwa [hf]

/-! ## Runs -/

/-- Each command makes of the scene what it makes of the portrait. -/
theorem Portrayed.run (h : s.Portrayed name p) (hc : c.minds name = true) :
    (s.run c).2.Portrayed name (c.portray name p) := by
  cases c with
  | tick tick =>
    obtain ⟨reply, s', hrun, ht⟩ := h.secluded.peopled.runTick (runScript s.depth) hc
    have hok : runWith (runScript s.depth) (.tick tick) s = .ok (reply, s') := hrun
    rw [run_of_ok hok]
    exact h.ticked ht
  | hold holdings tick =>
    obtain ⟨reply, s', hrun, ht⟩ := h.secluded.peopled.runHold (runScript s.depth) holdings hc
    rw [run_of_ok hrun]
    exact h.ticked ht
  | tracker other c =>
    simp only [Command.minds] at hc
    simp only [Command.portray]
    split_ifs at hc ⊢ with hname
    · subst hname
      exact h.runOwn hc
    · exact h.runOther (Ne.symm hname) hc
  | _ => exact nomatch hc

theorem Portrayed.runAll (h : s.Portrayed name p) {cs : List Command}
    (hcs : ∀ c ∈ cs, c.minds name = true) :
    (s.runAll cs).Portrayed name (cs.foldl (fun p c => c.portray name p) p) := by
  induction cs generalizing s p with
  | nil => exact h
  | cons c cs ih =>
    obtain ⟨hc, hcs⟩ := List.forall_mem_cons.mp hcs
    exact ih (h.run hc) hcs

/-- The same run with nothing held leads to the same portrait. -/
theorem Portrayed.runAll_unheld (h : s.Portrayed name p) {cs : List Command}
    (hcs : ∀ c ∈ cs, c.minds name = true) :
    (s.runAll (cs.map Command.unheld)).Portrayed name
      (cs.foldl (fun p c => c.portray name p) p) := by
  have hunheld : ∀ c ∈ cs.map Command.unheld, c.minds name = true := by
    refine List.forall_mem_map.mpr fun c hc => ?_
    exact (c.minds_unheld name).trans (hcs c hc)
  have hrun := h.runAll hunheld
  simp only [List.foldl_map, Command.portray_unheld] at hrun
  exact hrun

theorem portrayed_empty (view : View) (name : String) :
    (empty view).Portrayed name ⟨view, none⟩ where
  secluded := tidy_empty view
  view := rfl
  tracker := Registry.find?_empty name

/-- Whatever was held during ticks, the next tick with nothing held that reaches the marker of a
tracker leaves it as if nothing had ever been held. -/
theorem runAll_heals (view : View) (name : String) {cs : List Command}
    (hcs : ∀ c ∈ cs, c.minds name = true) {shot : Snapshot}
    (hshot : ((empty view).runAll cs).snapshot? name = some shot) {tick : Tick}
    (ht : tick.settles shot = true) :
    ∃ healed, (((empty view).runAll cs).run (.tick tick)).2.snapshot? name = some healed ∧
      (((empty view).runAll (cs.map Command.unheld)).run (.tick tick)).2.snapshot? name =
        some healed := by
  have hheld := (portrayed_empty view name).runAll hcs
  have hfree := (portrayed_empty view name).runAll_unheld hcs
  generalize cs.foldl (fun p c => c.portray name p) ⟨view, none⟩ = p at hheld hfree
  obtain ⟨v, tracker⟩ := p
  cases tracker with
  | none =>
    rw [snapshot?, sits_none.mp hheld.tracker] at hshot
    cases hshot
  | some q =>
    obtain ⟨key, t, hfind, -, -, hdepiction⟩ := hheld.tracker
    rw [snapshot?, hfind, Option.map_some] at hshot
    have hsettles : tick.settles q.2 = true := by
      rw [← hdepiction, depiction, Option.some.inj hshot]
      cases tick <;> exact ht
    exact ⟨_, hheld.settled hsettles, hfree.settled hsettles⟩

/-- A marker that is held while the view changes, and a label that is held during a paint cycle. -/
theorem runAll_heals_moved :
    let cs : List Command := [.tracker "A" (.make "BTC" .standard),
      .tracker "B" (.make "ETH" .standard), .tracker "A" (.update 50.0 2.0),
      .hold ⟨[], [], ["A"], ["A"], []⟩ (.range 0.0 200.0), .tracker "A" .hideInfo,
      .hold ⟨[], [], ["B"], [], ["A"]⟩ (.height 300.0)]
    let held := (empty .standard).runAll cs
    let free := (empty .standard).runAll (cs.map Command.unheld)
    (∀ c ∈ cs, c.minds "A" = true) ∧
      (held.snapshot? "A").map (fun s => s.sizePos.y.toBits) ≠
        (free.snapshot? "A").map (fun s => s.sizePos.y.toBits) ∧
      ∃ shot healed, held.snapshot? "A" = some shot ∧ Tick.paint.settles shot = true ∧
        (held.run (.tick .paint)).2.snapshot? "A" = some healed ∧
        (free.run (.tick .paint)).2.snapshot? "A" = some healed := by
  intro cs held free
  have hall : cs.all (Command.minds "A") = true := rfl
  have hcs := List.all_eq_true.mp hall
  have hreach : (held.snapshot? "A").any (Tick.paint.settles ·) = true := by decide +kernel
  obtain ⟨shot, hshot, ht⟩ := (Option.any_eq_true _ _).mp hreach
  obtain ⟨healed, hheld, hfree⟩ := runAll_heals .standard "A" hcs hshot ht
  exact ⟨hcs, by decide +kernel, shot, healed, hshot, ht, hheld, hfree⟩

end Scene

end PositionOverlay
