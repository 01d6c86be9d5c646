import PositionOverlay.Proofs.Marker.Mirror
import PositionOverlay.Proofs.Session.Acts
import PositionOverlay.Proofs.Tracker.Likeness

/-! # Markers that are built anew

A tracker that has followed nothing but reports says the same of its position everywhere, and its
marker has the color of the line. If the marker of such a tracker is shown beside a line and is
built anew for the size of the position, then the new one is like the old one in everything but its
place, and the next paint cycle makes up for that.
-/
namespace PositionOverlay

open Work

variable {Item Listener : Type}

namespace Marker

theorem make_some {Link : Type} (a : Arrow) (size : Float) (keep : Bool) :
    (make (some a) size keep : Except Fault (Marker Link)) =
      if (a.glyph size).isEmpty then .error .emptyGlyph else .ok ((blank size keep).redraw a) := by
  have he : (blank size keep : Marker Link).setArrow a = (blank size keep).redraw a :=
    setArrow_eq_redraw nofun
  have hbox : ((blank size keep : Marker Link).redraw a).box = some (a.glyph size) := rfl
  simp only [make, he, hbox, Option.any_some]
  cases (a.glyph size).isEmpty <;> rfl

end Marker

namespace Tracker

variable {own : Entrance Item Listener} {t t' : Tracker} {symbol : String} {config : OverlayConfig}
  {size : Float} {a : Arrow} {l : Line} {c c' : Chart Item Listener}

/-- If an upward marker can be built, then one for any size. -/
theorem exists_buildMarker (hconfig : config.isBuildable = true) (own : Entrance Item Listener)
    (build : Nat) (size : Float) (c : Chart Item Listener) :
    ∃ m c', buildMarker own config build size c = .ok (m, c') := by
  have hmake : ∃ m, (Marker.make (Arrow.ofSize? size) config.arrowSize config.keepInView :
      Except Fault (Marker Role)) = .ok m := by
    cases Arrow.ofSize? size with
    | none => exact ⟨_, rfl⟩
    | some a =>
      obtain ⟨m, hm⟩ := make_of_isBuildable hconfig
      rw [Marker.make_some] at hm
      rw [Marker.make_some, a.isEmpty_glyph]
      split_ifs at hm ⊢
      exact ⟨_, rfl⟩
  obtain ⟨m, hm⟩ := hmake
  exact ⟨_, _, bind_of_ok (lift_of_ok hm c) _⟩

/-- The tracker with a new marker for a line of some color. -/
def rebuilt (t : Tracker) (a : Arrow) (color : String) (item subscription : Nat) : Tracker :=
  let blank : Marker Role := .blank t.config.arrowSize t.config.keepInView
  { t with
    marker := { blank.redraw a with
      level := t.info.avgPrice
      visible := true
      pen := some color
      brush := some color
      links := [.pp, .size]
      item := some item
      subscription := some subscription }
    build := t.build + 1 }

theorem Rigged.levelMarker_eq (h : t.Rigged symbol config) (hconfig : config.isBuildable = true)
    (hl : t.line = some l) (ha : Arrow.ofSize? size = some a) (own : Entrance Item Listener)
    (c : Chart Item Listener) : ∃ item subscription c',
      t.levelMarker own size c = .ok (t.rebuilt a l.color item subscription, c') := by
  obtain ⟨c₁, hwithdraw, -⟩ := t.marker.withdraw_eq c
  have hdelete : t.deleteMarker c = .ok ({ t with marker := t.marker.delete }, c₁) :=
    bind_of_ok hwithdraw _
  obtain ⟨m, c₂, hm⟩ := exists_buildMarker hconfig own (t.build + 1) size c₁
  obtain ⟨rfl, -⟩ := buildMarker_eq_ok hm
  simp only [← h.config, ha, Option.elim_some, Option.isSome_some] at hm
  have hpin : t.ppLabel.setAnchor .besideMarker = t.ppLabel := by
    rw [Label.setAnchor, ← h.upright.ppAnchor]
    rfl
  have hfollows : t.sizeLabel.follows = true := h.follows
  let d := t.rebuilt a l.color c₁.nextId 0
  obtain ⟨n, c', hconnect, -, -⟩ :=
    connect_spec own { d with marker.subscription := none } c₂
  refine ⟨c₁.nextId, n, c', (bind_of_ok hdelete _).trans ((bind_of_ok hm _).trans ?_)⟩
  simp only [d, Tracker.rebuilt, hl] at hconnect
  simp only [pinLabels, hpin, hfollows, if_true, Tracker.rebuilt, hl]
  exact hconnect

theorem Assembled.rebuilt (h : t.Assembled) (a : Arrow) (color : String) (item subscription : Nat) :
    (t.rebuilt a color item subscription).Assembled :=
  { h with
    drawn := ⟨a, { Marker.redraw_drawn (.blank t.config.arrowSize t.config.keepInView) a with }⟩
    size := rfl
    keepInView := rfl
    links := rfl
    live := rfl
    markerFree := rfl }

/-! ## Trackers that have followed reports -/

/-- The marker has the color of the line. -/
def Colored (t : Tracker) : Prop :=
  ∀ l, t.line = some l → t.marker.pen = some l.color ∧ t.marker.brush = some l.color

namespace Colored

theorem moved (h : t.Colored) (hm : t.Moved t') : t'.Colored := by
  obtain ⟨_, _, _, _, rfl⟩ := hm
  exact h

theorem exposed (h : t.Colored) (visible : Bool) : (t.exposed visible).Colored := by
  intro l hl
  obtain ⟨l', hl', rfl⟩ := Option.map_eq_some_iff.mp hl
  exact h l' hl'

theorem paint (h : t.Colored) : Yields Colored (t.paint : ChartM Item Listener Tracker) := by
  intro c t' c' hrun
  rw [(paint_eq_ok hrun).1]
  exact h.moved (t.placed_moved c.view)

theorem setArrow? (h : t.Colored) (o : Option Arrow) :
    Colored { t with marker := t.marker.setArrow? o } := by
  have hm : (t.marker.setArrow? o).pen = t.marker.pen ∧
      (t.marker.setArrow? o).brush = t.marker.brush := by
    cases o with
    | none => exact ⟨rfl, rfl⟩
    | some a =>
      rw [Marker.setArrow?, Marker.setArrow]
      split_ifs <;> exact ⟨rfl, rfl⟩
  intro l hl
  rw [hm.1, hm.2]
  exact h l hl

end Colored

theorem lift_setLevel_color (l : Line) (level : Float) :
    Yields (fun l' => l'.color = l.color)
      (liftM (l.setLevel level) : ChartM Item Listener Line) := by
  refine .lift fun l' hl' => ?_
  unfold Line.setLevel at hl'
  split_ifs at hl'
  rw [← Except.ok.inj hl']

theorem lift_lineShow_color (l : Line) :
    Yields (fun l' => l'.color = l.color) (liftM l.show : ChartM Item Listener Line) := by
  refine .lift fun l' hl' => ?_
  unfold Line.show at hl'
  split_ifs at hl'
  rw [← Except.ok.inj hl']

/-- The marker takes the color of a new line. -/
theorem positionLine_colored (own : Entrance Item Listener) (t : Tracker) (size level : Float) :
    Yields (fun r => Colored { r.2 with line := some r.1 }) (t.positionLine own size level) := by
  refine .after fun line => ?_
  refine .bind (P := fun t' : Tracker => Colored { t' with line := some line }) ?_ fun t₁ h₁ => ?_
  · intro c t' c' hrun
    obtain ⟨_, _, _, _, hm⟩ := placed_moved _ c.view
    rw [(paint_eq_ok hrun).1, hm]
    rintro _ ⟨⟩
    exact ⟨rfl, rfl⟩
  · refine .bind (connect_yields own _) fun t₂ h₂ => ?_
    obtain ⟨n, rfl⟩ := h₂
    refine .bind (lift_setLevel_color line level) fun line' hline' => .pure ?_
    rintro _ ⟨⟩
    rw [hline']
    exact h₁ line rfl

theorem Colored.updateLine (h : t.Colored) (own : Entrance Item Listener) (price size : Float) :
    Yields Colored (t.updateLine own price size) := by
  unfold Tracker.updateLine
  split
  · refine .bind (positionLine_colored own t size price) fun r hr => ?_
    refine .bind (lift_lineShow_color r.1) fun line hline => .after fun _ => .pure ?_
    rintro _ ⟨⟩
    rw [hline]
    exact hr r.1 rfl
  · rename_i line hline _
    refine .bind (lift_setLevel_color line price) fun line₁ h₁ => ?_
    refine .bind (lift_lineShow_color line₁) fun line₂ h₂ => ?_
    refine .bind (Colored.paint ?_) fun t' ht' => .after fun _ => .pure ht'
    rintro _ ⟨⟩
    rw [h₂, h₁]
    exact h.setArrow? _ line hline
  · exact .after fun _ => .after fun _ => .pure nofun
  · exact .pure h

theorem Colored.shown (h : t.Colored) (hshow : t.show = .ok t') : t'.Colored := by
  unfold Tracker.show at hshow
  split_ifs at hshow
  · rwa [← Except.ok.inj hshow]
  · obtain ⟨line, hline, hshow⟩ := except_bind_eq_ok.mp hshow
    rw [← Except.ok.inj hshow]
    rintro l rfl
    rcases hl : t.line with _ | l₀ <;> rw [hl] at hline
    · exact nomatch Except.ok.inj hline
    · rw [Option.mapM_some] at hline
      obtain ⟨l₁, hl₁, hline⟩ := except_bind_eq_ok.mp hline
      obtain rfl := Option.some.inj (Except.ok.inj hline)
      have hcolor : l₁.color = l₀.color := by
        unfold Line.show at hl₁
        split_ifs at hl₁
        rw [← Except.ok.inj hl₁]
      rw [hcolor]
      exact h l₀ hl

theorem Colored.update (h : t.Colored) (own : Entrance Item Listener) (u : PositionUpdate) :
    Yields Colored (t.update own u) := by
  refine .bind (Colored.updateLine (t := { t with info := t.info.apply u }) h own _ _)
    fun t₁ h₁ => ?_
  have hw : (t₁.writeSize u.size).Colored := h₁
  dsimp only
  split_ifs
  · exact .pure (hw.exposed false)
  · refine .bind (Colored.paint (t := { t₁.writeSize u.size with marker.level := u.avgPrice }) hw)
      fun t₂ h₂ => .lift fun t₃ hshow => Colored.shown h₂ hshow

/-- All parts of the tracker say the same of its position, and the marker can be built anew. -/
structure Faithful (t : Tracker) : Prop where
  rigged : ∃ symbol config, t.Rigged symbol config ∧ config.isBuildable = true
  consistent : t.Consistent
  colored : t.Colored

namespace Faithful

theorem assembled (h : t.Faithful) : t.Assembled := by
  obtain ⟨symbol, config, hr, -⟩ := h.rigged
  obtain ⟨a, ha⟩ := Option.isSome_iff_exists.mp h.consistent.drawn.1
  exact hr.assembled_of_arrow ha

theorem of_create {symbol : String} (hcreate : create own symbol config c = .ok (t, c')) :
    t.Faithful := by
  have hconfig : config.isBuildable = true := by
    by_contra hb
    rw [create_of_not_isBuildable own symbol (Bool.eq_false_iff.mpr hb)] at hcreate
    exact nomatch hcreate
  have hr := (rigged_of_create hcreate).1
  obtain ⟨rfl, -⟩ := create_eq hcreate
  exact ⟨⟨symbol, config, hr, hconfig⟩, initial_consistent symbol config _, nofun⟩

theorem drifts (h : t.Faithful) (hd : t.Drifts t') : t'.Faithful := by
  obtain ⟨symbol, config, hr, hconfig⟩ := h.rigged
  have hc : t'.Consistent := by
    obtain ⟨hl, hlevel, harrow, hdrawn, htext⟩ := h.consistent
    obtain ⟨_, _, _, _, rfl⟩ := hd.moved
    exact ⟨hl, hlevel, harrow, hdrawn, htext⟩
  exact ⟨⟨symbol, config, hr.drifts hd, hconfig⟩, hc, h.colored.moved hd.moved⟩

theorem exposed (h : t.Faithful) (visible : Bool) : (t.exposed visible).Faithful := by
  obtain ⟨symbol, config, hr, hconfig⟩ := h.rigged
  exact ⟨⟨symbol, config, hr.exposed visible, hconfig⟩, h.consistent.exposed visible,
    h.colored.exposed visible⟩

theorem shown (h : t.Faithful) (hshow : t.show = .ok t') : t'.Faithful := by
  rw [h.assembled.show_eq] at hshow
  rw [← Except.ok.inj hshow]
  split_ifs
  · exact h
  · exact h.exposed true

theorem hideInfo (h : t.Faithful) : t.hideInfo.Faithful := by
  obtain ⟨symbol, config, hr, hconfig⟩ := h.rigged
  exact ⟨⟨symbol, config, { hr with upright := { hr.upright with } }, hconfig⟩,
    { h.consistent with }, h.colored⟩

theorem record (h : t.Faithful) (f : Fill) : Faithful { t with info := t.info.record f } := by
  obtain ⟨symbol, config, hr, hconfig⟩ := h.rigged
  exact ⟨⟨symbol, config, hr.inform _ hr.symbol, hconfig⟩, { h.consistent with }, h.colored⟩

theorem update (h : t.Faithful) {u : PositionUpdate} (hu : t.update own u c = .ok (t', c')) :
    t'.Faithful := by
  obtain ⟨symbol, config, hr, hconfig⟩ := h.rigged
  refine ⟨⟨symbol, config, hr.update hu, hconfig⟩, ?_, h.colored.update own u hu⟩
  by_cases ho : (u.size != 0.0) = true
  · obtain ⟨l, trim, c₁, he, hlevel, hd, -⟩ := h.assembled.update_open own ho c
    obtain ⟨rfl, -⟩ := Prod.mk.inj (Except.ok.inj (hu.symm.trans he))
    exact (h.assembled.reported_consistent ho hlevel hd trim).standAt _
  · have hz : (u.size != 0.0) = false := Bool.eq_false_iff.mpr ho
    obtain ⟨c₁, he, -⟩ := t.update_flat_eq own hz c
    obtain ⟨rfl, -⟩ := Prod.mk.inj (Except.ok.inj (hu.symm.trans he))
    exact h.assembled.emptied_consistent hz

/-! ## Old and new markers -/

/-- A new marker is like the old one in all but its place. -/
theorem bare_rebuilt (h : t.Faithful) (hv : t.marker.visible = true) (hl : t.line = some l)
    (ha : Arrow.ofSize? t.info.size = some a) (hs : t.marker.subscription.isSome = true)
    (item subscription : Nat) : t.bare.Moved (t.rebuilt a l.color item subscription).bare := by
  have hm : ∃ placement, (t.rebuilt a l.color item subscription).marker.bare =
      { t.marker.bare with pos := .origin, placement } := by
    have hassembled := h.assembled
    have harrow := h.consistent.arrow (by rw [hl]; rfl) a ha
    obtain ⟨b, hb⟩ := hassembled.drawn
    obtain rfl : b = a := Option.some.inj (hb.arrow.symm.trans harrow)
    obtain ⟨n, hn⟩ := Option.isSome_iff_exists.mp hs
    have hlevel := (h.consistent.level l hl).2
    obtain ⟨hpen, hbrush⟩ := h.colored l hl
    simp only [rebuilt, Marker.bare, Marker.redraw, Marker.blank, hb.arrow, hb.path, hb.box,
      hassembled.size, hassembled.keepInView, hassembled.links, hassembled.live,
      hassembled.markerFree, hv, hlevel, hpen, hbrush, hn]
    exact ⟨_, rfl⟩
  obtain ⟨placement, hm⟩ := hm
  refine ⟨.origin, placement, t.ppLabel.pos, t.sizeLabel.pos, ?_⟩
  change { t.bare with marker := (t.rebuilt a l.color item subscription).marker.bare } = _
  rw [hm]
  rfl

/-- A paint cycle makes up for the place. -/
theorem repainted_rebuilt (h : t.Faithful) (hv : t.marker.visible = true) (hl : t.line = some l)
    (ha : Arrow.ofSize? t.info.size = some a) (hs : t.marker.subscription.isSome = true)
    (item subscription : Nat) (v : View) :
    ((t.rebuilt a l.color item subscription).repainted v).bare = (t.repainted v).bare := by
  have hstand {d : Tracker} (hd : d.Assembled) (hv : d.marker.visible = true) :
      (d.repainted v).bare = d.bare.standAt (d.bare.post d.bare.config.keepInView v) := by
    rw [hd.repainted_eq, onPaint, if_pos hv, post_bare]
    rfl
  rw [hstand (h.assembled.rebuilt a l.color item subscription) rfl, hstand h.assembled hv]
  obtain ⟨_, _, _, _, hm⟩ := h.bare_rebuilt hv hl ha hs item subscription
  rw [hm]
  rfl

end Faithful

end Tracker

end PositionOverlay
