import PositionOverlay.Proofs.Tracker.Display
import PositionOverlay.Proofs.Tracker.Rigging

/-! # What a report leaves behind

A tracker reflects a report of an open position in a view if line, marker and size are those of the
report and nothing is left to be done: the size is written, the marker and its labels are in place,
and everything is shown. A report leaves every rigged tracker so. The same report once more finds
all of it done, and changes neither the tracker nor the chart. A report of a flat position that
comes twice finds no line the second time.
-/
namespace PositionOverlay.Tracker

open Work Line

variable {Item Listener : Type} {own : Entrance Item Listener} {t t' : Tracker} {symbol : String}
  {config : OverlayConfig} {u : PositionUpdate} {v : View} {price size : Float}

/-- Line and marker are those of an open position. -/
structure Marks (t : Tracker) (price size : Float) : Prop where
  line : ∃ l, t.line = some l ∧ l.level = price
  level : t.marker.level = price
  arrow : ∀ a, Arrow.ofSize? size = some a → t.marker.arrow = some a

/-- The tracker is as a report of an open position leaves it in a view. -/
structure Reflects (t : Tracker) (u : PositionUpdate) (v : View) : Prop extends
    Marks t u.avgPrice u.size where
  info : t.info.apply u = t.info
  written : t.writeSize u.size = t
  placed : t.placed v = t
  shown : t.exposed true = t

/-! ## Parts of a report -/

/-- A marker that has the direction of a size keeps its glyph. -/
theorem aimed_eq (h : ∀ a, Arrow.ofSize? size = some a → t.marker.arrow = some a) :
    t.aimed size = t := by
  unfold aimed
  cases ha : Arrow.ofSize? size with
  | none => rfl
  | some a => rw [Marker.setArrow?, Marker.setArrow, if_pos (h a ha)]

theorem Marks.moved (h : t.Marks price size) (hm : t.Moved t') : t'.Marks price size := by
  obtain ⟨_, _, _, _, rfl⟩ := hm
  exact { h with }

theorem Marks.writeSize (h : t.Marks price size) (x : Float) :
    (t.writeSize x).Marks price size := { h with }

theorem Marks.exposed (h : t.Marks price size) (visible : Bool) :
    (t.exposed visible).Marks price size := by
  obtain ⟨l, hl, hlevel⟩ := h.line
  exact { h with line := ⟨{ l with visible }, by simp [Tracker.exposed, hl], hlevel⟩ }

theorem Rigged.placed_placed (h : t.Rigged symbol config) (v : View) :
    (t.placed v).placed v = t.placed v := by
  rcases h.assembled_or_idle with ha | hidle
  · rw [ha.placed_eq, (ha.standAt _).placed_eq, ha.standAt_standAt]
    rfl
  · simp [Tracker.placed, hidle]

theorem Rigged.placed_exposed (h : t.Rigged symbol config) (visible : Bool) (v : View) :
    (t.exposed visible).placed v = (t.placed v).exposed visible := by
  rcases h.assembled_or_idle with ha | hidle
  · have hlevel : (t.exposed visible).level = t.level := by
      simp only [level, Tracker.exposed]
      cases t.line <;> rfl
    rw [ha.placed_eq, (ha.exposed visible).placed_eq, post, hlevel]
    rfl
  · have hidle' : (t.exposed visible).marker.isLive = false := hidle
    simp [Tracker.placed, hidle, hidle']

theorem exposed_exposed (t : Tracker) (visible visible' : Bool) :
    (t.exposed visible).exposed visible' = t.exposed visible' := by
  unfold Tracker.exposed
  cases t.line <;> rfl

theorem Rigged.writeSize_exposed (h : t.Rigged symbol config) (visible : Bool) (size : Float) :
    (t.exposed visible).writeSize size = (t.writeSize size).exposed visible := by
  rw [(h.exposed visible).writeSize_eq, h.writeSize_eq]
  rfl

/-- Once the size has been written, painting leaves it where it is to stand. -/
theorem Rigged.written_placed (h : t.Rigged symbol config) (size : Float) (v : View) :
    ((t.writeSize size).placed v).writeSize size = (t.writeSize size).placed v := by
  have hw := h.writeSize size
  rw [(hw.placed v).writeSize_eq]
  rcases hw.assembled_or_idle with ha | hidle
  · rw [ha.placed_eq, h.writeSize_eq]
    rfl
  · have hstill : (t.writeSize size).placed v = t.writeSize size := by
      simp [Tracker.placed, hidle]
    rw [hstill, h.writeSize_eq]
    rfl

/-! ## Reports of open positions -/

/-- The line and the marker for a price, whatever they were before. -/
theorem Rigged.updateLine_marks (h : t.Rigged symbol config) (own : Entrance Item Listener)
    (price : Float) (ho : (size != 0.0) = true) (c : Chart Item Listener) :
    ∃ t' c', t.updateLine own price size c = .ok (t', c') ∧ t'.Rigged symbol config ∧
      t'.Marks price size ∧ t'.info = t.info ∧ c'.view = c.view := by
  obtain ⟨l, trim, trim', c', hu, hlevel, -, -, hview⟩ :=
    t.updateLine_open h.lineLive own price ho c
  obtain ⟨pos, placement, pp, size', hm⟩ :=
    placed_moved ((t.aimed size).trimmed (t.line.map fun _ => l) price trim) c.view
  rw [hm] at hu
  exact ⟨_, c', hu, h.updateLine hu, ⟨⟨l, rfl, hlevel⟩, rfl, fun a ha => h.aimed_arrow ha⟩, rfl,
    hview⟩

/-- Behind the line everything is written, placed and shown. -/
theorem Rigged.update_reflects (h : t.Rigged symbol config) (own : Entrance Item Listener)
    (ho : (u.size != 0.0) = true) (c : Chart Item Listener) :
    ∃ t' c', t.update own u c = .ok (t', c') ∧ t'.Rigged symbol config ∧ t'.Reflects u c.view ∧
      t'.info = t.info.apply u ∧ c'.view = c.view := by
  obtain ⟨t₁, c₁, hu, hr, hmarks, hinfo, hview⟩ :=
    (h.inform (t.info.apply u) h.symbol).updateLine_marks own u.avgPrice ho c
  let w := t₁.writeSize u.size
  have hw : w.Rigged symbol config := hr.writeSize u.size
  have hp : (w.placed c.view).Rigged symbol config := hw.placed c.view
  have hpinfo : (w.placed c.view).info = t.info.apply u := (w.placed_moved c.view).info.trans hinfo
  have hmarks' : (w.placed c.view).Marks u.avgPrice u.size :=
    (hmarks.writeSize u.size).moved (w.placed_moved c.view)
  have hflat : ¬ (u.size == 0.0) = true := by simpa [bne] using ho
  have hopen : ¬ (w.placed c.view).info.isFlat = true := by
    rw [hpinfo]
    exact hflat
  have hlevel : ({ w with marker.level := u.avgPrice } : Tracker) = w := by
    rw [← hmarks.level]
    rfl
  obtain ⟨c₂, hpaint, hc₂⟩ := w.paint_eq c₁
  have hshow := show_of_lineLive hp.lineLive
  rw [if_neg hopen] at hshow
  refine ⟨(w.placed c.view).exposed true, c₂, ?_, hp.exposed true, ?_, hpinfo,
    hc₂.view.trans hview⟩
  · rw [Tracker.update]
    refine (bind_of_ok hu _).trans ?_
    change (if u.size == 0.0 then pure w.hide
      else { w with marker.level := u.avgPrice }.paint >>=
        fun t => liftM t.show : ChartM Item Listener Tracker) c₁ = _
    rw [if_neg hflat, hlevel]
    refine (bind_of_ok hpaint _).trans ?_
    rw [hview]
    exact lift_of_ok hshow c₂
  · refine ⟨hmarks'.exposed true, ?_, ?_, ?_, ?_⟩
    · change (w.placed c.view).info.apply u = (w.placed c.view).info
      rw [hpinfo]
      rfl
    · rw [hp.writeSize_exposed, hr.written_placed]
    · rw [hp.placed_exposed, hw.placed_placed]
    · rw [exposed_exposed]

/-- The same report finds nothing to do, and the chart takes no more than notes. -/
theorem Reflects.update (h : t.Reflects u v) (hr : t.Rigged symbol config)
    (ho : (u.size != 0.0) = true) (own : Entrance Item Listener) {c : Chart Item Listener}
    (hview : c.view = v) : ∃ c', t.update own u c = .ok (t, c') ∧ c.Noted c' := by
  subst hview
  have hflat : ¬ (u.size == 0.0) = true := by simpa [bne] using ho
  have hopen : ¬ t.info.isFlat = true := by
    rw [← h.info]
    exact hflat
  obtain ⟨l, hl, hlevel⟩ := h.line
  have hlevel' : ({ t with marker.level := u.avgPrice } : Tracker) = t := by rw [← h.level]
  have haimed : ((t.aimed u.size).trimmed (some { l with level := u.avgPrice, visible := true })
      u.avgPrice (t.aimed u.size).trim) = t := by
    have hline : some { l with level := u.avgPrice, visible := true } = t.line := by
      have hshown := congrArg Tracker.line h.shown
      rw [Tracker.exposed, hl, Option.map_some] at hshown
      rw [hl, ← hshown, ← hlevel]
    rw [hline, aimed_eq h.arrow]
    exact hlevel'
  obtain ⟨c₁, hu, hc₁⟩ :=
    t.updateLine_move hl (hr.lineLive l hl) own u.avgPrice ho c
  rw [haimed, h.placed] at hu
  obtain ⟨c₂, hpaint, hc₂⟩ := t.paint_eq c₁
  rw [hc₁.view, h.placed] at hpaint
  have hshow := show_of_lineLive hr.lineLive
  rw [if_neg hopen, h.shown] at hshow
  refine ⟨c₂, ?_, hc₁.trans hc₂⟩
  rw [Tracker.update, h.info]
  refine (bind_of_ok hu _).trans ?_
  change (if u.size == 0.0 then pure (t.writeSize u.size).hide
    else { t.writeSize u.size with marker.level := u.avgPrice }.paint >>=
      fun t => liftM t.show : ChartM Item Listener Tracker) c₁ = _
  rw [if_neg hflat, h.written, hlevel']
  refine (bind_of_ok hpaint _).trans ?_
  exact lift_of_ok hshow c₂

/-- What can be seen of a tracker that reflects a report. -/
theorem Reflects.snapshot (h : t.Reflects u v) (hr : t.Rigged symbol config)
    (ho : (u.size != 0.0) = true) {a : Arrow} (ha : Arrow.ofSize? u.size = some a) :
    t.snapshot = .ofOpen config v symbol u.size u.avgPrice t.info.fills.size a := by
  have hassembled := hr.assembled_of_arrow (h.arrow a ha)
  obtain ⟨l, hl, hlevel⟩ := h.line
  have hsize : t.info.size = u.size := by
    rw [← h.info]
    rfl
  have hprice : t.info.avgPrice = u.avgPrice := by
    rw [← h.info]
    rfl
  have hconsistent : t.Consistent := by
    refine ⟨?_, ?_, ?_, hassembled.isDrawn, ?_⟩
    · rw [hl, hsize, ho]
      rfl
    · intro l' hl'
      obtain rfl := Option.some.inj (hl.symm.trans hl')
      rw [hprice]
      exact ⟨hlevel, h.level⟩
    · rw [hsize]
      exact fun _ => h.arrow
    · rw [hsize, ← h.written, hr.writeSize_eq]
      rfl
  have hdisplayed : t.Displayed := h.shown ▸ t.exposed_displayed
  have hsnapshot := snapshot_standAt hassembled hconsistent hdisplayed (hsize.symm ▸ ho)
    (hsize.symm ▸ ha) v
  rw [← hassembled.placed_eq, h.placed, hr.config, hr.symbol, hsize, hprice] at hsnapshot
  exact hsnapshot

/-! ## Reports of flat positions -/

theorem Rigged.emptied (h : t.Rigged symbol config) (u : PositionUpdate) :
    (t.emptied u).Rigged symbol config :=
  (h.inform (t.info.apply u) h.symbol).unlined

/-- What a report of a flat position leaves behind is what it would leave once more. -/
theorem Rigged.emptied_emptied (h : t.Rigged symbol config) (u : PositionUpdate) :
    ((((t.emptied u).writeSize u.size).hide.emptied u).writeSize u.size).hide =
      ((t.emptied u).writeSize u.size).hide := by
  have he := h.emptied u
  have hflat : (((t.emptied u).writeSize u.size).hide.emptied u).Rigged symbol config :=
    ((he.writeSize u.size).exposed false).emptied u
  rw [hflat.writeSize_eq, he.writeSize_eq]
  rfl

/-- Whatever is reported, the same report once more changes neither the tracker nor the chart. -/
theorem Rigged.update_twice (h : t.Rigged symbol config) (own : Entrance Item Listener)
    (u : PositionUpdate) (c : Chart Item Listener) :
    ∃ t' c' c'', t.update own u c = .ok (t', c') ∧ t'.update own u c' = .ok (t', c'') ∧
      c'.Noted c'' := by
  by_cases ho : (u.size != 0.0) = true
  · obtain ⟨t', c', hu, hr, hreflects, -, hview⟩ := h.update_reflects own ho c
    obtain ⟨c'', hu', hc⟩ := hreflects.update hr ho own hview
    exact ⟨t', c', c'', hu, hu', hc⟩
  · have hz : (u.size != 0.0) = false := by simpa using ho
    obtain ⟨c', hu, -, -⟩ := t.update_flat_eq own hz c
    obtain ⟨c'', hu', -, hc⟩ := update_flat_eq ((t.emptied u).writeSize u.size).hide own hz c'
    rw [h.emptied_emptied, hc rfl] at hu'
    exact ⟨_, c', c', hu, hu', .refl c'⟩

theorem Rigged.update (h : t.Rigged symbol config) {c c' : Chart Item Listener}
    (hu : t.update own u c = .ok (t', c')) : t'.Rigged symbol config := by
  by_cases ho : (u.size != 0.0) = true
  · obtain ⟨t₁, c₁, he, hr, -⟩ := h.update_reflects own ho c
    obtain ⟨rfl, -⟩ := Prod.mk.inj (Except.ok.inj (hu.symm.trans he))
    exact hr
  · obtain ⟨c₁, he, -⟩ := t.update_flat_eq own (by simpa using ho) c
    obtain ⟨rfl, -⟩ := Prod.mk.inj (Except.ok.inj (hu.symm.trans he))
    exact ((h.emptied u).writeSize u.size).exposed false

end PositionOverlay.Tracker
