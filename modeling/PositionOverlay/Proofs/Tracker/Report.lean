import PositionOverlay.Proofs.Tracker.Assembly

/-! # Reports on a tracker

What a report of the broker does to an assembled tracker. A report of an open position leaves a
shown line at the reported price and everything else in its place beside it, whatever the tracker
was before; a report of a flat position takes the line away and hides the rest. Neither faults, and
on the chart a report does no more than to add a listener.
-/
namespace PositionOverlay

variable {Item Listener : Type}

/-- What the chart of a tracker goes through while the tracker follows reports. -/
structure Chart.Grows (c c' : Chart Item Listener) : Prop where
  view : c'.view = c.view
  items : c'.items = c.items
  cancelled : c'.cancelled = c.cancelled
  listeners : c.listeners <+: c'.listeners
  nextId : c.nextId ≤ c'.nextId

namespace Chart.Grows

variable {c c' c'' : Chart Item Listener}

theorem refl (c : Chart Item Listener) : c.Grows c :=
  ⟨rfl, rfl, rfl, List.prefix_rfl, Nat.le_refl _⟩

theorem trans (h : c.Grows c') (h' : c'.Grows c'') : c.Grows c'' where
  view := h'.view.trans h.view
  items := h'.items.trans h.items
  cancelled := h'.cancelled.trans h.cancelled
  listeners := h.listeners.trans h'.listeners
  nextId := Nat.le_trans h.nextId h'.nextId

theorem note (c : Chart Item Listener) (source : Source) (severity : Severity) (text : String) :
    c.Grows (c.note source severity text) := ⟨rfl, rfl, rfl, List.prefix_rfl, Nat.le_refl _⟩

theorem deleteLine (c : Chart Item Listener) (l : Line) : c.Grows (c.deleteLine l).2 := by
  unfold Chart.deleteLine
  split_ifs
  · exact refl c
  · exact ⟨rfl, rfl, rfl, List.prefix_rfl, Nat.le_refl _⟩

theorem makeLine (c : Chart Item Listener) (level : Float) (color : String)
    (options : LineOptions) : c.Grows (c.makeLine level color options).2 :=
  ⟨rfl, rfl, rfl, List.prefix_rfl, Nat.le_succ _⟩

theorem subscribe (c : Chart Item Listener) (l : Listener) : c.Grows (c.subscribe l).2 :=
  ⟨rfl, rfl, rfl, List.prefix_append _ _, Nat.le_succ _⟩

end Chart.Grows

namespace Line

theorem show_of_live {l : Line} (h : l.deleted = false) :
    l.show = .ok { l with visible := true } := by
  simp [Line.show, h]

theorem setLevel_of_live {l : Line} (h : l.deleted = false) (level : Float) :
    l.setLevel level = .ok { l with level } := by
  simp [Line.setLevel, h]

/-- A line that has been moved and shown. -/
theorem eq_of_setLevel_show {l l₁ l₂ : Line} {level : Float} (h : l.deleted = false)
    (hset : l.setLevel level = .ok l₁) (hshow : l₁.show = .ok l₂) :
    l₂ = { l with level, visible := true } := by
  rw [setLevel_of_live h] at hset
  obtain rfl := Except.ok.inj hset
  have hlive : ({ l with level } : Line).deleted = false := h
  rw [show_of_live hlive] at hshow
  exact (Except.ok.inj hshow).symm

end Line

namespace Tracker

open Work Line

variable {own : Entrance Item Listener} {t : Tracker} {c : Chart Item Listener}

/-- The chart knows the subscription of the marker, if there is one, and will not end it. -/
structure Attends (own : Entrance Item Listener) (t : Tracker) (c : Chart Item Listener) :
    Prop where
  listed : ∀ n, t.marker.subscription = some n → (n, own.listener t.build) ∈ c.listeners
  kept : ∀ n, t.marker.subscription = some n → n ∉ c.cancelled
  fresh : ∀ n ∈ c.cancelled, n < c.nextId
  lined : t.line.isSome → t.marker.subscription.isSome

theorem Attends.grow {t' : Tracker} {c' : Chart Item Listener} (h : Attends own t c)
    (hs : t'.marker.subscription = t.marker.subscription) (hb : t'.build = t.build)
    (hl : t'.line.isSome → t'.marker.subscription.isSome) (hg : c.Grows c') :
    Attends own t' c' where
  listed n hn := by
    rw [hb]
    exact hg.listeners.subset (h.listed n (hs ▸ hn))
  kept n hn := by
    rw [hg.cancelled]
    exact h.kept n (hs ▸ hn)
  fresh n hn := Nat.lt_of_lt_of_le (h.fresh n (hg.cancelled ▸ hn)) hg.nextId
  lined := hl

/-- Connecting leaves a marker with a subscription, of which the chart knows. -/
theorem connect_spec (own : Entrance Item Listener) (t : Tracker) (c : Chart Item Listener) :
    ∃ n c', t.connect own c = .ok ({ t with marker.subscription := some n }, c') ∧ c.Grows c' ∧
      (Attends own t c → Attends own { t with marker.subscription := some n } c') := by
  rcases hs : t.marker.subscription with _ | n
  · refine ⟨c.nextId, (c.subscribe (own.listener t.build)).2, ?_, .subscribe c _, fun h => ?_⟩
    · simp only [connect, Marker.connect, hs, bind_run]
      rfl
    · refine ⟨?_, ?_, fun n hn => Nat.lt_succ_of_lt (h.fresh n hn), fun _ => rfl⟩
      · rintro n ⟨⟩
        exact List.mem_append_right _ (List.mem_singleton_self _)
      · rintro n ⟨⟩ hn
        exact Nat.lt_irrefl _ (h.fresh _ hn)
  · have he : ({ t with marker.subscription := some n } : Tracker) = t := by rw [← hs]
    refine ⟨n, c, ?_, .refl c, fun h => he.symm ▸ h⟩
    simp only [connect, Marker.connect, hs, bind_run, he]
    rfl

/-- The arrow that the marker shows for a size; a size without direction leaves it as it is. -/
def arrowFor (t : Tracker) (size : Float) : Arrow :=
  ((Arrow.ofSize? size).or t.marker.arrow).getD .up

theorem Assembled.setArrow? (h : t.Assembled) (size : Float) :
    t.marker.setArrow? (Arrow.ofSize? size) = t.marker.redraw (t.arrowFor size) := by
  obtain ⟨a, ha⟩ := h.drawn
  rw [ha.setArrow?, arrowFor, ha.arrow]
  cases Arrow.ofSize? size <;> rfl

/-- What a marker carries besides its glyph, its level and its place. -/
structure Trim where
  pen : Option String
  brush : Option String
  visible : Bool
  subscription : Option Nat

/-- The tracker with a line and a marker drawn for it. -/
def lined (t : Tracker) (l : Line) (a : Arrow) (trim : Trim) : Tracker :=
  { t with
    line := some l
    marker := { t.marker.redraw a with
      level := l.level
      pen := trim.pen
      brush := trim.brush
      visible := trim.visible
      subscription := trim.subscription } }

theorem Assembled.lined (h : t.Assembled) {l : Line} (hl : l.deleted = false) (a : Arrow)
    (trim : Trim) : (t.lined l a trim).Assembled :=
  { h with
    drawn := ⟨a, { t.marker.redraw_drawn a with }⟩
    lineLive := by
      rintro _ ⟨⟩
      exact hl }

/-- A new line, and the tracker as the line finds it: the marker is drawn for the size, but it
stands where it stood without the line. -/
theorem Assembled.positionLine (h : t.Assembled) (own : Entrance Item Listener)
    (size level : Float) (c : Chart Item Listener) :
    ∃ l trim p c',
      t.positionLine own size level c =
        .ok ((l, { (t.lined l (t.arrowFor size) trim).standAt p with line := t.line }), c') ∧
      l.level = level ∧ l.deleted = false ∧ c.Grows c' ∧
      (Attends own t c → Attends own (t.lined l (t.arrowFor size) trim) c') := by
  let c₁ := (c.makeLine level t.config.color .ofPosition).2
  let l : Line := (c.makeLine level t.config.color .ofPosition).1
  -- The marker is painted before the line is stored, so its place is that of the level before.
  let d : Tracker := { t.lined l (t.arrowFor size)
    ⟨some l.color, some l.color, t.marker.visible, t.marker.subscription⟩ with line := t.line }
  let p := d.post t.config.keepInView c.view
  have hd : d.Assembled :=
    { h.lined (l := l) rfl (t.arrowFor size) ⟨_, _, _, _⟩ with lineLive := h.lineLive }
  have hp : d.paint c₁ = .ok (d.standAt p, c₁) := hd.paint
  obtain ⟨n, c', hc, hg, ha⟩ :=
    connect_spec own { d.standAt p with marker := (d.standAt p).marker.show } c₁
  have hg' : c.Grows c₁ := .makeLine c _ _ _
  refine ⟨l, ⟨some l.color, some l.color, true, some n⟩, p, c', ?_, rfl, rfl, hg'.trans hg,
    fun h' => ?_⟩
  · rw [Tracker.positionLine, h.setArrow?]
    refine (bind_of_ok (modifyGet_run _ _) _).trans ?_
    refine (bind_of_ok hp _).trans ?_
    refine (bind_of_ok hc _).trans ?_
    rfl
  · have ha' := ha (h'.grow rfl rfl h'.lined hg')
    exact ⟨ha'.listed, ha'.kept, ha'.fresh, fun _ => rfl⟩

/-- A size that is not zero leaves the tracker with a shown line at the price. -/
theorem Assembled.updateLine_open (h : t.Assembled) (own : Entrance Item Listener)
    (price : Float) {size : Float} (ho : (size != 0.0) = true) (c : Chart Item Listener) :
    ∃ l trim p c',
      t.updateLine own price size c =
        .ok ((t.lined l (t.arrowFor size) trim).standAt p, c') ∧
      l.level = price ∧ l.deleted = false ∧ c.Grows c' ∧
      (Attends own t c → Attends own (t.lined l (t.arrowFor size) trim) c') := by
  unfold updateLine
  rcases hl : t.line with _ | l
  · obtain ⟨l, trim, p, c', hp, hlevel, hd, hg, ha⟩ := h.positionLine own size price c
    let c'' := c'.note .tracker .info (t.sentence ("pp line created at " ++ numeral price))
    have hg' : c'.Grows c'' := .note c' _ _ _
    refine ⟨{ l with visible := true }, trim, p, c'', ?_, hlevel, hd, hg.trans hg',
      fun h' => (ha h').grow rfl rfl (ha h').lined hg'⟩
    simp only [ho]
    refine (bind_of_ok hp _).trans ?_
    refine (bind_of_ok (lift_of_ok (show_of_live hd) _) _).trans ?_
    rfl
  · have hd := h.lineLive l hl
    let l' : Line := { l with level := price, visible := true }
    let trim : Trim :=
      ⟨t.marker.pen, t.marker.brush, t.marker.visible, t.marker.subscription⟩
    let c' := c.note .tracker .debug (t.sentence ("pp line moved to " ++ numeral price))
    have hp := (h.lined (l := l') hd (t.arrowFor size) trim).paint (c := c)
    have hg : c.Grows c' := .note c _ _ _
    refine ⟨l', trim, (t.lined l' (t.arrowFor size) trim).post t.config.keepInView c.view, c', ?_,
      rfl, hd, hg,
      fun h' => h'.grow rfl rfl (fun _ => h'.lined (by simp [hl])) hg⟩
    simp only [ho, h.setArrow?]
    refine (bind_of_ok (lift_of_ok (setLevel_of_live hd price) _) _).trans ?_
    refine (bind_of_ok (lift_of_ok (show_of_live (l := { l with level := price }) hd) _) _).trans ?_
    refine (bind_of_ok hp _).trans ?_
    rfl

/-! ## Whole reports -/

/-- The tracker with a size in its second label. -/
def labelled (t : Tracker) (size : Float) : Tracker :=
  { t with
    sizeLabel.fields := [("entry_size", .float size)]
    sizeLabel.text := sizeText size }

theorem Assembled.labelled (h : t.Assembled) (size : Float) : (t.labelled size).Assembled :=
  { h with fields := ⟨_, rfl⟩ }

/-- A second label that stands behind the first is written in its place. -/
theorem writeSize_eq (hanchor : t.sizeLabel.anchor = some .afterPp)
    (htemplate : t.sizeLabel.template = "x\x7bentry_size\x7d")
    (hfields : ∃ v, t.sizeLabel.fields = [("entry_size", v)]) (size : Float) :
    t.writeSize size =
      { t.labelled size with
        sizeLabel.pos := t.ppLabel.pos + ⟨t.ppLabel.size.w, 0.0⟩ } := by
  obtain ⟨v, hv⟩ := hfields
  have ht : Template.fill t.sizeLabel.template [("entry_size", .float size)] = sizeText size := by
    rw [htemplate, fill_entrySize, sizeText]
  have hf : insertSorted "entry_size" (.float size) t.sizeLabel.fields =
      [("entry_size", .float size)] := by
    rw [hv]
    rfl
  simp only [Tracker.writeSize, Tracker.labelled, Label.setField, Label.render, Label.write, hf,
    ht, Label.update, hanchor, place]

theorem Assembled.writeSize (h : t.Assembled) (size : Float) :
    t.writeSize size =
      { t.labelled size with
        sizeLabel.pos := t.ppLabel.pos + ⟨t.ppLabel.size.w, 0.0⟩ } :=
  writeSize_eq h.sizeAnchor h.template h.fields size

theorem Assembled.writeSize_standAt (h : t.Assembled) (p : Point) (size : Float) :
    (t.standAt p).writeSize size = (t.labelled size).standAt p := by
  rw [(h.standAt p).writeSize]
  rfl

/-- The tracker with all its parts shown, or with all of them hidden. -/
def exposed (t : Tracker) (visible : Bool) : Tracker :=
  { t with
    line := t.line.map fun l => { l with visible }
    marker := { t.marker with visible }
    ppLabel := { t.ppLabel with visible }
    sizeLabel := { t.sizeLabel with visible } }

theorem Assembled.exposed (h : t.Assembled) (visible : Bool) : (t.exposed visible).Assembled := by
  obtain ⟨a, ha⟩ := h.drawn
  exact { h with
    drawn := ⟨a, { ha with }⟩
    lineLive := by
      intro l hl
      obtain ⟨l', hl', rfl⟩ := Option.map_eq_some_iff.mp hl
      exact h.lineLive l' hl' }

/-- Showing does not fault unless the line has been deleted, and does nothing to a flat position. -/
theorem show_of_lineLive (h : ∀ l, t.line = some l → l.deleted = false) :
    t.show = .ok (if t.info.isFlat then t else t.exposed true) := by
  rw [Tracker.show]
  split_ifs
  · rfl
  · rcases hl : t.line with _ | l
    · simp only [Tracker.exposed, hl]
      rfl
    · rw [Option.mapM_some, show_of_live (h l hl)]
      simp only [Tracker.exposed, hl]
      rfl

theorem Assembled.show_eq (h : t.Assembled) :
    t.show = .ok (if t.info.isFlat then t else t.exposed true) := show_of_lineLive h.lineLive

/-- What a tracker becomes by a report of an open position, apart from places. -/
def reported (t : Tracker) (u : PositionUpdate) (l : Line) (trim : Trim) : Tracker :=
  lined { t with info := t.info.apply u } l (t.arrowFor u.size) trim
    |>.labelled u.size |>.exposed true

theorem Assembled.inform (h : t.Assembled) (info : Position) :
    Assembled { t with info } := { h with }

theorem Assembled.reported (h : t.Assembled) (u : PositionUpdate) {l : Line}
    (hl : l.deleted = false) (trim : Trim) : (t.reported u l trim).Assembled :=
  (((h.inform _).lined hl _ trim).labelled u.size).exposed true

/-- A report of an open position leaves nothing of what the tracker showed before. -/
theorem Assembled.update_open (h : t.Assembled) (own : Entrance Item Listener)
    {u : PositionUpdate} (ho : (u.size != 0.0) = true) (c : Chart Item Listener) :
    ∃ l trim c',
      t.update own u c = .ok ((t.reported u l trim).standAt
        ((t.reported u l trim).post t.config.keepInView c.view), c') ∧
      l.level = u.avgPrice ∧ l.deleted = false ∧ c.Grows c' ∧
      (Attends own t c → Attends own (t.reported u l trim) c') := by
  obtain ⟨l, trim, p, c', hu, hlevel, hd, hg, ha⟩ :=
    (h.inform (t.info.apply u)).updateLine_open own u.avgPrice ho c
  let i := Tracker.lined { t with info := t.info.apply u } l (t.arrowFor u.size) trim
  let d := i.labelled u.size
  have hi : i.Assembled := (h.inform _).lined hd _ trim
  have hd' : d.Assembled := hi.labelled u.size
  have hwrite : (i.standAt p).writeSize u.size = d.standAt p := hi.writeSize_standAt p u.size
  have hflat : ¬ (u.size == 0.0) = true := by simpa [bne] using ho
  have hlevel' : ({ d.standAt p with marker.level := u.avgPrice } : Tracker) = d.standAt p := by
    rw [← hlevel]
    rfl
  -- Wherever the first paint has put the marker, the last one puts it in its place.
  have hpaint : (d.standAt p).paint c' =
      .ok (d.standAt (d.post t.config.keepInView c.view), c') := by
    rw [(hd'.standAt p).paint, hd'.standAt_standAt, standAt_post, hg.view]
    rfl
  have hshow : (d.standAt (d.post t.config.keepInView c.view)).show =
      .ok ((d.exposed true).standAt (d.post t.config.keepInView c.view)) := by
    have hopen : ¬ d.info.isFlat = true := hflat
    rw [(hd'.standAt _).show_eq, standAt_info, if_neg hopen]
    rfl
  refine ⟨l, trim, c', ?_, hlevel, hd, hg, fun h' => ?_⟩
  · rw [Tracker.update]
    refine (bind_of_ok hu _).trans ?_
    change (if u.size == 0.0 then pure ((i.standAt p).writeSize u.size).hide
      else { (i.standAt p).writeSize u.size with marker.level := u.avgPrice }.paint >>=
        fun t => liftM t.show : ChartM Item Listener Tracker) c' = _
    rw [if_neg hflat, hwrite]
    simp only [hlevel']
    refine (bind_of_ok hpaint _).trans ?_
    exact lift_of_ok hshow c'
  · have := ha (h'.grow rfl rfl h'.lined (.refl c))
    exact this.grow rfl rfl this.lined (.refl c')

/-- What a tracker becomes by a report of a flat position, before it is hidden. -/
def emptied (t : Tracker) (u : PositionUpdate) : Tracker :=
  { t with info := t.info.apply u, line := none }

theorem Assembled.emptied (h : t.Assembled) (u : PositionUpdate) : (t.emptied u).Assembled :=
  { h with lineLive := nofun }

/-- A size of zero takes the line away. -/
theorem updateLine_flat (t : Tracker) (own : Entrance Item Listener) (price : Float) {size : Float}
    (hz : (size != 0.0) = false) (c : Chart Item Listener) :
    ∃ c', t.updateLine own price size c = .ok ({ t with line := none }, c') ∧ c.Grows c' ∧
      (t.line = none → c' = c) := by
  unfold updateLine
  rcases hl : t.line with _ | l
  · have he : ({ t with line := none } : Tracker) = t := by rw [← hl]
    refine ⟨c, ?_, .refl c, fun _ => rfl⟩
    simp only [hz, he]
    rfl
  · simp only [hz]
    exact ⟨_, rfl, (Chart.Grows.deleteLine c l).trans (.note _ _ _ _), nofun⟩

/-- A report of a flat position takes the line away and hides the rest where it stands. Without a
line it does not touch the chart. -/
theorem update_flat_eq (t : Tracker) (own : Entrance Item Listener) {u : PositionUpdate}
    (hz : (u.size != 0.0) = false) (c : Chart Item Listener) :
    ∃ c', t.update own u c = .ok (((t.emptied u).writeSize u.size).hide, c') ∧ c.Grows c' ∧
      (t.line = none → c' = c) := by
  have hflat : (u.size == 0.0) = true := by simpa [bne] using hz
  obtain ⟨c', hu, hg, hc⟩ := updateLine_flat { t with info := t.info.apply u } own u.avgPrice hz c
  refine ⟨c', ?_, hg, hc⟩
  rw [Tracker.update]
  refine (bind_of_ok hu _).trans ?_
  change (if u.size == 0.0 then pure ((t.emptied u).writeSize u.size).hide
    else { (t.emptied u).writeSize u.size with marker.level := u.avgPrice }.paint >>=
      fun t => liftM t.show : ChartM Item Listener Tracker) c' = _
  rw [if_pos hflat]
  rfl

theorem update_flat (t : Tracker) (own : Entrance Item Listener) {u : PositionUpdate}
    (hz : (u.size != 0.0) = false) (c : Chart Item Listener) :
    ∃ c', t.update own u c = .ok (((t.emptied u).writeSize u.size).hide, c') ∧ c.Grows c' ∧
      (Attends own t c → Attends own ((t.emptied u).writeSize u.size).hide c') := by
  obtain ⟨c', hu, hg, -⟩ := t.update_flat_eq own hz c
  exact ⟨c', hu, hg, fun h' => h'.grow rfl rfl nofun hg⟩

end Tracker

end PositionOverlay
