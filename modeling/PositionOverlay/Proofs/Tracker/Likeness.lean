import PositionOverlay.Proofs.Tracker.Moves
import PositionOverlay.Proofs.Tracker.Creation
import PositionOverlay.Tracker.Snapshot

/-! # Trackers that look alike

A tracker knows the numbers under which its chart knows it, and how often its marker has been built.
Trackers that differ in nothing else look alike, and so they do after any operation, on charts that
have the view in common. Of such a chart an operation reads the view only, and keeps it.
-/
namespace PositionOverlay

/-- Works on charts of one view that fail alike, or keep the view and come to results that look
alike. -/
def Alike {Item Listener α γ : Type} (g : α → γ) (x x' : ChartM Item Listener α) : Prop :=
  ∀ ⦃c c'⦄, c'.view = c.view →
    (∃ f, x c = .error f ∧ x' c' = .error f) ∨
      ∃ a c₁ a' c₁', x c = .ok (a, c₁) ∧ x' c' = .ok (a', c₁') ∧ g a = g a' ∧
        c₁.view = c.view ∧ c₁'.view = c.view

namespace Alike

open Work

variable {Item Listener α β γ δ : Type} {g : α → γ} {h : β → δ}

theorem pure {a a' : α} (ha : g a = g a') :
    Alike g (Pure.pure a : ChartM Item Listener α) (Pure.pure a') :=
  fun c c' hv => .inr ⟨a, c, a', c', rfl, rfl, ha, rfl, hv⟩

theorem bind {x x' : ChartM Item Listener α} {k k' : α → ChartM Item Listener β}
    (hx : Alike g x x') (hk : ∀ a a', g a = g a' → Alike h (k a) (k' a')) :
    Alike h (x >>= k) (x' >>= k') := by
  intro c c' hv
  rcases hx hv with ⟨f, hf, hf'⟩ | ⟨a, c₁, a', c₁', hc, hc', ha, hv₁, hv₁'⟩
  · exact .inl ⟨f, by rw [bind_run, hf], by rw [bind_run, hf']⟩
  · rw [bind_of_ok hc, bind_of_ok hc', ← hv₁]
    exact hk a a' ha (hv₁'.trans hv₁.symm)

theorem lift {x x' : Except Fault α} (hx : x.map g = x'.map g) :
    Alike g (liftM x : ChartM Item Listener α) (liftM x') := by
  intro c c' hv
  rcases x with f | a
  · rcases x' with f' | a'
    · obtain rfl := Except.error.inj hx
      exact .inl ⟨f, rfl, rfl⟩
    · exact nomatch hx
  · rcases x' with f' | a'
    · exact nomatch hx
    · exact .inr ⟨a, c, a', c', rfl, rfl, Except.ok.inj hx, rfl, hv⟩

theorem modifyGet {f f' : Chart Item Listener → α × Chart Item Listener}
    (hf : ∀ c, (f c).2.view = c.view) (hf' : ∀ c, (f' c).2.view = c.view)
    (ha : ∀ c c', g (f c).1 = g (f' c').1) :
    Alike g (MonadState.modifyGet f : ChartM Item Listener α) (MonadState.modifyGet f') :=
  fun c c' hv => .inr ⟨_, _, _, _, rfl, rfl, ha c c', hf c, (hf' c').trans hv⟩

/-- Works that never fail, and whose results depend on the view only. -/
theorem of_ok {x x' : ChartM Item Listener α} {r : View → γ}
    (hx : ∀ c, ∃ a c₁, x c = .ok (a, c₁) ∧ g a = r c.view ∧ c₁.view = c.view)
    (hx' : ∀ c, ∃ a c₁, x' c = .ok (a, c₁) ∧ g a = r c.view ∧ c₁.view = c.view) :
    Alike g x x' := by
  intro c c' hv
  obtain ⟨a, c₁, hc, ha, hv₁⟩ := hx c
  obtain ⟨a', c₁', hc', ha', hv₁'⟩ := hx' c'
  exact .inr ⟨a, c₁, a', c₁', hc, hc', by rw [ha, ha', hv], hv₁, hv₁'.trans hv⟩

/-- Works that fail alike, with results that are known otherwise. -/
theorem of_results {x x' : ChartM Item Listener α} (h : Alike (fun _ => ()) x x')
    (hg : ∀ c a c₁, x c = .ok (a, c₁) → ∀ c' a' c₁', x' c' = .ok (a', c₁') → g a = g a') :
    Alike g x x' := by
  intro c c' hv
  rcases h hv with hf | ⟨a, c₁, a', c₁', hc, hc', -, hv₁, hv₁'⟩
  · exact .inl hf
  · exact .inr ⟨a, c₁, a', c₁', hc, hc', hg c a c₁ hc c' a' c₁' hc', hv₁, hv₁'⟩

/-- The texts do not matter. -/
theorem note {source source' : Source} {severity severity' : Severity} {text text' : String} :
    Alike (fun _ => ()) (modify (·.note source severity text) : ChartM Item Listener PUnit)
      (modify (·.note source' severity' text')) :=
  modifyGet (fun _ => rfl) (fun _ => rfl) fun _ _ => rfl

/-- Work that looks like itself keeps the view. -/
theorem view {x : ChartM Item Listener α} (hx : Alike g x x) {c c' : Chart Item Listener} {a : α}
    (hc : x c = .ok (a, c')) : c'.view = c.view := by
  rcases hx (rfl : c.view = c.view) with ⟨f, hf, -⟩ | ⟨_, _, _, _, hc₁, -, -, hv, -⟩
  · rw [hf] at hc
    exact nomatch hc
  · rw [hc] at hc₁
    rw [(Prod.mk.inj (Except.ok.inj hc₁)).2, hv]

end Alike

namespace Chart

variable {Item Listener : Type}

theorem view_unsubscribe (c : Chart Item Listener) (n : Nat) :
    (c.unsubscribe n).view = c.view := by
  unfold unsubscribe
  split_ifs <;> rfl

theorem view_deleteLine (c : Chart Item Listener) (l : Line) :
    (c.deleteLine l).2.view = c.view := by
  unfold deleteLine
  split_ifs <;> rfl

end Chart

namespace Line

variable {l l' : Line}

/-- The line without its number. -/
def bare (l : Line) : Line := { l with id := 0 }

theorem setLevel_bare (l : Line) (level : Float) :
    (l.setLevel level).map bare = l.bare.setLevel level := by
  unfold setLevel
  rw [apply_ite (Except.map bare)]
  rfl

theorem show_bare (l : Line) : l.show.map bare = l.bare.show := by
  unfold Line.show
  rw [apply_ite (Except.map bare)]
  rfl

theorem color_eq_of_bare (h : l.bare = l'.bare) : l.color = l'.color :=
  (congrArg color h : l.bare.color = l'.bare.color)

end Line

namespace Marker

variable {Link : Type} {m m' : Marker Link}

/-- The marker without the numbers under which its chart knows it. -/
def bare (m : Marker Link) : Marker Link :=
  { m with item := none, subscription := m.subscription.map fun _ => 0 }

theorem setArrow?_bare (m : Marker Link) (o : Option Arrow) :
    (m.setArrow? o).bare = m.bare.setArrow? o := by
  cases o with
  | none => rfl
  | some a =>
    simp only [setArrow?, setArrow]
    rw [apply_ite bare]
    rfl

/-- What can be done to the bare marker as well looks alike. -/
theorem bare_congr {f : Marker Link → Marker Link} (hf : ∀ m, (f m).bare = f m.bare)
    (h : m.bare = m'.bare) : (f m).bare = (f m').bare := by
  rw [hf, h, hf]

theorem isHeld_eq_of_bare (h : m.bare = m'.bare) : m.isHeld = m'.isHeld :=
  (congrArg isHeld h : m.bare.isHeld = m'.bare.isHeld)

/-- Whatever the chart knows of the marker, taking it off succeeds. -/
theorem withdraw_eq {Item Listener : Type} (m : Marker Link) (c : Chart Item Listener) :
    ∃ c', m.withdraw c = .ok (m.delete, c') ∧ c'.view = c.view := by
  unfold withdraw
  cases m.item with
  | none =>
    cases m.subscription with
    | none => exact ⟨c, rfl, rfl⟩
    | some n => exact ⟨_, rfl, c.view_unsubscribe n⟩
  | some i =>
    cases m.subscription with
    | none => exact ⟨_, rfl, rfl⟩
    | some n => exact ⟨_, rfl, (c.removeItem i).view_unsubscribe n⟩

theorem isSome_subscription_of_bare (h : m.bare = m'.bare) :
    m.subscription.isSome = m'.subscription.isSome := by
  have hs := congrArg (fun m => m.subscription.isSome) h
  simpa only [bare, Option.isSome_map] using hs

end Marker

namespace Tracker

variable {Item Listener : Type} {own own' : Entrance Item Listener} {t t' : Tracker}
  {m m' : Marker Role}

/-- The tracker without what only its chart and its own count of builds tell. -/
def bare (t : Tracker) : Tracker :=
  { t with marker := t.marker.bare, line := t.line.map Line.bare, build := 0 }

theorem snapshot_bare (t : Tracker) : t.bare.snapshot = t.snapshot := by
  have hl : t.bare.line.map Line.level = t.line.map Line.level := by
    rw [bare, Option.map_map]
    rfl
  have hv : t.bare.line.any Line.visible = t.line.any Line.visible := by
    rw [bare]
    cases t.line <;> rfl
  rw [snapshot, hl, hv]
  rfl

/-! ## What can be done to the bare tracker as well -/

theorem level_bare (t : Tracker) : t.bare.level = t.level := by
  unfold level bare
  cases t.line <;> rfl

theorem setLabel_bare (t : Tracker) (role : Role) (l : Label Anchor) :
    (t.setLabel role l).bare = t.bare.setLabel role l := by
  cases role <;> rfl

theorem updateLabel_bare (t : Tracker) (role : Role) :
    (t.updateLabel role).bare = t.bare.updateLabel role := by
  unfold updateLabel
  rw [apply_ite bare, setLabel_bare]
  rfl

theorem reanchored_bare (t : Tracker) : t.reanchored.bare = t.bare.reanchored := by
  unfold reanchored
  change _ = t.marker.links.foldl updateLabel t.bare
  generalize t.marker.links = links
  induction links generalizing t with
  | nil => rfl
  | cons role links ih => rw [List.foldl_cons, List.foldl_cons, ih, updateLabel_bare]

theorem post_bare (keep : Bool) (v : View) (t : Tracker) : t.bare.post keep v = t.post keep v := by
  rw [post, post, level_bare]
  rfl

theorem posted_bare (keep : Bool) (v : View) (t : Tracker) :
    (t.posted keep v).bare = t.bare.posted keep v := by
  unfold posted
  rw [reanchored_bare, post_bare]
  rfl

theorem placed_bare (v : View) (t : Tracker) : (t.placed v).bare = t.bare.placed v := by
  unfold placed
  rw [apply_ite bare, posted_bare]
  rfl

theorem heard_bare (v : View) (t : Tracker) : (t.heard v).bare = t.bare.heard v := by
  unfold heard
  rw [apply_ite bare, apply_ite bare, posted_bare]
  rfl

theorem repainted_bare (v : View) (t : Tracker) : (t.repainted v).bare = t.bare.repainted v := by
  unfold repainted
  rw [apply_ite bare, apply_ite bare, placed_bare]
  rfl

theorem hide_bare (t : Tracker) : t.hide.bare = t.bare.hide := by
  unfold hide bare
  rw [Option.map_map, Option.map_map]
  rfl

/-! ## Trackers that look alike -/

/-- The trackers look alike. -/
def Like (t t' : Tracker) : Prop := t.bare = t'.bare

namespace Like

theorem snapshot (h : t.Like t') : t.snapshot = t'.snapshot := by
  rw [← snapshot_bare, h, snapshot_bare]

theorem config (h : t.Like t') : t.config = t'.config :=
  (congrArg Tracker.config h : t.bare.config = t'.bare.config)

theorem info (h : t.Like t') : t.info = t'.info :=
  (congrArg Tracker.info h : t.bare.info = t'.bare.info)

theorem marker (h : t.Like t') : t.marker.bare = t'.marker.bare :=
  (congrArg Tracker.marker h : t.bare.marker = t'.bare.marker)

theorem line (h : t.Like t') : t.line.map Line.bare = t'.line.map Line.bare :=
  (congrArg Tracker.line h : t.bare.line = t'.bare.line)

/-- Both trackers have a line, or none has. -/
theorem line_cases (h : t.Like t') : (t.line = none ∧ t'.line = none) ∨
    ∃ l l', t.line = some l ∧ t'.line = some l' ∧ l.bare = l'.bare := by
  have hl := h.line
  rcases ht : t.line with _ | l <;> rcases ht' : t'.line with _ | l' <;> rw [ht, ht'] at hl
  · exact .inl ⟨rfl, rfl⟩
  · exact nomatch hl
  · exact nomatch hl
  · exact .inr ⟨l, l', rfl, rfl, Option.some.inj hl⟩

/-- What can be done to the bare tracker as well looks alike. -/
theorem map {f : Tracker → Tracker} (hf : ∀ t, (f t).bare = f t.bare) (h : t.Like t') :
    (f t).Like (f t') := by
  rw [Like, hf, h, ← hf]

theorem remark (h : t.Like t') (hm : m.bare = m'.bare) :
    Like { t with marker := m } { t' with marker := m' } := by
  change ({ t.bare with marker := m.bare } : Tracker) = { t'.bare with marker := m'.bare }
  rw [show t.bare = t'.bare from h, hm]

theorem reline (h : t.Like t') {l l' : Option Line} (hl : l.map Line.bare = l'.map Line.bare) :
    Like { t with line := l } { t' with line := l' } := by
  change ({ t.bare with line := l.map Line.bare } : Tracker) =
    { t'.bare with line := l'.map Line.bare }
  rw [show t.bare = t'.bare from h, hl]

theorem rebuild (h : t.Like t') (build build' : Nat) :
    Like { t with build } { t' with build := build' } := h

end Like

/-! ## Operations -/

/-- The results look alike. -/
abbrev LikeResults (x x' : ChartM Item Listener Tracker) : Prop := Alike bare x x'

theorem paint_alike (h : t.Like t') :
    LikeResults (t.paint : ChartM Item Listener Tracker) t'.paint := by
  refine .of_ok (r := fun v => (t.placed v).bare) (fun c => ?_) fun c => ?_
  · obtain ⟨c₁, hc, hn⟩ := t.paint_eq c
    exact ⟨_, c₁, hc, rfl, hn.view⟩
  · obtain ⟨c₁, hc, hn⟩ := t'.paint_eq c
    exact ⟨_, c₁, hc, (h.map (placed_bare c.view)).symm, hn.view⟩

theorem connect_alike (h : t.Like t') : LikeResults (t.connect own) (t'.connect own') := by
  have hconnect : Alike Marker.bare
      (t.marker.connect (own.listener t.build) : ChartM Item Listener (Marker Role))
      (t'.marker.connect (own'.listener t'.build)) := by
    unfold Marker.connect
    rw [← Marker.isSome_subscription_of_bare h.marker]
    split_ifs
    · exact .pure h.marker
    · refine .bind (.modifyGet (g := fun _ => ()) (fun _ => rfl) (fun _ => rfl) fun _ _ => rfl)
        fun n n' _ => .pure ?_
      exact congrArg (fun m : Marker Role => { m with subscription := some 0 }) h.marker
  exact .bind hconnect fun m m' hm => .pure (h.remark hm)

theorem lift_setLevel_alike {l l' : Line} (h : l.bare = l'.bare) (level : Float) :
    Alike Line.bare (liftM (l.setLevel level) : ChartM Item Listener Line)
      (liftM (l'.setLevel level)) :=
  .lift (by rw [Line.setLevel_bare, h, Line.setLevel_bare])

theorem lift_lineShow_alike {l l' : Line} (h : l.bare = l'.bare) :
    Alike Line.bare (liftM l.show : ChartM Item Listener Line) (liftM l'.show) :=
  .lift (by rw [Line.show_bare, h, Line.show_bare])

theorem positionLine_alike (h : t.Like t') (size level : Float) :
    Alike (fun r => (r.1.bare, r.2.bare)) (t.positionLine own size level)
      (t'.positionLine own' size level) := by
  refine .bind (g := Line.bare) (.modifyGet (fun _ => rfl) (fun _ => rfl) fun _ _ => ?_)
    fun l l' hl => .bind (paint_alike ?_) fun t₁ t₁' h₁ => .bind (connect_alike ?_)
      fun t₂ t₂' h₂ => .bind (lift_setLevel_alike hl level) fun _ _ hl' => .pure (Prod.ext hl' h₂)
  · rw [h.config]
    rfl
  · rw [Line.color_eq_of_bare hl]
    refine h.remark (Marker.bare_congr
      (f := fun m => { (m.setArrow? _).paintWith l'.color with level }) (fun m => ?_) h.marker)
    rw [← Marker.setArrow?_bare]
    rfl
  · exact Like.remark h₁ (Marker.bare_congr (fun _ => rfl) (Like.marker h₁))

theorem deleteLine_alike (l l' : Line) :
    Alike (fun _ => ()) (MonadState.modifyGet (·.deleteLine l) : ChartM Item Listener Line)
      (MonadState.modifyGet (·.deleteLine l')) :=
  .modifyGet (fun c => c.view_deleteLine l) (fun c => c.view_deleteLine l') fun _ _ => rfl

theorem updateLine_alike (h : t.Like t') (price size : Float) :
    LikeResults (t.updateLine own price size) (t'.updateLine own' price size) := by
  unfold updateLine
  rcases h.line_cases with ⟨hl, hl'⟩ | ⟨l, l', hl, hl', hbare⟩ <;> rw [hl, hl']
  · cases size != 0.0
    · exact .pure h
    · exact .bind (positionLine_alike h size price) fun r r' hr =>
        .bind (lift_lineShow_alike (Prod.mk.inj hr).1) fun _ _ hl₁ =>
          .bind .note fun _ _ _ =>
            .pure (Like.reline (Prod.mk.inj hr).2 (congrArg some hl₁))
  · cases size != 0.0
    · exact .bind (deleteLine_alike l l') fun _ _ _ =>
        .bind .note fun _ _ _ => .pure (h.reline rfl)
    · refine .bind (lift_setLevel_alike hbare price) fun l₁ l₁' h₁ =>
        .bind (lift_lineShow_alike h₁) fun l₂ l₂' h₂ => .bind (paint_alike ?_) fun t₁ t₁' ht₁ =>
          .bind .note fun _ _ _ => .pure ht₁
      refine Like.reline (l := some l₂) (h.remark (Marker.bare_congr
        (f := fun m => { m.setArrow? _ with level := price }) (fun m => ?_) h.marker))
        (congrArg some h₂)
      rw [← Marker.setArrow?_bare]
      rfl

theorem show_bare (t : Tracker) : t.show.map bare = t.bare.show := by
  unfold Tracker.show
  rw [apply_ite (Except.map bare)]
  rcases hl : t.line with _ | l
  · have hl' : t.bare.line = none := congrArg (Option.map Line.bare) hl
    rw [hl']
    rfl
  · have hl' : t.bare.line = some l.bare := congrArg (Option.map Line.bare) hl
    rw [hl', Option.mapM_some, Option.mapM_some, ← Line.show_bare]
    cases l.show <;> rfl

theorem show_alike (h : t.Like t') :
    LikeResults (liftM t.show : ChartM Item Listener Tracker) (liftM t'.show) :=
  .lift (by rw [show_bare, h, show_bare])

theorem update_alike (h : t.Like t') (u : PositionUpdate) :
    LikeResults (t.update own u) (t'.update own' u) := by
  have h₀ : Like { t with info := t.info.apply u } { t' with info := t'.info.apply u } :=
    h.map (f := fun t => { t with info := t.info.apply u }) fun _ => rfl
  refine .bind (updateLine_alike h₀ u.avgPrice u.size) fun t₁ t₁' h₁ => ?_
  have hw : (t₁.writeSize u.size).Like (t₁'.writeSize u.size) :=
    Like.map (f := (·.writeSize u.size)) (fun _ => rfl) h₁
  dsimp only
  split_ifs
  · exact .pure (hw.map hide_bare)
  · exact .bind (paint_alike (hw.map (f := fun t => { t with marker.level := u.avgPrice })
      fun _ => rfl)) fun t₂ t₂' h₂ => show_alike h₂

theorem deleteMarker_alike (h : t.Like t') :
    LikeResults (t.deleteMarker : ChartM Item Listener Tracker) t'.deleteMarker := by
  refine .bind (g := Marker.bare) (.of_ok (r := fun _ => t.marker.delete.bare) (fun c => ?_)
    fun c => ?_) fun m m' hm => .pure (h.remark hm)
  · obtain ⟨c₁, hc, hv⟩ := t.marker.withdraw_eq c
    exact ⟨_, c₁, hc, rfl, hv⟩
  · obtain ⟨c₁, hc, hv⟩ := t'.marker.withdraw_eq c
    exact ⟨_, c₁, hc, Marker.bare_congr (f := Marker.delete) (fun _ => rfl) h.marker.symm, hv⟩

theorem buildMarker_alike {config config' : OverlayConfig} (h : config = config')
    (build build' : Nat) (size : Float) :
    Alike Marker.bare (buildMarker own config build size)
      (buildMarker own' config' build' size) := by
  subst h
  refine .bind (g := Marker.bare) (.lift rfl) fun m m' hm => .bind (g := Marker.bare)
    (.bind (.modifyGet (g := fun _ => ()) (fun _ => rfl) (fun _ => rfl) fun _ _ => rfl)
      fun n n' _ => .pure hm) fun m₁ m₁' hm₁ => .pure (Marker.bare_congr
        (f := fun m => if (Arrow.ofSize? size).isSome then m.show else m) (fun m => ?_) hm₁)
  rw [apply_ite Marker.bare]
  rfl

/-- The marker in the color of a line, at the level of the position. -/
theorem dressed_bare (h : t.Like t') {l l' : Line} (hl : l.bare = l'.bare) :
    Marker.bare { t.marker.paintWith l.color with level := t.info.avgPrice } =
      Marker.bare { t'.marker.paintWith l'.color with level := t'.info.avgPrice } := by
  rw [Line.color_eq_of_bare hl, h.info]
  exact Marker.bare_congr (f := fun m => { m.paintWith l'.color with level := t'.info.avgPrice })
    (fun _ => rfl) h.marker

theorem levelMarker_alike (h : t.Like t') (size : Float) :
    LikeResults (t.levelMarker own size) (t'.levelMarker own' size) := by
  refine .bind (deleteMarker_alike h) fun t₁ t₁' h₁ =>
    .bind (buildMarker_alike (Like.config h₁) _ _ _) fun m m' hm => ?_
  have h₂ : Like (pinLabels { t₁ with marker := m, build := t₁.build + 1 })
      (pinLabels { t₁' with marker := m', build := t₁'.build + 1 }) :=
    Like.map (fun _ => rfl) ((Like.remark h₁ hm).rebuild _ _)
  dsimp only
  rcases h₂.line_cases with ⟨hl, hl'⟩ | ⟨l, l', hl, hl', hbare⟩ <;> rw [hl, hl']
  · exact .pure h₂
  · exact connect_alike (Like.reline (l := some l) (h₂.remark (dressed_bare h₂ hbare))
      (congrArg some hbare))

theorem recordFill_alike (h : t.Like t') (f : Fill) :
    LikeResults (t.recordFill f : ChartM Item Listener Tracker) (t'.recordFill f) :=
  .bind .note fun _ _ _ =>
    .pure (h.map (f := fun t => { t with info := t.info.record f }) fun _ => rfl)

theorem create_alike (own own' : Entrance Item Listener) (symbol : String)
    (config : OverlayConfig) :
    LikeResults (create own symbol config) (create own' symbol config) := by
  refine .of_results (.bind (buildMarker_alike rfl 0 0 1.0) fun m m' hm =>
    .bind (.modifyGet (g := fun _ => ()) (fun _ => rfl) (fun _ => rfl) fun _ _ => rfl)
      fun _ _ _ => .bind .note fun _ _ _ => .pure rfl) ?_
  intro c t c₁ h c' t' c₁' h'
  rw [(create_eq h).1, (create_eq h').1]
  rfl

theorem drop_alike (h : t.Like t') :
    Alike (fun _ => ()) (t.drop : ChartM Item Listener Tracker) t'.drop := by
  unfold drop
  rw [← Marker.isHeld_eq_of_bare h.marker]
  split
  · refine .bind (.pure h) fun t₁ t₁' h₁ => ?_
    dsimp only
    rcases Like.line_cases h₁ with ⟨hl, hl'⟩ | ⟨l, l', hl, hl', -⟩ <;> rw [hl, hl']
    · exact .pure rfl
    · exact .bind (deleteLine_alike l l') fun _ _ _ => .pure rfl
  · refine .bind (deleteMarker_alike h) fun t₁ t₁' h₁ => ?_
    dsimp only
    rcases Like.line_cases h₁ with ⟨hl, hl'⟩ | ⟨l, l', hl, hl', -⟩ <;> rw [hl, hl']
    · exact .pure rfl
    · exact .bind (deleteLine_alike l l') fun _ _ _ => .pure rfl

end Tracker

end PositionOverlay
