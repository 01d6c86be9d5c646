import PositionOverlay.Proofs.Marker.Coherence
import PositionOverlay.Proofs.Session.Flatness
import PositionOverlay.Proofs.Tracker.Holding

/-! # What the marker of a tracker keeps of its glyph

Whatever is asked of a tracker, what its marker keeps of its glyph stays in agreement, also if the
marker is built anew. If it is not, then its size is fixed.
-/
namespace PositionOverlay.Tracker

open Work

variable {Item Listener : Type} {own : Entrance Item Listener} {t t' : Tracker}

theorem Drifts.becomes (h : t.Drifts t') : t.marker.Becomes t'.marker := by
  have hpublished := h.published
  obtain ⟨pos, placement, pp, size, rfl⟩ := h.moved
  refine ⟨rfl, fun hm => ?_⟩
  have hbefore : t.marker.Published := by
    rw [Marker.Published, Marker.boundsAt_eq_elim, ← hm.bounds, ← hm.pos]
  have hafter : placement = ⟨pos, t.marker.boundsAt pos⟩ := hpublished hbefore
  subst hafter
  exact ⟨hm.hasGlyph, hm.path, hm.box, rfl, t.marker.boundsAt_eq_elim pos⟩

/-- Work on a tracker that keeps its marker. -/
abbrev KeepsMarker (t : Tracker) (x : ChartM Item Listener Tracker) : Prop :=
  Yields (fun t' => t.marker.Becomes t'.marker) x

theorem paint_keepsMarker (t : Tracker) :
    t.KeepsMarker (t.paint : ChartM Item Listener Tracker) := by
  intro c t' c' h
  rw [(paint_eq_ok h).1]
  exact (t.placed_drifts c.view).becomes

theorem painted_keepsMarker (t : Tracker) :
    t.KeepsMarker (t.painted : ChartM Item Listener Tracker) := by
  intro c t' c' h
  obtain ⟨c₁, hrun, -⟩ := t.painted_eq c
  obtain ⟨rfl, -⟩ := Prod.mk.inj (Except.ok.inj (hrun.symm.trans h))
  exact (t.repainted_drifts c.view).becomes

theorem rangeChanged_keepsMarker (t : Tracker) :
    t.KeepsMarker (t.rangeChanged : ChartM Item Listener Tracker) := by
  intro c t' c' h
  obtain ⟨c₁, hrun, -⟩ := t.rangeChanged_eq c
  obtain ⟨rfl, -⟩ := Prod.mk.inj (Except.ok.inj (hrun.symm.trans h))
  exact (t.heard_drifts c.view).becomes

theorem connect_keepsMarker (t : Tracker) : t.KeepsMarker (t.connect own) := by
  intro c t' c' h
  obtain ⟨n, rfl⟩ := connect_yields own t h
  exact (Marker.Becomes.refl t.marker).restyled

theorem positionLine_keepsMarker (t : Tracker) (size level : Float) :
    Yields (fun r => t.marker.Becomes r.2.marker) (t.positionLine own size level) := by
  have harrow := Marker.Becomes.setArrow? t.marker (Arrow.ofSize? size)
  refine .after fun line => .bind (paint_keepsMarker _) fun t₁ h₁ => ?_
  have hpainted : t.marker.Becomes t₁.marker := harrow.restyled.trans h₁
  refine .bind (connect_keepsMarker _) fun t₂ h₂ => .after fun line => .pure ?_
  exact hpainted.restyled.trans h₂

theorem updateLine_keepsMarker (t : Tracker) (price size : Float) :
    t.KeepsMarker (t.updateLine own price size) := by
  unfold updateLine
  split
  · exact (positionLine_keepsMarker t size price).bind fun r hr =>
      .after fun _ => .after fun _ => .pure hr
  · refine .after fun _ => .after fun _ => .bind (paint_keepsMarker _) fun t₁ h₁ => ?_
    have harrow := Marker.Becomes.setArrow? t.marker (Arrow.ofSize? size)
    exact .after fun _ => .pure (harrow.restyled.trans h₁)
  · exact .after fun _ => .after fun _ => .pure (.refl _)
  · exact .pure (.refl _)

theorem show_becomes (h : t.show = .ok t') : t.marker.Becomes t'.marker := by
  unfold Tracker.show at h
  split_ifs at h
  · rw [← Except.ok.inj h]
    exact .refl _
  · obtain ⟨line, -, h⟩ := except_bind_eq_ok.mp h
    rw [← Except.ok.inj h]
    exact (Marker.Becomes.refl t.marker).restyled

theorem hide_becomes (t : Tracker) : t.marker.Becomes t.hide.marker :=
  (Marker.Becomes.refl t.marker).restyled

theorem update_keepsMarker (t : Tracker) (u : PositionUpdate) :
    t.KeepsMarker (t.update own u) := by
  refine .bind (updateLine_keepsMarker _ _ _) fun t₁ h₁ => ?_
  dsimp only
  split
  · exact .pure (h₁.trans (hide_becomes _))
  · refine .bind (paint_keepsMarker _) fun t₂ h₂ => .lift fun t₃ h₃ => ?_
    exact (h₁.restyled.trans h₂).trans (show_becomes h₃)

theorem recordFill_keepsMarker (t : Tracker) (f : Fill) :
    t.KeepsMarker (t.recordFill f : ChartM Item Listener Tracker) := .after fun _ => .pure (.refl _)

/-- What a newly built marker keeps of its glyph is in agreement. -/
theorem buildMarker_coherent (config : OverlayConfig) (build : Nat) (size : Float) :
    Yields Marker.Coherent (buildMarker own config build size) := by
  intro c m c' h
  rw [(buildMarker_eq_ok h).1]
  cases Arrow.ofSize? size with
  | none =>
    have hblank : (Marker.blank config.arrowSize config.keepInView : Marker Role).Coherent :=
      Marker.blank_coherent _ _
    exact { hblank with }
  | some a =>
    have hdrawn := (Marker.redraw_drawn
      (.blank config.arrowSize config.keepInView : Marker Role) a).coherent
    exact { hdrawn with }

theorem create_coherent (symbol : String) (config : OverlayConfig) :
    Yields (fun t => t.marker.Coherent) (create own symbol config) := by
  intro c t c' h
  rw [(create_eq h).1]
  obtain ⟨a, ha⟩ := (initial_assembled symbol config c.nextId).drawn
  exact ha.coherent

theorem levelMarker_coherent (t : Tracker) (size : Float) :
    Yields (fun t' => t'.marker.Coherent) (t.levelMarker own size) := by
  refine .after fun t₁ => .bind (buildMarker_coherent t₁.config _ size) fun m hm => ?_
  dsimp only
  split
  · exact .pure { hm with }
  · intro c t' c' h
    exact (connect_keepsMarker _ h).coherent { hm with }

end PositionOverlay.Tracker
