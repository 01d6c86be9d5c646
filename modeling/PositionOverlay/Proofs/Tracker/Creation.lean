import PositionOverlay.Proofs.Tracker.Assembly

/-! # New trackers

If a tracker can be made at all, then it is made in one way: assembled, hidden, without a line and
without a subscription, and known to its chart as an item.
-/
namespace PositionOverlay.Tracker

open Work

variable {Item Listener : Type} {own : Entrance Item Listener}

/-- A new tracker whose marker is the given item. -/
def initial (symbol : String) (config : OverlayConfig) (item : Nat) : Tracker :=
  aligned {
    config
    info := .flat symbol
    marker := { (Marker.blank config.arrowSize config.keepInView : Marker Role).redraw .up with
      item := some item
      links := [.pp, .size] }
    line := none
    ppLabel := ⟨"pp", [], config.color, false, "pp", some .besideMarker, .origin, false, 0⟩
    sizeLabel :=
      ⟨"x\x7bentry_size\x7d", [("entry_size", .int 0)], config.color, true, sizeText 0.0,
        some .afterPp, .origin, false, 0⟩
    build := 0 }

theorem initial_assembled (symbol : String) (config : OverlayConfig) (item : Nat) :
    (initial symbol config item).Assembled where
  drawn := ⟨.up, rfl, rfl, rfl, rfl⟩
  size := rfl
  keepInView := rfl
  links := rfl
  live := rfl
  markerFree := rfl
  ppFree := rfl
  sizeFree := rfl
  ppText := rfl
  ppAnchor := rfl
  sizeAnchor := rfl
  template := rfl
  fields := ⟨_, rfl⟩
  lineLive := nofun

/-- All that building a marker does. -/
theorem buildMarker_eq_ok {config : OverlayConfig} {build : Nat} {size : Float}
    {c c' : Chart Item Listener} {m : Marker Role}
    (h : buildMarker own config build size c = .ok (m, c')) :
    let blank : Marker Role := .blank config.arrowSize config.keepInView
    m = { (Arrow.ofSize? size).elim blank blank.redraw with
        item := some c.nextId
        visible := (Arrow.ofSize? size).isSome } ∧
      c' = (c.addItem (own.item build)).2 := by
  obtain ⟨m₀, c₀, hlift, h⟩ := bind_eq_ok.mp h
  obtain ⟨hmake, rfl⟩ := lift_eq_ok.mp hlift
  obtain rfl := Marker.make_eq_elim hmake
  obtain ⟨m₁, c₁, henter, h⟩ := bind_eq_ok.mp h
  obtain ⟨rfl, rfl⟩ := Prod.mk.inj (Except.ok.inj henter)
  obtain ⟨rfl, rfl⟩ := Prod.mk.inj (Except.ok.inj h)
  cases Arrow.ofSize? size with
  | none => exact ⟨rfl, rfl⟩
  | some a => exact ⟨rfl, rfl⟩

/-- The marker of a new tracker points up, for a size of one. -/
theorem buildMarker_eq {config : OverlayConfig} {c c' : Chart Item Listener} {m : Marker Role}
    (h : buildMarker own config 0 1.0 c = .ok (m, c')) :
    m = { (Marker.blank config.arrowSize config.keepInView).redraw .up with
        item := some c.nextId
        visible := true } ∧
      c' = (c.addItem (own.item 0)).2 := by
  have ha : Arrow.ofSize? 1.0 = some .up := by decide
  have hb := buildMarker_eq_ok h
  rw [ha] at hb
  exact hb

theorem create_eq {symbol : String} {config : OverlayConfig} {t : Tracker}
    {c c' : Chart Item Listener} (h : create own symbol config c = .ok (t, c')) :
    t = initial symbol config c.nextId ∧
      ∃ text, c' = (c.addItem (own.item 0)).2.countLabel.countLabel.note .tracker .debug text := by
  obtain ⟨m, c₁, hm, h⟩ := bind_eq_ok.mp h
  obtain ⟨rfl, rfl⟩ := buildMarker_eq hm
  have hpp : Template.fill "pp" [] = "pp" := by cbv
  have hsize : Template.fill "x\x7bentry_size\x7d" [("entry_size", .int 0)] = sizeText 0.0 := by
    have hd : Template.display (.int 0) = Template.display (.float 0.0) := by decide +kernel
    rw [fill_entrySize, hd, sizeText]
  obtain ⟨rfl, rfl⟩ := Prod.mk.inj (Except.ok.inj h)
  refine ⟨?_, _, rfl⟩
  simp only [pinLabels, Label.make, Label.setAnchor, Label.render, Label.write, hpp, hsize, if_true]
  rfl

end PositionOverlay.Tracker
