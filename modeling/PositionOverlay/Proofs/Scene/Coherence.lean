import PositionOverlay.Proofs.Scene.Deletion
import PositionOverlay.Proofs.Tracker.Coherence

/-! # What the markers of a scene keep of their glyphs

Commands, paints and calls change markers in several ways, but none of them changes the size of a
marker, and each leaves what the marker keeps of its glyph in agreement with its arrow, its size and
its place. So this is the case at every moment of every run.
-/
namespace PositionOverlay

open Work

namespace Marker

variable {Item Listener Link : Type}

theorem enter_becomes (item : Item) (m : Marker Link) :
    Yields m.Becomes (m.enter item : ChartM Item Listener (Marker Link)) :=
  .after fun _ => .pure (Becomes.refl m).restyled

theorem connect_becomes (listener : Listener) (m : Marker Link) :
    Yields m.Becomes (m.connect listener : ChartM Item Listener (Marker Link)) := by
  unfold Marker.connect
  split_ifs
  · exact .pure (.refl m)
  · exact .after fun _ => .pure (Becomes.refl m).restyled

theorem withdraw_becomes (m : Marker Link) :
    Yields m.Becomes (m.withdraw : ChartM Item Listener (Marker Link)) := by
  have hdelete : m.Becomes m.delete := (Becomes.refl m).restyled
  unfold Marker.withdraw
  cases m.item <;> cases m.subscription
  · exact .pure hdelete
  · exact .after fun _ => .pure hdelete
  · exact .after fun _ => .pure hdelete
  · exact .after fun _ => .after fun _ => .pure hdelete

end Marker

namespace Scene

variable {α : Type} {s s₀ : Scene} {key : Nat} {m m' : FreeMarker} {name : String}

/-- The markers of the first scene are there with their sizes, and what any marker keeps of its
glyph is in agreement. -/
structure Coheres (s₀ s : Scene) : Prop where
  sizes : s₀.markers.Keeps (·.marker.size) s.markers
  markers : s.markers.All (·.marker.Coherent)
  trackers : s.trackers.All (·.marker.Coherent)

theorem coheres_empty (view : View) : (empty view).Coheres (empty view) :=
  ⟨.refl _ _, Registry.all_empty, Registry.all_empty⟩

/-- Nothing else in a scene counts. -/
theorem Coheres.congr {s' : Scene} (h : s₀.Coheres s) (hm : s'.markers = s.markers)
    (ht : s'.trackers = s.trackers) : s₀.Coheres s' where
  sizes := hm ▸ h.sizes
  markers := hm ▸ h.markers
  trackers := ht ▸ h.trackers

theorem Coheres.setMarker (h : s₀.Coheres s) (hm : s.markers.get? key = some m)
    (hb : m.marker.Becomes m'.marker) : s₀.Coheres { s with markers := s.markers.set key m' } where
  sizes := h.sizes.set hm hb.size
  markers := h.markers.set key (hb.coherent (h.markers hm))
  trackers := h.trackers

theorem Coheres.addMarker (h : s₀.Coheres s) (hm : m.marker.Coherent) :
    s₀.Coheres { s with markers := s.markers.add name m } :=
  ⟨h.sizes.add name m, h.markers.add name hm, h.trackers⟩

theorem Coheres.dropMarker (h : s₀.Coheres s) :
    s₀.Coheres { s with markers := s.markers.drop name } :=
  ⟨h.sizes.drop name, h.markers.drop name, h.trackers⟩

theorem Coheres.changeHolders (h : s₀.Coheres s) (g : Grip) (f : Nat → Nat) :
    s₀.Coheres (s.changeHolders g f) where
  sizes := h.sizes.modify g.markers fun _ => rfl
  markers := h.markers.modify g.markers fun _ hm => { hm with }
  trackers := by
    have hmarkers := h.trackers.modify g.trackerMarkers
      (f := fun t => { t with marker.holders := f t.marker.holders }) fun _ ht => { ht with }
    have hlabels := hmarkers.modify g.ppLabels
      (f := fun t => { t with ppLabel.holders := f t.ppLabel.holders }) fun _ => id
    exact hlabels.modify g.sizeLabels fun _ => id

/-- Work that leaves all markers in agreement with their glyphs. -/
abbrev KeepsGlyphs (s₀ : Scene) (x : SceneM α) : Prop :=
  Ensures s₀.Coheres x fun _ => s₀.Coheres

/-- Work that does so if the marker is under the key. -/
abbrev KeepsGlyphsOf (s₀ : Scene) (key : Nat) (m : FreeMarker) (x : SceneM α) : Prop :=
  Ensures (fun s => s₀.Coheres s ∧ s.markers.get? key = some m) x fun _ => s₀.Coheres

theorem apart_keepsGlyphs {f : Scene → Scene}
    (hf : ∀ s, (f s).markers = s.markers ∧ (f s).trackers = s.trackers) :
    s₀.KeepsGlyphs (modify f) :=
  .modify fun s hs => hs.congr (hf s).1 (hf s).2

theorem known_ensures {P : Scene → Prop} (x : Option α) :
    Ensures P (known x) fun a s => x = some a ∧ P s := by
  intro s a s' hs h
  obtain ⟨hx, rfl⟩ := known_eq_ok.mp h
  exact ⟨hx, hs⟩

theorem allow_ensures {P : Scene → Prop} (x : Except Fault α) :
    Ensures P (allow x) fun a s => x = .ok a ∧ P s := by
  intro s a s' hs h
  cases x with
  | error f => exact nomatch h
  | ok b =>
    obtain ⟨rfl, rfl⟩ := Prod.mk.inj (Except.ok.inj h)
    exact ⟨rfl, hs⟩

/-- What does not depend on the chart is as it was after work on the chart. -/
theorem onChart_ensures {P : Scene → Prop} (hP : ∀ s c, P s → P { s with chart := c })
    {x : ChartM Item Listener α} {Q : α → Prop} (hx : Yields Q x) :
    Ensures P (onChart x) fun a s => Q a ∧ P s := by
  intro s a s' hs h
  obtain ⟨c, hrun, rfl⟩ := onChart_eq_ok.mp h
  exact ⟨hx hrun, hP s c hs⟩

theorem onChart_keepsGlyphs (x : ChartM Item Listener α) : s₀.KeepsGlyphs (onChart x) := by
  intro s a s' hs h
  obtain ⟨c, -, rfl⟩ := onChart_eq_ok.mp h
  exact hs.congr rfl rfl

theorem get_keepsGlyphs : s₀.KeepsGlyphs get := by
  rintro s _ _ hs ⟨⟩
  exact hs

theorem known_keepsGlyphs (x : Option α) : s₀.KeepsGlyphs (known x) :=
  fun _ _ _ hs h => (known_ensures x hs h).2

theorem allow_keepsGlyphs (x : Except Fault α) : s₀.KeepsGlyphs (allow x) :=
  fun _ _ _ hs h => (allow_ensures x hs h).2

/-! ## Paints and calls -/

theorem reanchorLabel_keepsGlyphs (key : Nat) : s₀.KeepsGlyphs (reanchorLabel key) := by
  refine Ensures.get.bind fun s => .weaken ?_ fun _ => And.right
  split
  · exact .pure fun _ => id
  · split_ifs
    · exact onChart_keepsGlyphs _
    · exact apart_keepsGlyphs fun _ => ⟨rfl, rfl⟩

theorem settle_keepsGlyphs (hb : m.marker.Becomes m'.marker) :
    s₀.KeepsGlyphsOf key m (settle key m') :=
  .bind (.modify fun _ hs => hs.1.setMarker hs.2 hb) fun _ =>
    .forM fun label _ => reanchorLabel_keepsGlyphs label

theorem placeMarker_keepsGlyphs (key : Nat) (m : FreeMarker) :
    s₀.KeepsGlyphsOf key m (placeMarker key m) := by
  refine Ensures.get.bind fun s => (allow_ensures _).bind fun marker => ?_
  rintro s a s' ⟨hplace, -, hs⟩ h
  exact settle_keepsGlyphs (Marker.Becomes.placeInView hplace) hs h

theorem paintMarker_keepsGlyphs (key : Nat) (m : FreeMarker) :
    s₀.KeepsGlyphsOf key m (paintMarker key m) := by
  unfold paintMarker
  split_ifs
  · refine Ensures.get.bind fun s => (allow_ensures _).bind fun marker => ?_
    rintro s a s' ⟨hplace, -, hs⟩ h
    exact settle_keepsGlyphs (Marker.Becomes.placeForPaint hplace) hs h
  · exact .pure fun _ => And.left

/-- A tracker that has become something with a marker in agreement is stored. -/
theorem storeTracker_keepsGlyphs (key : Nat) {x : ChartM Item Listener Tracker}
    (hx : Yields (·.marker.Coherent) x) :
    s₀.KeepsGlyphs (onChart x >>= setTracker key) :=
  (onChart_ensures (fun _ _ h => h.congr rfl rfl) hx).bind fun _ =>
    .modify fun _ hs => ⟨hs.2.sizes, hs.2.markers, hs.2.trackers.set key hs.1⟩

theorem hear_keepsGlyphs {runScript : String → List (String × Command) → SceneM Unit}
    (hscript : ∀ name actions, s₀.KeepsGlyphs (runScript name actions)) (l : Listener) :
    s₀.KeepsGlyphs (hear runScript l) := by
  cases l with
  | tracker key build =>
    refine Ensures.get.bind fun s => ?_
    split
    · rename_i t ht
      split_ifs
      · rintro s₁ a s' ⟨rfl, hs⟩ h
        have hcoherent := hs.trackers (Registry.get?_of_reach? ht)
        exact storeTracker_keepsGlyphs key
          (fun _ _ _ hx => (t.rangeChanged_keepsMarker hx).coherent hcoherent) hs h
      · exact .pure fun _ => And.right
    · exact .pure fun _ => And.right
  | marker key =>
    refine Ensures.get.bind fun s => ?_
    split
    · rename_i m hm
      split_ifs
      · exact (onChart_keepsGlyphs _).weaken fun _ => And.right
      · refine (placeMarker_keepsGlyphs key m).weaken ?_
        rintro _ ⟨rfl, hs⟩
        exact ⟨hs, Registry.get?_of_reach? hm⟩
      · exact .pure fun _ => And.right
    · exact .pure fun _ => And.right
  | script name actions => exact hscript name actions

theorem paintItem_keepsGlyphs (i : Item) : s₀.KeepsGlyphs (paintItem i) := by
  cases i with
  | tracker key build =>
    refine Ensures.get.bind fun s => ?_
    split
    · rename_i t ht
      rintro s₁ a s' ⟨rfl, hs⟩ h
      have hcoherent := hs.trackers (Registry.get?_of_reach? ht)
      exact storeTracker_keepsGlyphs key
        (fun _ _ _ hx => (t.painted_keepsMarker hx).coherent hcoherent) hs h
    · exact .pure fun _ => And.right
  | marker key =>
    refine Ensures.get.bind fun s => ?_
    split
    · rename_i m hm
      split_ifs
      · exact (onChart_keepsGlyphs _).weaken fun _ => And.right
      · refine (paintMarker_keepsGlyphs key m).weaken ?_
        rintro _ ⟨rfl, hs⟩
        exact ⟨hs, Registry.get?_of_reach? hm⟩
      · exact .pure fun _ => And.right
    · exact .pure fun _ => And.right
  | counter key =>
    refine apart_keepsGlyphs fun s => ?_
    split
    · split_ifs <;> exact ⟨rfl, rfl⟩
    · exact ⟨rfl, rfl⟩

/-! ## Trackers -/

theorem changeTracker_keepsGlyphs (name : String)
    {work : Entrance Item Listener → Tracker → ChartM Item Listener Tracker}
    (hwork : ∀ own t, t.marker.Coherent → Yields (·.marker.Coherent) (work own t)) :
    s₀.KeepsGlyphs (changeTracker name work) := by
  intro s reply s' hs hrun
  obtain ⟨key, t, t', c, hfind, hx, rfl⟩ := changeTracker_eq_ok hrun
  have ht' := hwork _ t (hs.trackers (Registry.get?_of_find? hfind)) hx
  exact ⟨hs.sizes, hs.markers, hs.trackers.set key ht'⟩

theorem makeTracker_keepsGlyphs (name symbol : String) (config : OverlayConfig) :
    s₀.KeepsGlyphs (makeTracker name symbol config) := by
  intro s reply s' hs hrun
  obtain ⟨t, c, c', hcreate, rfl, -⟩ := makeTracker_eq_ok hrun
  exact ⟨hs.sizes, hs.markers, hs.trackers.add name (Tracker.create_coherent symbol config hcreate)⟩

theorem dropTracker_keepsGlyphs (name : String) : s₀.KeepsGlyphs (dropTracker name) := by
  intro s reply s' hs hrun
  rcases dropTracker_eq_ok hrun with ⟨-, rfl⟩ | ⟨key, t, t', c, -, -, rfl⟩
  · exact hs
  · exact ⟨hs.sizes, hs.markers, hs.trackers.drop name⟩

theorem makeLineOf_keepsGlyphs (name : String) (size level : Float) (keepAs : Option String) :
    s₀.KeepsGlyphs (makeLineOf name size level keepAs) := by
  intro s reply s' hs hrun
  obtain ⟨_, _, hget, hrun⟩ := bind_eq_ok.mp hrun
  obtain ⟨rfl, rfl⟩ := Prod.mk.inj (Except.ok.inj hget)
  obtain ⟨⟨key, t⟩, _, hknown, hrun⟩ := bind_eq_ok.mp hrun
  obtain ⟨hfind, rfl⟩ := known_eq_ok.mp hknown
  obtain ⟨⟨line, t'⟩, s₁, hmade, hrun⟩ := bind_eq_ok.mp hrun
  obtain ⟨c, hline, rfl⟩ := onChart_eq_ok.mp hmade
  have ht' := (t.positionLine_keepsMarker size level hline).coherent
    (hs.trackers (Registry.get?_of_find? hfind))
  have hstored : s₀.Coheres { s with chart := c, trackers := s.trackers.set key t' } :=
    ⟨hs.sizes, hs.markers, hs.trackers.set key ht'⟩
  cases keepAs with
  | none =>
    obtain ⟨-, rfl⟩ := Prod.mk.inj (Except.ok.inj hrun)
    exact hstored
  | some kept =>
    obtain ⟨-, rfl⟩ := Prod.mk.inj (Except.ok.inj hrun)
    exact hstored.congr rfl rfl

theorem runTracker_keepsGlyphs (name : String) (c : TrackerCommand) :
    s₀.KeepsGlyphs (runTracker name c) := by
  have hcurrent (f : Tracker → Reply) :
      s₀.KeepsGlyphs (runTracker.current name >>= fun t => pure (f t)) :=
    .bind (get_keepsGlyphs.bind fun _ => (known_keepsGlyphs _).bind fun _ => .pure fun _ => id)
      fun _ => .pure fun _ => id
  unfold runTracker
  cases c with
  | make symbol config => exact makeTracker_keepsGlyphs name symbol config
  | drop => exact dropTracker_keepsGlyphs name
  | update avgPrice size =>
    exact changeTracker_keepsGlyphs name fun own t ht _ _ _ h =>
      (t.update_keepsMarker _ h).coherent ht
  | updateLine price size =>
    exact changeTracker_keepsGlyphs name fun own t ht _ _ _ h =>
      (t.updateLine_keepsMarker _ _ h).coherent ht
  | levelMarker size =>
    exact changeTracker_keepsGlyphs name fun own t _ => t.levelMarker_coherent size
  | «show» =>
    exact changeTracker_keepsGlyphs name fun own t ht => .lift fun t' h =>
      (Tracker.show_becomes h).coherent ht
  | hide =>
    exact changeTracker_keepsGlyphs name fun own t ht => .pure ((t.hide_becomes).coherent ht)
  | hideInfo => exact changeTracker_keepsGlyphs name fun own t ht => .pure ht
  | fill f =>
    exact changeTracker_keepsGlyphs name fun own t ht _ _ _ h =>
      (t.recordFill_keepsMarker f h).coherent ht
  | positionLine size level keepAs => exact makeLineOf_keepsGlyphs name size level keepAs
  | _ => exact hcurrent _

/-! ## Free markers -/

theorem markerReply_keepsGlyphs (key : Nat) : s₀.KeepsGlyphs (markerReply key) :=
  get_keepsGlyphs.bind fun _ => (known_keepsGlyphs _).bind fun _ => .pure fun _ => id

/-- What is done with a marker that has been found by its name. -/
theorem found_keepsGlyphs {f : Nat × FreeMarker → SceneM α}
    (hf : ∀ key m, s₀.KeepsGlyphsOf key m (f (key, m))) :
    s₀.KeepsGlyphs (do f (← known ((← get).markers.find? name))) := by
  refine Ensures.get.bind fun s => (known_ensures _).bind fun p => (hf p.1 p.2).weaken ?_
  rintro _ ⟨hfind, rfl, hs⟩
  exact ⟨hs, Registry.get?_of_find? hfind⟩

/-- A marker is replaced by what it has become. -/
theorem replace_keepsGlyphs (hb : m.marker.Becomes m'.marker) :
    s₀.KeepsGlyphsOf key m (do
      modify fun s => { s with markers := s.markers.set key m' }
      markerReply key) :=
  .bind (.modify fun _ hs => hs.1.setMarker hs.2 hb) fun _ => markerReply_keepsGlyphs key

theorem changeMarker_keepsGlyphs (name : String) {f : Marker Nat → Marker Nat}
    (hf : ∀ m : Marker Nat, m.Becomes (f m)) : s₀.KeepsGlyphs (changeMarker name f) :=
  found_keepsGlyphs fun _ m => replace_keepsGlyphs (hf m.marker)

theorem moveMarker_keepsGlyphs (name : String)
    {work : Nat → Marker Nat → ChartM Item Listener (Marker Nat)}
    (hwork : ∀ key (m : Marker Nat), Yields m.Becomes (work key m)) :
    s₀.KeepsGlyphs (moveMarker name work) := by
  refine found_keepsGlyphs fun key m => .bind (onChart_ensures ?_ (hwork key m.marker)) ?_
  · rintro s c ⟨hs, hm⟩
    exact ⟨hs.congr rfl rfl, hm⟩
  · rintro marker s reply s' ⟨hb, hs⟩ h
    exact replace_keepsGlyphs hb hs h

theorem placeNamed_keepsGlyphs (name : String) : s₀.KeepsGlyphs (placeNamed name) :=
  found_keepsGlyphs fun key m =>
    (placeMarker_keepsGlyphs key m).bind fun _ => markerReply_keepsGlyphs key

theorem runMarker_keepsGlyphs (name : String) (c : MarkerCommand) :
    s₀.KeepsGlyphs (runMarker name c) := by
  have hrestyle {f : Marker Nat → Marker Nat} (hf : ∀ m : Marker Nat, m.Becomes (f m)) :
      s₀.KeepsGlyphs (changeMarker name f) :=
    changeMarker_keepsGlyphs name hf
  have hsame (m : Marker Nat) := Marker.Becomes.refl m
  unfold runMarker
  cases c with
  | make arrow price size keepInView =>
    refine (allow_ensures _).bind fun marker => Ensures.get.bind fun s => ?_
    refine .bind (.modify ?_) fun _ => markerReply_keepsGlyphs _
    rintro _ ⟨-, hmake, hs⟩
    exact hs.addMarker (Marker.make_coherent hmake)
  | drop =>
    exact found_keepsGlyphs fun _ _ =>
      .bind (.modify fun _ hs => hs.1.dropMarker) fun _ => .pure fun _ => id
  | live price =>
    exact found_keepsGlyphs fun _ m => replace_keepsGlyphs (.refl m.marker)
  | level level => exact hrestyle fun m => (hsame m).restyled
  | arrow arrow => exact hrestyle fun m => .setArrow m arrow
  | paint =>
    exact found_keepsGlyphs fun key m =>
      (paintMarker_keepsGlyphs key m).bind fun _ => markerReply_keepsGlyphs key
  | «show» => exact hrestyle fun m => (hsame m).restyled
  | hide => exact hrestyle fun m => (hsame m).restyled
  | keep keepInView => exact hrestyle fun m => (hsame m).restyled
  | pen color => exact hrestyle fun m => (hsame m).restyled
  | brush color => exact hrestyle fun m => (hsame m).restyled
  | delete => exact moveMarker_keepsGlyphs name fun _ m => m.withdraw_becomes
  | enter => exact moveMarker_keepsGlyphs name fun key m => m.enter_becomes (Item.marker key)
  | connect =>
    exact moveMarker_keepsGlyphs name fun key m => m.connect_becomes (Listener.marker key)
  | link label =>
    refine found_keepsGlyphs fun _ _ => .weaken ?_ fun _ => And.left
    refine get_keepsGlyphs.bind fun _ => (known_keepsGlyphs _).bind fun _ => ?_
    exact hrestyle fun m => (hsame m).restyled
  | unlink => exact hrestyle fun m => (hsame m).restyled
  | state => exact hrestyle hsame
  | extent =>
    exact found_keepsGlyphs fun _ _ => (allow_ensures _).bind fun _ => .pure fun _ h => h.2.1
  | describe => exact found_keepsGlyphs fun _ _ => .pure fun _ => And.left

/-! ## Labels, lines and counters -/

theorem changeLabel_keepsGlyphs (name : String) (f : Scene → Label Anchor → Label Anchor) :
    s₀.KeepsGlyphs (changeLabel name f) :=
  get_keepsGlyphs.bind fun _ => (known_keepsGlyphs _).bind fun _ =>
    .bind (apart_keepsGlyphs fun _ => ⟨rfl, rfl⟩) fun _ => .pure fun _ => id

theorem runLabel_keepsGlyphs (name : String) (c : LabelCommand) :
    s₀.KeepsGlyphs (runLabel name c) := by
  unfold runLabel
  cases c with
  | make template fields color follows =>
    exact .bind (onChart_keepsGlyphs _) fun _ =>
      .bind (apart_keepsGlyphs fun _ => ⟨rfl, rfl⟩) fun _ => .pure fun _ => id
  | drop =>
    exact get_keepsGlyphs.bind fun _ =>
      .bind (apart_keepsGlyphs fun _ => ⟨rfl, rfl⟩) fun _ => .pure fun _ => id
  | field field =>
    exact get_keepsGlyphs.bind fun _ => (known_keepsGlyphs _).bind fun _ => .pure fun _ => id
  | anchor anchor =>
    exact get_keepsGlyphs.bind fun _ => (known_keepsGlyphs _).bind fun _ =>
      get_keepsGlyphs.bind fun _ => (known_keepsGlyphs _).bind fun _ => changeLabel_keepsGlyphs _ _
  | _ => exact changeLabel_keepsGlyphs _ _

theorem changeLine_keepsGlyphs (name : String) (f : Line → Except Fault Line) :
    s₀.KeepsGlyphs (changeLine name f) :=
  get_keepsGlyphs.bind fun _ => (known_keepsGlyphs _).bind fun _ =>
    (allow_keepsGlyphs _).bind fun _ =>
      .bind (apart_keepsGlyphs fun _ => ⟨rfl, rfl⟩) fun _ => .pure fun _ => id

theorem runLine_keepsGlyphs (name : String) (c : LineCommand) :
    s₀.KeepsGlyphs (runLine name c) := by
  unfold runLine
  cases c with
  | make level color options =>
    exact (onChart_keepsGlyphs _).bind fun _ =>
      .bind (apart_keepsGlyphs fun _ => ⟨rfl, rfl⟩) fun _ => .pure fun _ => id
  | delete =>
    exact get_keepsGlyphs.bind fun _ => (known_keepsGlyphs _).bind fun _ =>
      (onChart_keepsGlyphs _).bind fun _ =>
        .bind (apart_keepsGlyphs fun _ => ⟨rfl, rfl⟩) fun _ => .pure fun _ => id
  | _ => exact changeLine_keepsGlyphs _ _

theorem runCounter_keepsGlyphs (name : String) (c : CounterCommand) :
    s₀.KeepsGlyphs (runCounter name c) := by
  unfold runCounter
  cases c with
  | make visible =>
    exact get_keepsGlyphs.bind fun _ => (onChart_keepsGlyphs _).bind fun _ =>
      .bind (apart_keepsGlyphs fun _ => ⟨rfl, rfl⟩) fun _ => .pure fun _ => id
  | setVisible visible =>
    exact get_keepsGlyphs.bind fun _ => (known_keepsGlyphs _).bind fun _ =>
      .bind (apart_keepsGlyphs fun _ => ⟨rfl, rfl⟩) fun _ => .pure fun _ => id
  | drop =>
    exact get_keepsGlyphs.bind fun _ =>
      .bind (apart_keepsGlyphs fun _ => ⟨rfl, rfl⟩) fun _ => .pure fun _ => id

/-! ## Commands -/

section Scripts

variable {runScript : String → List (String × Command) → SceneM Unit}
  (hscript : ∀ name actions, s₀.KeepsGlyphs (runScript name actions))

include hscript

theorem setView_keepsGlyphs (f : View → View) : s₀.KeepsGlyphs (setView runScript f) :=
  .bind (apart_keepsGlyphs fun _ => ⟨rfl, rfl⟩) fun _ => (onChart_keepsGlyphs _).bind fun _ =>
    .bind (.forM fun e _ => hear_keepsGlyphs hscript e.2) fun _ => onChart_keepsGlyphs _

theorem runTick_keepsGlyphs (t : Tick) : s₀.KeepsGlyphs (runTick runScript t) := by
  have hdump : s₀.KeepsGlyphs (do return Reply.dump (← get).dump) :=
    get_keepsGlyphs.bind fun _ => .pure fun _ => id
  cases t with
  | range yMin yMax => exact (setView_keepsGlyphs hscript _).bind fun _ => hdump
  | height y => exact (setView_keepsGlyphs hscript _).bind fun _ => hdump
  | paint =>
    have hpaint : s₀.KeepsGlyphs paint :=
      get_keepsGlyphs.bind fun _ => .forM fun e _ => paintItem_keepsGlyphs e.2
    exact hpaint.bind fun _ => hdump
  | place marker => exact placeNamed_keepsGlyphs marker

theorem runWith_keepsGlyphs (c : Command) : s₀.KeepsGlyphs (runWith runScript c) := by
  have hquiet (x : ChartM Item Listener Unit) (reply : Reply) :
      s₀.KeepsGlyphs (do onChart x; return reply) :=
    (onChart_keepsGlyphs x).bind fun _ => .pure fun _ => id
  cases c with
  | tick t => exact runTick_keepsGlyphs hscript t
  | hold h t =>
    exact get_keepsGlyphs.bind fun _ => .bind (.modify fun _ hs => hs.changeHolders _ _) fun _ =>
      (runTick_keepsGlyphs hscript t).bind fun _ =>
        .bind (.modify fun _ hs => hs.changeHolders _ _) fun _ =>
          get_keepsGlyphs.bind fun _ => .pure fun _ => id
  | dump => exact get_keepsGlyphs.bind fun _ => .pure fun _ => id
  | map p => exact get_keepsGlyphs.bind fun _ => .pure fun _ => id
  | range => exact get_keepsGlyphs.bind fun _ => .pure fun _ => id
  | removeItem id => exact hquiet _ _
  | subscribe name actions =>
    exact (onChart_keepsGlyphs _).bind fun _ =>
      .bind (apart_keepsGlyphs fun _ => ⟨rfl, rfl⟩) fun _ => .pure fun _ => id
  | unsubscribe name =>
    exact get_keepsGlyphs.bind fun _ => (known_keepsGlyphs _).bind fun _ => hquiet _ _
  | unsubscribeId id => exact hquiet _ _
  | tracker name c => exact runTracker_keepsGlyphs name c
  | marker name c => exact runMarker_keepsGlyphs name c
  | label name c => exact runLabel_keepsGlyphs name c
  | line name c => exact runLine_keepsGlyphs name c
  | counter name c => exact runCounter_keepsGlyphs name c
  | unknown => exact fun _ _ _ _ h => nomatch h

end Scripts

/-! ## Moments -/

theorem Coheres.after (h : s₀.Coheres s) {x : SceneM α} (hx : s₀.KeepsGlyphs x) :
    s₀.Coheres (s.after x) := by
  unfold Scene.after
  rcases hrun : x s with e | ⟨a, s'⟩
  · exact h
  · exact hx h hrun

theorem coheres_lasting (s₀ : Scene) : Lasting s₀.Coheres where
  chart _ _ h := h.congr rfl rfl
  recorded _ _ h := h.congr rfl rfl
  changeHolders _ g f h := h.changeHolders g f
  hear _ l h := h.after (hear_keepsGlyphs (fun _ _ => .pure fun _ => id) l)
  paintItem _ i h := h.after (paintItem_keepsGlyphs i)
  obey s c h := by
    rw [obey, attempt_snd]
    exact h.after (runWith_keepsGlyphs (fun _ _ => .pure fun _ => id) c)

theorem moment_coheres (view : View) (cs : List Command) (n : Nat) :
    (empty view).Coheres ((empty view).moment cs n).scene :=
  (coheres_lasting _).later (m := ⟨[.commands cs], empty view⟩) (coheres_empty view) n

/-- A later moment of a run, seen from an earlier one. -/
theorem moment_coheres_add (view : View) (cs : List Command) (i n : Nat) :
    ((empty view).moment cs i).scene.Coheres ((empty view).moment cs (i + n)).scene := by
  have hnow := moment_coheres view cs i
  have hstart : ((empty view).moment cs i).scene.Coheres ((empty view).moment cs i).scene :=
    ⟨.refl _ _, hnow.markers, hnow.trackers⟩
  have hmoment : (empty view).moment cs (i + n) = ((empty view).moment cs i).later n := by
    rw [moment, Nat.add_comm, Moment.later_add]
    rfl
  rw [hmoment]
  exact (coheres_lasting _).later hstart n

/-- Whatever is done, at every moment of the run and for every marker, live or not, what the marker
keeps of its glyph agrees with its arrow, its size and its place, and its extent is that of its
arrow at its size. A free marker that is there at some moment is there at all later ones with that
size. -/
theorem glyphs_coherent (view : View) (cs : List Command) (i n : Nat) :
    let s := ((empty view).moment cs i).scene
    let s' := ((empty view).moment cs (i + n)).scene
    (∃ last, (empty view).moment cs last = ⟨[], (empty view).runAll cs⟩) ∧
      (∀ key m, s.markers.get? key = some m → ∃ m', s'.markers.get? key = some m' ∧
        m'.marker.size = m.marker.size ∧ m'.marker.Coherent ∧
        m'.marker.extent =
          m'.marker.arrow.elim (.error .noGlyph) fun a => .ok (a.extent m.marker.size)) ∧
      ∀ key t, s'.trackers.get? key = some t → t.marker.Coherent ∧
        t.marker.extent =
          t.marker.arrow.elim (.error .noGlyph) fun a => .ok (a.extent t.marker.size) := by
  intro s s'
  have h : s.Coheres s' := moment_coheres_add view cs i n
  refine ⟨exists_later cs (empty view), fun key m hm => ?_, fun key t ht => ?_⟩
  · obtain ⟨m', hm', hsize⟩ := Option.map_eq_some_iff.mp (h.sizes hm)
    have hcoherent : m'.marker.Coherent := h.markers hm'
    have hextent := hcoherent.extent_eq
    rw [show m'.marker.size = m.marker.size from hsize] at hextent
    exact ⟨m', hm', hsize, hcoherent, hextent⟩
  · have hcoherent := h.trackers ht
    exact ⟨hcoherent, hcoherent.extent_eq⟩

/-- A marker without a glyph is placed, gets an arrow from a script while the view changes, and then
another one. -/
theorem glyphs_coherent_restyled :
    let script := [("arrow", .marker "M" (.arrow .up)), ("paint", .tick .paint)]
    let commands := [.marker "M" (.make none 50.0 22.0 true), .marker "M" .connect,
      .tracker "A" (.make "BTC" .standard), .subscribe "B" script, .tick (.range 0.0 400.0),
      .tracker "A" (.update 50.0 (-2.0)), .marker "M" (.arrow .down), .marker "M" .delete]
    let last := (empty .standard).moment commands (1 + 22)
    last.tasks.isEmpty = true ∧ ∃ m m' t,
      ((empty .standard).moment commands 1).scene.markers.get? 0 = some m ∧
      m.marker.hasGlyph = false ∧ last.scene.markers.get? 0 = some m' ∧
      m'.marker.extent = .ok (Arrow.down.extent m.marker.size) ∧ m'.marker.Coherent ∧
      last.scene.trackers.get? 0 = some t ∧ t.marker.Coherent := by
  intro script commands last
  have hstart : (((empty .standard).moment commands 1).scene.markers.get? 0).any
      (fun m => !m.marker.hasGlyph) = true := by decide +kernel
  have hend : last.tasks.isEmpty = true ∧ (last.scene.markers.get? 0).any
      (fun m => m.marker.arrow == some .down) = true ∧
      (last.scene.trackers.get? 0).isSome = true := by decide +kernel
  obtain ⟨m, hm, hblank⟩ := (Option.any_eq_true _ _).mp hstart
  obtain ⟨m', hm', harrow⟩ := (Option.any_eq_true _ _).mp hend.2.1
  obtain ⟨t, ht⟩ := Option.isSome_iff_exists.mp hend.2.2
  have hlastMoment : (empty .standard).moment commands (1 + 22) = last := rfl
  obtain ⟨-, hmarkers, htrackers⟩ := glyphs_coherent .standard commands 1 22
  simp only [hlastMoment] at hmarkers htrackers
  obtain ⟨m'', hfound, -, hcoherent, hextent⟩ := hmarkers 0 m hm
  obtain rfl := Option.some.inj (hm'.symm.trans hfound)
  rw [eq_of_beq harrow] at hextent
  exact ⟨hend.1, m, m', t, hm, by simpa using hblank, hm', hextent, hcoherent, ht,
    (htrackers 0 t ht).1⟩

end Scene

end PositionOverlay
