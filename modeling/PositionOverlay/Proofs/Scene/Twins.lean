import PositionOverlay.Proofs.Scene.Commands
import PositionOverlay.Proofs.Scene.Registry
import PositionOverlay.Proofs.Tracker.Likeness

/-! # Scenes that differ in the links of a deleted marker

To which labels a deleted marker is linked makes no difference to anything that happens later,
unless the marker itself is restyled or put in its place by name: two scenes that differ in nothing
else come to the same by any other command, by any call of a listener and by any painted item. The
marker stays where it is.
-/
namespace PositionOverlay

/-- Changes that leave a deleted marker where it is, and do not look at its links. -/
structure Marker.Unmoving (f : Marker Nat → Marker Nat) : Prop where
  deleted : ∀ m, m.deleted = true → (f m).deleted = true
  pos : ∀ m, (f m).pos = m.pos
  placement : ∀ m, (f m).placement = m.placement
  links : ∀ m links, ∃ links', f (m.relink links) = (f m).relink links'

namespace Scene

open Work

/-- The marker with other links. -/
def FreeMarker.relink (m : FreeMarker) (links : List Nat) : FreeMarker :=
  { m with marker := m.marker.relink links }

/-- A deleted marker and where it was left. -/
structure Remains where
  key : Nat
  pos : Point
  placement : Placement

/-- The deleted marker has not moved, and may have other links in the second scene. Any other marker
is the same in both. -/
def Remains.Fits (g : Remains) (k : Nat) (m m' : FreeMarker) : Prop :=
  if k = g.key then
    m.marker.deleted = true ∧ m.marker.pos = g.pos ∧ m.marker.placement = g.placement ∧
      ∃ links, m' = m.relink links
  else m' = m

/-- Scenes that differ in the links of a deleted marker, and perhaps in what was recorded. -/
def Twins (g : Remains) (s s' : Scene) : Prop :=
  g.key < s.markers.nextKey ∧ ∃ markers firings, s' = { s with markers, firings } ∧
    s.markers.Alike g.Fits markers

variable {g : Remains} {k key : Nat} {m m' : FreeMarker} {s s' : Scene} {α β : Type}
  {name : String}

namespace Remains.Fits

theorem of_ne (hk : k ≠ g.key) (m : FreeMarker) : g.Fits k m m := by
  rw [Fits, if_neg hk]

theorem eq_of_ne (h : g.Fits k m m') (hk : k ≠ g.key) : m' = m := by
  rwa [Fits, if_neg hk] at h

theorem exists_relink (h : g.Fits k m m') : ∃ links, m' = m.relink links := by
  unfold Fits at h
  split_ifs at h
  · exact h.2.2.2
  · exact ⟨m.marker.links, h⟩

theorem placement (h : g.Fits k m m') : m'.marker.placement = m.marker.placement := by
  obtain ⟨links, rfl⟩ := h.exists_relink
  rfl

theorem isHeld (h : g.Fits k m m') : m'.marker.isHeld = m.marker.isHeld := by
  obtain ⟨links, rfl⟩ := h.exists_relink
  rfl

theorem visible (h : g.Fits k m m') : m'.marker.visible = m.marker.visible := by
  obtain ⟨links, rfl⟩ := h.exists_relink
  rfl

theorem isLive (h : g.Fits k m m') : m'.marker.isLive = m.marker.isLive := by
  obtain ⟨links, rfl⟩ := h.exists_relink
  rfl

/-- A marker that is live is not the deleted one. -/
theorem eq_of_isLive (h : g.Fits k m m') (hlive : m.marker.isLive = true) :
    k ≠ g.key ∧ m' = m := by
  unfold Fits at h
  split_ifs at h with hk
  · simp [Marker.isLive, h.1] at hlive
  · exact ⟨hk, h⟩

theorem change {f : Marker Nat → Marker Nat} (h : g.Fits k m m') (hf : Marker.Unmoving f) :
    g.Fits k { m with marker := f m.marker } { m' with marker := f m'.marker } := by
  unfold Fits at h ⊢
  split_ifs at h ⊢ with hk
  · obtain ⟨hdeleted, hpos, hplacement, links, rfl⟩ := h
    obtain ⟨links', hlinks⟩ := hf.links m.marker links
    refine ⟨hf.deleted _ hdeleted, (hf.pos _).trans hpos, (hf.placement _).trans hplacement,
      links', ?_⟩
    exact congrArg (fun marker => { m with marker }) hlinks
  · rw [h]

theorem reprice (h : g.Fits k m m') (price : Float) :
    g.Fits k { m with price } { m' with price } := by
  unfold Fits at h ⊢
  split_ifs at h ⊢ with hk
  · obtain ⟨hdeleted, hpos, hplacement, links, rfl⟩ := h
    exact ⟨hdeleted, hpos, hplacement, links, rfl⟩
  · rw [h]

end Remains.Fits

namespace Twins

theorem place (h : Twins g s s') : s'.place = s.place := by
  obtain ⟨-, markers, firings, rfl, hmarkers⟩ := h
  funext rule size
  cases rule with
  | beside key pin =>
    have hkey := hmarkers.get? key
    simp only [Scene.place]
    generalize s.markers.get? key = x, markers.get? key = x' at hkey ⊢
    cases hkey with
    | none => rfl
    | some hm => simp only [hm.placement]
  | _ => rfl

theorem marker? (h : Twins g s s') (key : Nat) :
    Option.Rel (g.Fits key) (s.marker? key) (s'.marker? key) := by
  obtain ⟨-, markers, firings, rfl, hmarkers⟩ := h
  exact hmarkers.reach? fun _ _ hm => hm.isHeld

theorem find? (h : Twins g s s') (name : String) :
    Option.Rel (fun p p' => p'.1 = p.1 ∧ g.Fits p.1 p.2 p'.2) (s.markers.find? name)
      (s'.markers.find? name) := by
  obtain ⟨-, markers, firings, rfl, hmarkers⟩ := h
  exact hmarkers.find? name

theorem setMarker (h : Twins g s s') (hm : g.Fits k m m') :
    Twins g { s with markers := s.markers.set k m } { s' with markers := s'.markers.set k m' } := by
  obtain ⟨hkey, markers, firings, rfl, hmarkers⟩ := h
  exact ⟨by rwa [Registry.nextKey_set], _, firings, rfl, hmarkers.set hm⟩

theorem addMarker (h : Twins g s s') (name : String) (m : FreeMarker) :
    Twins g { s with markers := s.markers.add name m }
      { s' with markers := s'.markers.add name m } := by
  obtain ⟨hkey, markers, firings, rfl, hmarkers⟩ := h
  have hfresh : s.markers.nextKey ≠ g.key := Nat.ne_of_gt hkey
  refine ⟨?_, _, firings, rfl, hmarkers.add name (.of_ne hfresh m)⟩
  rw [Registry.nextKey_add]
  exact Nat.lt_succ_of_lt hkey

theorem dropMarker (h : Twins g s s') (name : String) :
    Twins g { s with markers := s.markers.drop name }
      { s' with markers := s'.markers.drop name } := by
  obtain ⟨hkey, markers, firings, rfl, hmarkers⟩ := h
  exact ⟨by rwa [Registry.nextKey_drop], _, firings, rfl, hmarkers.drop name⟩

theorem gripOf (h : Twins g s s') (holdings : Holdings) :
    s'.gripOf holdings = s.gripOf holdings := by
  obtain ⟨-, markers, firings, rfl, hmarkers⟩ := h
  simp only [Scene.gripOf, hmarkers.keysOf]

theorem changeHolders (h : Twins g s s') (grip : Grip) (f : Nat → Nat) :
    Twins g (changeHolders grip f s) (changeHolders grip f s') := by
  obtain ⟨hkey, markers, firings, rfl, hmarkers⟩ := h
  have hf : Marker.Unmoving fun m => { m with holders := f m.holders } :=
    ⟨fun _ => id, fun _ => rfl, fun _ => rfl, fun _ links => ⟨links, rfl⟩⟩
  exact ⟨by rwa [Scene.changeHolders, Registry.nextKey_modify], _, firings, rfl,
    hmarkers.modify _ fun _ _ _ hm => hm.change hf⟩

end Twins

/-! ## Work that comes to the same -/

/-- Work that comes to the same in both scenes. -/
abbrev Unswayed (g : Remains) (x : SceneM α) (Q : α → α → Prop) : Prop :=
  Together (Twins g) x x Q

variable {Q : α → α → Prop} {S : β → β → Prop}

/-- Work that looks at anything but the markers. -/
theorem reads {f : Scene → SceneM β}
    (hf : ∀ s markers firings, f { s with markers, firings } = f s)
    (h : ∀ s, Unswayed g (f s) S) : Unswayed g (get >>= f) S := by
  refine Together.get.bind fun s s' hs => ?_
  obtain ⟨-, markers, firings, rfl, -⟩ := hs
  rw [hf s markers firings]
  exact h s

/-- Changes of anything but the markers. -/
theorem edits {f : Scene → Scene} (hmarkers : ∀ s, (f s).markers = s.markers)
    (hf : ∀ s markers firings,
      f { s with markers, firings } = { f s with markers := markers, firings := firings }) :
    Unswayed g (modify f) Eq := by
  refine .modify fun s s' hs => ?_
  obtain ⟨hkey, markers, firings, rfl, hs⟩ := hs
  exact ⟨by rwa [hmarkers], markers, firings, hf s markers firings, by rwa [hmarkers]⟩

theorem onChart_unswayed (x : ChartM Item Listener α) : Unswayed g (onChart x) Eq := by
  rintro s _ ⟨hkey, markers, firings, rfl, hmarkers⟩
  unfold onChart
  dsimp only
  rcases x s.chart with f | ⟨a, c⟩
  · exact trivial
  · exact ⟨rfl, hkey, markers, firings, rfl, hmarkers⟩

theorem allow_unswayed (x : Except Fault α) : Unswayed g (allow x) Eq := by
  cases x with
  | ok a => exact .pure rfl
  | error f => exact .throw _ _

theorem known_together {x x' : Option α} (h : Option.Rel Q x x') :
    Together (Twins g) (known x) (known x') Q := by
  cases h with
  | none => exact .throw _ _
  | some h => exact .pure h

theorem known_unswayed (x : Option α) : Unswayed g (known x) Eq := by
  cases x with
  | none => exact .throw _ _
  | some a => exact .pure rfl

theorem setMarker_together (h : g.Fits k m m') :
    Together (Twins g) (modify fun s => { s with markers := s.markers.set k m } : SceneM PUnit)
      (modify fun s => { s with markers := s.markers.set k m' }) Eq :=
  .modify fun _ _ hs => hs.setMarker h

theorem reanchorLabel_unswayed (key : Nat) : Unswayed g (reanchorLabel key) Eq := by
  refine reads (fun _ _ _ => rfl) fun s => ?_
  split
  · exact .pure rfl
  · split_ifs
    · exact onChart_unswayed _
    · refine .modify fun s s' hs => ?_
      rw [hs.place]
      obtain ⟨hkey, markers, firings, rfl, hmarkers⟩ := hs
      exact ⟨hkey, markers, firings, rfl, hmarkers⟩

theorem settle_unswayed (hk : key ≠ g.key) (m : FreeMarker) : Unswayed g (settle key m) Eq :=
  (setMarker_together (.of_ne hk m)).chain fun _ => .forM reanchorLabel_unswayed

theorem placeMarker_unswayed (hk : key ≠ g.key) (m : FreeMarker) :
    Unswayed g (placeMarker key m) Eq :=
  reads (fun _ _ _ => rfl) fun _ => (allow_unswayed _).chain fun _ => settle_unswayed hk _

/-- The deleted marker is not live, so painting it does nothing. -/
theorem paintMarker_together (h : g.Fits key m m') :
    Together (Twins g) (paintMarker key m) (paintMarker key m') Eq := by
  unfold paintMarker
  rw [h.isLive]
  split_ifs with hlive
  · obtain ⟨hk, rfl⟩ := h.eq_of_isLive hlive
    exact reads (fun _ _ _ => rfl) fun _ => (allow_unswayed _).chain fun _ => settle_unswayed hk _
  · exact .pure rfl

theorem setTracker_unswayed (key : Nat) (t : Tracker) : Unswayed g (setTracker key t) Eq :=
  edits (fun _ => rfl) fun _ _ _ => rfl

/-- Nor does it do anything when it hears of a range change. -/
theorem hear_unswayed (l : Listener) (runScript : String → List (String × Command) → SceneM Unit)
    (hscript : ∀ name actions, Unswayed g (runScript name actions) Eq) :
    Unswayed g (hear runScript l) Eq := by
  cases l with
  | tracker key build =>
    refine reads (fun _ _ _ => rfl) fun s => ?_
    split
    · split_ifs
      · exact (onChart_unswayed _).chain fun _ => setTracker_unswayed _ _
      · exact .pure rfl
    · exact .pure rfl
  | marker key =>
    refine Together.get.bind fun s s' hs => ?_
    have hmarker := hs.marker? key
    generalize s.marker? key = x, s'.marker? key = x' at hmarker ⊢
    cases hmarker with
    | none => exact .pure rfl
    | some hm =>
      dsimp only
      rw [hm.isHeld, hm.isLive]
      split_ifs with hheld hlive
      · exact onChart_unswayed _
      · obtain ⟨hk, rfl⟩ := hm.eq_of_isLive hlive
        exact placeMarker_unswayed hk _
      · exact .pure rfl
  | script name actions => exact hscript name actions

theorem paintItem_unswayed (i : Item) : Unswayed g (paintItem i) Eq := by
  cases i with
  | tracker key build =>
    refine reads (fun _ _ _ => rfl) fun s => ?_
    split
    · exact (onChart_unswayed _).chain fun _ => setTracker_unswayed _ _
    · exact .pure rfl
  | marker key =>
    refine Together.get.bind fun s s' hs => ?_
    have hmarker := hs.marker? key
    generalize s.marker? key = x, s'.marker? key = x' at hmarker ⊢
    cases hmarker with
    | none => exact .pure rfl
    | some hm =>
      dsimp only
      rw [hm.isHeld, hm.visible]
      split_ifs
      · exact onChart_unswayed _
      · exact paintMarker_together hm
      · exact .pure rfl
  | counter key =>
    refine edits (fun s => ?_) fun s markers firings => ?_
    · split
      · split_ifs <;> rfl
      · rfl
    · dsimp only
      split
      · split_ifs <;> rfl
      · rfl

/-! ## Commands to trackers -/

/-- Work whose last result does not count. -/
abbrev Impartial (g : Remains) (x : SceneM α) : Prop := Unswayed g x fun _ _ => True

theorem changeTracker_impartial (name : String)
    (work : Entrance Item Listener → Tracker → ChartM Item Listener Tracker) :
    Impartial g (changeTracker name work) :=
  reads (fun _ _ _ => rfl) fun _ => (known_unswayed _).chain fun _ =>
    (onChart_unswayed _).chain fun _ => (setTracker_unswayed _ _).chain fun _ => .pure trivial

theorem retire_unswayed (t : Tracker) : Unswayed g (retire t) Eq :=
  (onChart_unswayed _).chain fun _ => .pure rfl

theorem makeTracker_impartial (name symbol : String) (config : OverlayConfig) :
    Impartial g (makeTracker name symbol config) := by
  refine reads (fun _ _ _ => rfl) fun s => .chain (onChart_unswayed _) fun t =>
    .chain (edits (fun _ => rfl) fun _ _ _ => rfl) fun _ => ?_
  dsimp only
  split
  · exact .chain (retire_unswayed _) fun _ => .pure trivial
  · exact .pure trivial

theorem dropTracker_impartial (name : String) : Impartial g (dropTracker name) := by
  refine reads (fun _ _ _ => rfl) fun s => ?_
  split
  · exact .pure trivial
  · exact .chain (edits (fun _ => rfl) fun _ _ _ => rfl) fun _ =>
      .chain (retire_unswayed _) fun _ => .pure trivial

theorem makeLineOf_impartial (name : String) (size level : Float) (keepAs : Option String) :
    Impartial g (makeLineOf name size level keepAs) := by
  refine reads (fun _ _ _ => rfl) fun s => (known_unswayed _).chain fun found =>
    (onChart_unswayed _).chain fun made => (setTracker_unswayed _ _).chain fun _ => ?_
  dsimp only
  split
  · exact .chain (edits (fun _ => rfl) fun _ _ _ => rfl) fun _ => .pure trivial
  · exact .pure trivial

theorem current_unswayed (name : String) : Unswayed g (runTracker.current name) Eq :=
  reads (fun _ _ _ => rfl) fun _ => (known_unswayed _).chain fun _ => .pure rfl

theorem runTracker_impartial (name : String) (c : TrackerCommand) :
    Impartial g (runTracker name c) := by
  unfold runTracker
  cases c with
  | make symbol config => exact makeTracker_impartial _ _ _
  | drop => exact dropTracker_impartial _
  | positionLine size level keepAs => exact makeLineOf_impartial _ _ _ _
  | snapshot => exact (current_unswayed name).chain fun _ => .pure trivial
  | level => exact (current_unswayed name).chain fun _ => .pure trivial
  | align => exact (current_unswayed name).chain fun _ => .pure trivial
  | info => exact (current_unswayed name).chain fun _ => .pure trivial
  | marker => exact (current_unswayed name).chain fun _ => .pure trivial
  | labels => exact (current_unswayed name).chain fun _ => .pure trivial
  | line => exact (current_unswayed name).chain fun _ => .pure trivial
  | _ => exact changeTracker_impartial _ _

/-! ## Commands to markers -/

theorem markerReply_impartial (key : Nat) : Impartial g (markerReply key) := by
  refine Together.get.bind fun s s' hs => ?_
  obtain ⟨-, markers, firings, rfl, hmarkers⟩ := hs
  exact (known_together (hmarkers.get? key)).bind fun _ _ _ => .pure trivial

/-- A marker that is found by its name. -/
theorem found_together (name : String) {f f' : Nat × FreeMarker → SceneM β}
    (h : ∀ (k : Nat) (m m' : FreeMarker), g.Fits k m m' →
      Together (Twins g) (f (k, m)) (f' (k, m')) S) :
    Together (Twins g) (do f (← known ((← get).markers.find? name)))
      (do f' (← known ((← get).markers.find? name))) S := by
  refine Together.get.bind fun s s' hs => ?_
  refine (known_together (hs.find? name)).bind ?_
  rintro ⟨_, m⟩ ⟨k, m'⟩ ⟨rfl, hm⟩
  exact h k m m' hm

theorem changeMarker_impartial (name : String) {f : Marker Nat → Marker Nat}
    (hf : Marker.Unmoving f) : Impartial g (changeMarker name f) :=
  found_together name fun _ _ _ hm => (setMarker_together (hm.change hf)).chain fun _ =>
    markerReply_impartial _

/-- Work on a marker and its chart in which its links play no part, and that does not move it. -/
def IgnoresLinks (work : Nat → Marker Nat → ChartM Item Listener (Marker Nat)) : Prop :=
  ∀ (key : Nat) (m : Marker Nat) (c : Chart Item Listener), ∃ f c', Marker.Unmoving f ∧
    ∀ links, work key (m.relink links) c = .ok (f (m.relink links), c')

theorem ignoresLinks_withdraw : IgnoresLinks fun _ m => m.withdraw := by
  intro key m c
  have hdelete : Marker.Unmoving Marker.delete :=
    ⟨fun _ _ => rfl, fun _ => rfl, fun _ => rfl, fun _ links => ⟨links, rfl⟩⟩
  obtain ⟨c', hrun, -⟩ := m.withdraw_eq c
  refine ⟨Marker.delete, c', hdelete, fun links => ?_⟩
  have hlinks : (m.relink links).withdraw c =
      (m.withdraw c).map fun p => (p.1.relink links, p.2) := by
    simp only [Marker.withdraw, Marker.relink]
    cases m.item <;> cases m.subscription <;> rfl
  refine hlinks.trans ?_
  rw [hrun]
  rfl

theorem ignoresLinks_enter : IgnoresLinks fun key m => m.enter (.marker key) :=
  fun _ _ c => ⟨fun m => { m with item := some c.nextId }, _,
    ⟨fun _ => id, fun _ => rfl, fun _ => rfl, fun _ links => ⟨links, rfl⟩⟩, fun _ => rfl⟩

theorem ignoresLinks_connect : IgnoresLinks fun key m => m.connect (.marker key) := by
  intro key m c
  by_cases hsubscribed : m.subscription.isSome = true
  · refine ⟨id, c, ⟨fun _ => id, fun _ => rfl, fun _ => rfl, fun _ links => ⟨links, rfl⟩⟩,
      fun links => ?_⟩
    dsimp only
    unfold Marker.connect
    rw [if_pos (show (m.relink links).subscription.isSome = true from hsubscribed)]
    rfl
  · refine ⟨fun m => { m with subscription := some c.nextId }, (c.subscribe (.marker key)).2,
      ⟨fun _ => id, fun _ => rfl, fun _ => rfl, fun _ links => ⟨links, rfl⟩⟩, fun links => ?_⟩
    dsimp only
    unfold Marker.connect
    rw [if_neg (show ¬ (m.relink links).subscription.isSome = true from hsubscribed)]
    rfl

theorem moveMarker_impartial (name : String)
    {work : Nat → Marker Nat → ChartM Item Listener (Marker Nat)} (hwork : IgnoresLinks work) :
    Impartial g (moveMarker name work) := by
  refine found_together name fun key m m' hm => ?_
  have hmoved : Together (Twins g) (onChart (work key m.marker)) (onChart (work key m'.marker))
      fun a a' => g.Fits key { m with marker := a } { m' with marker := a' } := by
    rintro s _ ⟨hkey, markers, firings, rfl, hmarkers⟩
    obtain ⟨f, c, hf, hrun⟩ := hwork key m.marker s.chart
    obtain ⟨links, rfl⟩ := hm.exists_relink
    have hfirst : work key m.marker s.chart = .ok (f m.marker, c) := hrun m.marker.links
    unfold onChart
    dsimp only [FreeMarker.relink]
    rw [hfirst, hrun links]
    exact ⟨hm.change hf, hkey, markers, firings, rfl, hmarkers⟩
  exact hmoved.bind fun a a' ha => (setMarker_together ha).chain fun _ => markerReply_impartial _

theorem runMarker_impartial (name : String) {c : MarkerCommand} (hc : ∀ arrow, c ≠ .arrow arrow) :
    Impartial g (runMarker name c) := by
  unfold runMarker
  cases c with
  | make arrow price size keepInView =>
    refine .chain (allow_unswayed _) fun marker => Together.get.bind fun s s' hs => ?_
    have hkey : s'.markers.nextKey = s.markers.nextKey := by
      obtain ⟨-, markers, firings, rfl, hmarkers⟩ := hs
      exact hmarkers.nextKey
    rw [hkey]
    exact .chain (.modify fun s s' hs => hs.addMarker name _) fun _ => markerReply_impartial _
  | drop =>
    exact found_together name fun _ _ _ _ =>
      .chain (.modify fun s s' hs => hs.dropMarker name) fun _ => .pure trivial
  | live price =>
    exact found_together name fun _ _ _ hm =>
      (setMarker_together (hm.reprice price)).chain fun _ => markerReply_impartial _
  | arrow a => exact absurd rfl (hc a)
  | paint =>
    exact found_together name fun _ _ _ hm =>
      (paintMarker_together hm).chain fun _ => markerReply_impartial _
  | delete => exact moveMarker_impartial name ignoresLinks_withdraw
  | enter => exact moveMarker_impartial name ignoresLinks_enter
  | connect => exact moveMarker_impartial name ignoresLinks_connect
  | link label =>
    refine found_together name fun _ _ _ _ => reads (fun _ _ _ => rfl) fun _ =>
      (known_unswayed _).chain fun _ => changeMarker_impartial name ?_
    exact ⟨fun _ => id, fun _ => rfl, fun _ => rfl, fun _ links => ⟨_, rfl⟩⟩
  | unlink =>
    exact changeMarker_impartial name
      ⟨fun _ => id, fun _ => rfl, fun _ => rfl, fun _ links => ⟨[], rfl⟩⟩
  | extent =>
    refine found_together name fun _ m m' hm => ?_
    obtain ⟨links, rfl⟩ := hm.exists_relink
    exact .chain (allow_unswayed _) fun _ => .pure trivial
  | describe => exact found_together name fun _ _ _ _ => .pure trivial
  | _ =>
    exact changeMarker_impartial name
      ⟨fun _ => id, fun _ => rfl, fun _ => rfl, fun _ links => ⟨links, rfl⟩⟩

/-! ## Other commands -/

theorem changeLabel_impartial (name : String) {f : Scene → Label Anchor → Label Anchor}
    (hf : ∀ s s', Twins g s s' → f s' = f s) : Impartial g (changeLabel name f) := by
  refine Together.get.bind fun s s' hs => ?_
  rw [hf s s' hs]
  obtain ⟨-, markers, firings, rfl, -⟩ := hs
  exact .chain (known_unswayed _) fun _ => .chain (edits (fun _ => rfl) fun _ _ _ => rfl) fun _ =>
    .pure trivial

theorem Twins.anchorOf (h : Twins g s s') (anchor : AnchorCommand) :
    s'.anchorOf anchor = s.anchorOf anchor := by
  cases anchor with
  | beside marker pin =>
    have hfound := h.find? marker
    simp only [Scene.anchorOf]
    generalize s.markers.find? marker = x, s'.markers.find? marker = x' at hfound ⊢
    cases hfound with
    | none => rfl
    | some hp => simp [hp.1]
  | _ =>
    obtain ⟨-, markers, firings, rfl, -⟩ := h
    rfl

theorem runLabel_impartial (name : String) (c : LabelCommand) : Impartial g (runLabel name c) := by
  unfold runLabel
  cases c with
  | make template fields color follows =>
    exact .chain (onChart_unswayed _) fun _ => .chain (edits (fun _ => rfl) fun _ _ _ => rfl)
      fun _ => .pure trivial
  | drop =>
    exact reads (fun _ _ _ => rfl) fun _ => .chain (edits (fun _ => rfl) fun _ _ _ => rfl)
      fun _ => .pure trivial
  | field field =>
    exact reads (fun _ _ _ => rfl) fun _ => .chain (known_unswayed _) fun _ => .pure trivial
  | render => exact changeLabel_impartial name fun s s' hs => by rw [hs.place]
  | update => exact changeLabel_impartial name fun s s' hs => by rw [hs.place]
  | anchor anchor =>
    refine reads (fun _ _ _ => rfl) fun _ => .chain (known_unswayed _) fun _ =>
      Together.get.bind fun s s' hs => ?_
    rw [hs.anchorOf]
    exact .chain (known_unswayed _) fun _ => changeLabel_impartial name fun _ _ _ => rfl
  | _ => exact changeLabel_impartial name fun _ _ _ => rfl

theorem changeLine_impartial (name : String) (f : Line → Except Fault Line) :
    Impartial g (changeLine name f) :=
  reads (fun _ _ _ => rfl) fun _ => .chain (known_unswayed _) fun _ =>
    .chain (allow_unswayed _) fun _ => .chain (edits (fun _ => rfl) fun _ _ _ => rfl) fun _ =>
      .pure trivial

theorem runLine_impartial (name : String) (c : LineCommand) : Impartial g (runLine name c) := by
  unfold runLine
  cases c with
  | make level color options =>
    exact .chain (onChart_unswayed _) fun _ => .chain (edits (fun _ => rfl) fun _ _ _ => rfl)
      fun _ => .pure trivial
  | delete =>
    exact reads (fun _ _ _ => rfl) fun _ => .chain (known_unswayed _) fun _ =>
      .chain (onChart_unswayed _) fun _ => .chain (edits (fun _ => rfl) fun _ _ _ => rfl)
        fun _ => .pure trivial
  | _ => exact changeLine_impartial _ _

theorem runCounter_impartial (name : String) (c : CounterCommand) :
    Impartial g (runCounter name c) := by
  unfold runCounter
  cases c with
  | make visible =>
    exact reads (fun _ _ _ => rfl) fun _ => .chain (onChart_unswayed _) fun _ =>
      .chain (edits (fun _ => rfl) fun _ _ _ => rfl) fun _ => .pure trivial
  | setVisible visible =>
    exact reads (fun _ _ _ => rfl) fun _ => .chain (known_unswayed _) fun _ =>
      .chain (edits (fun _ => rfl) fun _ _ _ => rfl) fun _ => .pure trivial
  | drop =>
    exact reads (fun _ _ _ => rfl) fun _ => .chain (edits (fun _ => rfl) fun _ _ _ => rfl)
      fun _ => .pure trivial

end Scene

end PositionOverlay
