import PositionOverlay.Proofs.Scene.Visits

/-! # Where free markers stand

A free marker hears of a change of the view if it is subscribed, and then stands in sight, whether
it is to be kept there or not. Painting puts it on its price if it is not to be kept in sight. So a
paint after a change of the view finds everything in its place if the marker is to be kept in sight
or its price is, and moves the marker and its labels otherwise. The labels have to be linked in an
order in which each leans on none but those before, and on no marker but their own.
-/
namespace PositionOverlay

namespace Label

variable {Anchor : Type} {l : Label Anchor} {place place' : Anchor → Size → Point}

theorem update_congr (h : ∀ rule, l.anchor = some rule → place' rule = place rule) :
    l.update place' = l.update place := by
  unfold update
  cases ha : l.anchor with
  | none => rfl
  | some rule => simp only [h rule ha]

/-- Only the last place counts. -/
theorem update_update (place place' : Anchor → Size → Point) (l : Label Anchor) :
    (l.update place).update place' = l.update place' := by
  unfold update
  cases ha : l.anchor <;> simp [ha, size]

@[simp] theorem isHeld_update (place : Anchor → Size → Point) (l : Label Anchor) :
    (l.update place).isHeld = l.isHeld := by unfold update; split <;> rfl

end Label

namespace Scene

open Work

variable {s s' : Scene} {key j : Nat} {known links : List Nat} {m : FreeMarker}

/-! ## Labels that follow a marker -/

/-- Whether a rule looks at nothing but a marker and some labels. -/
def Anchor.leansOn (key : Nat) (known : List Nat) : Anchor → Bool
  | .fixed _ => true
  | .corner _ => true
  | .beside k _ => k == key
  | .after j => known.contains j

/-- Whether a label is free to follow a marker and some labels. -/
def followable (key : Nat) (known : List Nat) (l : Label Anchor) : Bool :=
  !l.isHeld && l.anchor.all (Anchor.leansOn key known)

/-- Whether labels can follow a marker one after the other. Those that are gone do not count. -/
def linesUp (look : Nat → Option (Label Anchor)) (key : Nat) : (known links : List Nat) → Bool
  | _, [] => true
  | known, k :: ks => (look k).all (followable key known) && linesUp look key (k :: known) ks

/-- The labels have their places, which depend on nothing but the marker and each other. -/
def AtRest (s : Scene) (key : Nat) (known : List Nat) : Prop :=
  ∀ j ∈ known, ∀ l, s.label? j = some l → followable key known l = true ∧ l.update s.place = l

theorem Anchor.leansOn_mono {known' : List Nat} (h : known ⊆ known') {rule : Anchor}
    (hrule : rule.leansOn key known = true) : rule.leansOn key known' = true := by
  cases rule with
  | fixed p => rfl
  | corner p => rfl
  | beside k pin => exact hrule
  | after j =>
    simp only [leansOn, List.contains_iff_mem] at hrule ⊢
    exact h hrule

theorem followable_mono {known' : List Nat} (h : known ⊆ known') {l : Label Anchor}
    (hl : followable key known l = true) : followable key known' l = true := by
  unfold followable at hl ⊢
  cases ha : l.anchor with
  | none => simpa [ha] using hl
  | some rule =>
    simp only [ha, Option.all_some, Bool.and_eq_true] at hl ⊢
    exact ⟨hl.1, Anchor.leansOn_mono h hl.2⟩

theorem followable_update (place : Anchor → Size → Point) (l : Label Anchor) :
    followable key known (l.update place) = followable key known l := by
  simp [followable]

/-- Where a label stands depends on nothing but what it leans on. -/
theorem update_place_congr {l : Label Anchor} (hl : followable key known l = true)
    (hmarker : s'.markers.get? key = s.markers.get? key)
    (hlabels : ∀ j ∈ known, s'.label? j = s.label? j) :
    l.update s'.place = l.update s.place := by
  refine Label.update_congr fun rule ha => funext fun size => ?_
  simp only [followable, ha, Option.all_some, Bool.and_eq_true] at hl
  cases rule with
  | fixed p => rfl
  | corner p => rfl
  | beside k pin =>
    obtain rfl := eq_of_beq hl.2
    simp only [place, hmarker]
  | after j =>
    have hj : j ∈ known := List.contains_iff_mem.mp hl.2
    simp only [place, hlabels j hj]

theorem AtRest.congr (h : s.AtRest key known)
    (hmarker : s'.markers.get? key = s.markers.get? key)
    (hlabels : ∀ j ∈ known, s'.label? j = s.label? j) : s'.AtRest key known := by
  intro j hj l hl
  rw [hlabels j hj] at hl
  obtain ⟨hfollow, hplace⟩ := h j hj l hl
  exact ⟨hfollow, (update_place_congr hfollow hmarker hlabels).trans hplace⟩

theorem linesUp_congr {look look' : Nat → Option (Label Anchor)}
    (h : ∀ j ∈ links, ∀ known,
      (look' j).all (followable key known) = (look j).all (followable key known)) :
    linesUp look' key known links = linesUp look key known links := by
  induction links generalizing known with
  | nil => rfl
  | cons k ks ih =>
    rw [linesUp, linesUp, h k List.mem_cons_self, ih fun j hj => h j (List.mem_cons_of_mem _ hj)]

/-! ## Reanchoring -/

/-- A label that is met and free is moved to its place, and one that is not stays away. -/
theorem reanchorLabel_of_free {l : Label Anchor} (hl : s.label? j = some l)
    (hfree : l.isHeld = false) : reanchorLabel j s =
      .ok ((), { s with labels := s.labels.set j (l.update s.place) }) := by
  refine (bind_of_ok (get_run s) _).trans ?_
  simp only [hl, hfree]
  rfl

theorem reanchorLabel_of_gone (hl : s.label? j = none) : reanchorLabel j s = .ok ((), s) := by
  refine (bind_of_ok (get_run s) _).trans ?_
  simp only [hl]
  rfl

/-- Moving a label to its place does not change whom it can follow. -/
theorem label?_set {l : Label Anchor} (hl : s.label? j = some l) (k : Nat) :
    label? { s with labels := s.labels.set j (l.update s.place) } k =
      if k = j then some (l.update s.place) else s.label? k := by
  split_ifs with hk
  · subst hk
    exact Registry.reach?_set_self hl (Label.isHeld_update _ l)
  · exact Registry.reach?_set_of_ne (Ne.symm hk) _ _

/-- The next label that leans on those at rest comes to rest as well. -/
theorem AtRest.reanchorLabel (h : s.AtRest key known)
    (hj : (s.label? j).all (followable key known) = true) :
    ∃ r, Scene.reanchorLabel j s = .ok ((), { s with labels := r }) ∧
      AtRest { s with labels := r } key (j :: known) ∧
      (∀ k ≠ j, r.reach? Label.isHeld k = s.label? k) ∧
      ∀ k known, (r.reach? Label.isHeld k).all (followable key known) =
        (s.label? k).all (followable key known) := by
  cases hl : s.label? j with
  | none =>
    refine ⟨s.labels, reanchorLabel_of_gone hl, ?_, fun _ _ => rfl, fun _ _ => rfl⟩
    intro k hk l hl'
    rcases List.mem_cons.mp hk with rfl | hk
    · exact absurd (hl.symm.trans hl') nofun
    · obtain ⟨hfollow, hplace⟩ := h k hk l hl'
      exact ⟨followable_mono (List.subset_cons_self j known) hfollow, hplace⟩
  | some l =>
    rw [hl, Option.all_some] at hj
    have hfree : l.isHeld = false := by
      rw [followable, Bool.and_eq_true] at hj
      simpa using hj.1
    let s₁ : Scene := { s with labels := s.labels.set j (l.update s.place) }
    have hset : ∀ k, s₁.label? k = if k = j then some (l.update s.place) else s.label? k :=
      label?_set hl
    -- A label that is linked twice is at rest the second time.
    have hknown : ∀ k ∈ known, s₁.label? k = s.label? k := by
      intro k hk
      rw [hset]
      split_ifs with hkj
      · subst hkj
        rw [hl, (h k hk l hl).2]
      · rfl
    have hrest : s₁.AtRest key known := h.congr rfl hknown
    refine ⟨_, reanchorLabel_of_free hl hfree, ?_, fun k hk => ?_, fun k known' => ?_⟩
    · intro k hk l' hl'
      rw [hset] at hl'
      split_ifs at hl' with hkj
      · obtain rfl := Option.some.inj hl'
        refine ⟨?_, ?_⟩
        · rw [followable_update]
          exact followable_mono (List.subset_cons_self j known) hj
        · rw [Label.update_update]
          exact update_place_congr hj rfl hknown
      · have hk' : k ∈ known := (List.mem_cons.mp hk).resolve_left hkj
        obtain ⟨hfollow, hplace⟩ := hrest k hk' l' (by rwa [hset, if_neg hkj])
        exact ⟨followable_mono (List.subset_cons_self j known) hfollow, hplace⟩
    · exact (hset k).trans (if_neg hk)
    · refine (congrArg _ (hset k)).trans ?_
      split_ifs with hkj
      · subst hkj
        rw [hl, Option.all_some, Option.all_some, followable_update]
      · rfl

/-- Labels that line up come to rest, and no others move. -/
theorem AtRest.reanchorLabels (h : s.AtRest key known)
    (hlinks : linesUp s.label? key known links = true) :
    ∃ r, links.forM Scene.reanchorLabel s = .ok ((), { s with labels := r }) ∧
      AtRest { s with labels := r } key (links.reverse ++ known) ∧
      (∀ k ∉ links, r.reach? Label.isHeld k = s.label? k) ∧
      ∀ k known, (r.reach? Label.isHeld k).all (followable key known) =
        (s.label? k).all (followable key known) := by
  induction links generalizing s known with
  | nil => exact ⟨s.labels, rfl, h, fun _ _ => rfl, fun _ _ => rfl⟩
  | cons j links ih =>
    rw [linesUp, Bool.and_eq_true] at hlinks
    obtain ⟨r₁, hrun, hrest, hothers, hfollow⟩ := h.reanchorLabel hlinks.1
    obtain ⟨r₂, hrun', hrest', hothers', hfollow'⟩ :=
      ih hrest ((linesUp_congr fun k _ => hfollow k).trans hlinks.2)
    refine ⟨r₂, (bind_of_ok hrun _).trans hrun', ?_, fun k hk => ?_, fun k known => ?_⟩
    · simpa using hrest'
    · exact (hothers' k (List.not_mem_of_not_mem_cons hk)).trans
        (hothers k (List.ne_of_not_mem_cons hk))
    · exact (hfollow' k known).trans (hfollow k known)

/-- Labels at rest stay where they are. -/
theorem AtRest.reanchorLabels_eq (h : s.AtRest key known) (hlinks : links ⊆ known) :
    links.forM Scene.reanchorLabel s = .ok ((), s) := by
  induction links with
  | nil => rfl
  | cons j links ih =>
    obtain ⟨hj, hlinks⟩ := List.cons_subset.mp hlinks
    have hrun : Scene.reanchorLabel j s = .ok ((), s) := by
      cases hl : s.label? j with
      | none => exact reanchorLabel_of_gone hl
      | some l =>
        obtain ⟨hfollow, hplace⟩ := h j hj l hl
        have hfree : l.isHeld = false := by
          rw [followable, Bool.and_eq_true] at hfollow
          simpa using hfollow.1
        rw [reanchorLabel_of_free hl hfree, hplace,
          Registry.set_self (Registry.get?_of_reach? hl)]
    exact (bind_of_ok hrun _).trans (ih hlinks)

/-- Whatever their rules are, labels that are moved do not disturb others. -/
theorem reanchorLabels_spares (links : List Nat) (s : Scene) :
    ∃ c r, links.forM Scene.reanchorLabel s = .ok ((), { s with chart := c, labels := r }) ∧
      s.chart.Noted c ∧ ∀ k ∉ links, r.reach? Label.isHeld k = s.label? k := by
  induction links generalizing s with
  | nil => exact ⟨s.chart, s.labels, rfl, .refl _, fun _ _ => rfl⟩
  | cons j links ih =>
    have hfirst : ∃ c r, Scene.reanchorLabel j s = .ok ((), { s with chart := c, labels := r }) ∧
        s.chart.Noted c ∧ ∀ k ≠ j, r.reach? Label.isHeld k = s.label? k := by
      cases hl : s.label? j with
      | none => exact ⟨s.chart, s.labels, reanchorLabel_of_gone hl, .refl _, fun _ _ => rfl⟩
      | some l =>
        cases hheld : l.isHeld with
        | true =>
          refine ⟨_, s.labels, (bind_of_ok (get_run s) _).trans ?_, .note s.chart .marker .debug
            "marker label busy, skipping re-anchor", fun _ _ => rfl⟩
          simp only [hl, hheld]
          rfl
        | false =>
          exact ⟨s.chart, _, reanchorLabel_of_free hl hheld, .refl _,
            fun k hk => (label?_set hl k).trans (if_neg hk)⟩
    obtain ⟨c₁, r₁, hrun, hc₁, hr₁⟩ := hfirst
    obtain ⟨c₂, r₂, hrun', hc₂, hr₂⟩ := ih { s with chart := c₁, labels := r₁ }
    refine ⟨c₂, r₂, (bind_of_ok hrun _).trans hrun', hc₁.trans hc₂, fun k hk => ?_⟩
    exact (hr₂ k (List.not_mem_of_not_mem_cons hk)).trans (hr₁ k (List.ne_of_not_mem_cons hk))

/-! ## Markers that can be placed -/

/-- A free marker that has a glyph and that nobody holds, with labels of its own that can follow
it. -/
structure Movable (s : Scene) (key : Nat) (m : FreeMarker) : Prop where
  met : s.marker? key = some m
  live : m.marker.isLive = true
  free : m.marker.isHeld = false
  linesUp : linesUp s.label? key [] m.marker.links = true
  owned : ∀ k m', k ≠ key → s.marker? k = some m' → ∀ j ∈ m.marker.links, j ∉ m'.marker.links

/-- A marker whose labels are where they are to be. -/
structure Standing (s : Scene) (key : Nat) (m : FreeMarker) : Prop extends Movable s key m where
  rest : s.AtRest key m.marker.links

/-- The marker elsewhere. -/
def FreeMarker.moveTo (m : FreeMarker) (p : Point) : FreeMarker :=
  { m with marker := m.marker.moveTo p }

@[simp] theorem FreeMarker.moveTo_links (m : FreeMarker) (p : Point) :
    (m.moveTo p).marker.links = m.marker.links := rfl

/-- What is done to other markers and other labels leaves a marker with its labels alone. -/
theorem Movable.spared (h : s.Movable key m) (hmarker : s'.marker? key = s.marker? key)
    (hothers : ∀ k m'', k ≠ key → s'.marker? k = some m'' →
      ∃ m', s.marker? k = some m' ∧ m'.marker.links = m''.marker.links)
    (hlabels : ∀ j ∈ m.marker.links, s'.label? j = s.label? j) :
    s'.Movable key m ∧ (s.AtRest key m.marker.links → s'.AtRest key m.marker.links) := by
  have hmet := hmarker.trans h.met
  refine ⟨⟨hmet, h.live, h.free, ?_, fun k m'' hk hm'' => ?_⟩, fun hrest => hrest.congr ?_ hlabels⟩
  · exact (linesUp_congr fun j hj known => by rw [hlabels j hj]).trans h.linesUp
  · obtain ⟨m', hm', hlinks⟩ := hothers k m'' hk hm''
    rw [← hlinks]
    exact h.owned k m' hk hm'
  · rw [Registry.get?_of_reach? hmet, Registry.get?_of_reach? h.met]

/-- A marker that is moved takes its labels with it. -/
theorem Movable.settle (h : s.Movable key m) (p : Point) :
    ∃ s', settle key (m.moveTo p) s = .ok ((), s') ∧ s'.Standing key (m.moveTo p) ∧
      s'.chart = s.chart := by
  let s₁ : Scene := { s with markers := s.markers.set key (m.moveTo p) }
  have hstart : s₁.AtRest key [] := nofun
  obtain ⟨r, hrun, hrest, -, hfollow⟩ := hstart.reanchorLabels h.linesUp
  refine ⟨{ s₁ with labels := r }, hrun, ⟨⟨?_, h.live, h.free, ?_, fun k m' hk hm' => ?_⟩, ?_⟩, rfl⟩
  · exact Registry.reach?_set_self h.met rfl
  · exact (linesUp_congr fun j _ => hfollow j).trans h.linesUp
  · exact h.owned k m' hk ((Registry.reach?_set_of_ne (Ne.symm hk) _ _).symm.trans hm')
  · intro j hj l hl
    obtain ⟨hfollows, hplace⟩ := hrest j (by simpa using hj) l hl
    exact ⟨followable_mono (fun k hk => by simpa using hk) hfollows, hplace⟩

/-- A marker that is moved to where it is changes nothing. -/
theorem Standing.settle_eq (h : s.Standing key m) : settle key m s = .ok ((), s) := by
  change m.marker.links.forM reanchorLabel { s with markers := s.markers.set key m } = _
  rw [Registry.set_self (Registry.get?_of_reach? h.met)]
  exact h.rest.reanchorLabels_eq (List.Subset.refl _)

/-! ## Hearing of a change of the view -/

variable {box : Rect} {l : Listener}

theorem placeMarker_run (hbox : m.marker.box = some box) (s : Scene) (key : Nat) :
    placeMarker key m s =
      settle key (m.moveTo (s.chart.view.stand true box.h m.price)) s := by
  refine (bind_of_ok (get_run s) _).trans ?_
  rw [Marker.placeInView_of_box hbox]
  rfl

theorem paintMarker_run (hbox : m.marker.box = some box) (hlive : m.marker.isLive = true)
    (s : Scene) (key : Nat) : paintMarker key m s =
      settle key (m.moveTo (s.chart.view.stand m.marker.keepInView box.h m.price)) s := by
  rw [paintMarker, if_pos hlive]
  refine (bind_of_ok (get_run s) _).trans ?_
  rw [Marker.placeForPaint_of_box hbox]
  rfl

/-- The marker that hears stands in sight. -/
theorem Movable.hear_self (h : s.Movable key m) (hbox : m.marker.box = some box)
    (runScript : String → List (String × Command) → SceneM Unit) :
    ∃ s', hear runScript (.marker key) s = .ok ((), s') ∧
      s'.Standing key (m.moveTo (s.chart.view.stand true box.h m.price)) ∧
      s'.chart = s.chart := by
  obtain ⟨s', hrun, hs'⟩ := h.settle (s.chart.view.stand true box.h m.price)
  refine ⟨s', (bind_of_ok (get_run s) _).trans ?_, hs'⟩
  simp only [h.met, h.free, h.live, if_true, Bool.false_eq_true, if_false]
  rw [placeMarker_run hbox, hrun]

theorem hear_tracker_run (runScript : String → List (String × Command) → SceneM Unit) (s : Scene)
    (k build : Nat) : ∃ c r, s.chart.Noted c ∧
      hear runScript (.tracker k build) s = .ok ((), { s with chart := c, trackers := r }) := by
  have hstill (hrun : hear runScript (.tracker k build) s = .ok ((), s)) : ∃ c r, s.chart.Noted c ∧
      hear runScript (.tracker k build) s = .ok ((), { s with chart := c, trackers := r }) :=
    ⟨s.chart, s.trackers, .refl _, hrun⟩
  cases ht : s.tracker? k with
  | none =>
    refine hstill ((bind_of_ok (get_run s) _).trans ?_)
    simp only [ht]
    rfl
  | some t =>
    by_cases hbuild : t.build = build
    · subst hbuild
      obtain ⟨c, hc, hrun⟩ := hear_run runScript ht
      exact ⟨c, _, hc, hrun⟩
    · refine hstill ((bind_of_ok (get_run s) _).trans ?_)
      simp only [ht, if_neg hbuild]
      rfl

/-- A marker has moved, if anything has, and labels that it links. -/
structure MovedAlone (k : Nat) (s s' : Scene) : Prop where
  chart : s.chart.Noted s'.chart
  others : ∀ k', k' ≠ k → s'.marker? k' = s.marker? k'
  links : ∀ m', s'.marker? k = some m' →
    ∃ m, s.marker? k = some m ∧ m.marker.links = m'.marker.links
  labels : ∀ j, (∀ m, s.marker? k = some m → j ∉ m.marker.links) → s'.label? j = s.label? j

theorem MovedAlone.of_noted {c : Chart Item Listener} (hc : s.chart.Noted c) (k : Nat) :
    MovedAlone k s { s with chart := c } :=
  ⟨hc, fun _ _ => rfl, fun m' hm' => ⟨m', hm', rfl⟩, fun _ _ => rfl⟩

theorem settle_movedAlone (hm : s.marker? key = some m) (p : Point) :
    ∃ s', settle key (m.moveTo p) s = .ok ((), s') ∧ MovedAlone key s s' := by
  obtain ⟨c, r, hrun, hc, hothers⟩ := reanchorLabels_spares m.marker.links
    { s with markers := s.markers.set key (m.moveTo p) }
  refine ⟨_, (bind_of_ok rfl _).trans hrun, hc, fun k hk => ?_, fun m' hm' => ?_, fun j hj => ?_⟩
  · exact Registry.reach?_set_of_ne (Ne.symm hk) _ _
  · have hset := Registry.reach?_set_self (a := m.moveTo p) hm rfl
    obtain rfl := Option.some.inj (hset.symm.trans hm')
    exact ⟨m, hm, rfl⟩
  · exact hothers j (hj m hm)

theorem hear_marker_movedAlone (runScript : String → List (String × Command) → SceneM Unit)
    (s : Scene) (k : Nat) :
    ∃ s', hear runScript (.marker k) s = .ok ((), s') ∧ MovedAlone k s s' := by
  have hstill := MovedAlone.of_noted (.refl s.chart) k
  cases hm : s.marker? k with
  | none =>
    refine ⟨s, (bind_of_ok (get_run s) _).trans ?_, hstill⟩
    simp only [hm]
    rfl
  | some m =>
    cases hheld : m.marker.isHeld with
    | true =>
      refine ⟨_, (bind_of_ok (get_run s) _).trans ?_, .of_noted (.note s.chart .marker .debug
        "marker busy during range change") k⟩
      simp only [hm, hheld, if_true]
      rfl
    | false =>
      cases hlive : m.marker.isLive with
      | false =>
        refine ⟨s, (bind_of_ok (get_run s) _).trans ?_, hstill⟩
        simp only [hm, hheld, hlive, Bool.false_eq_true, if_false]
        rfl
      | true =>
        obtain ⟨box, hbox⟩ := Marker.box_of_isLive hlive
        obtain ⟨s', hrun, hmoved⟩ :=
          settle_movedAlone hm (s.chart.view.stand true box.h m.price)
        refine ⟨s', (bind_of_ok (get_run s) _).trans ?_, hmoved⟩
        simp only [hm, hheld, hlive, if_true, Bool.false_eq_true, if_false]
        rw [placeMarker_run hbox, hrun]

/-- Whoever else hears leaves the marker and its labels alone. -/
theorem Movable.hear_other (h : s.Movable key m) (hl : l ≠ .marker key)
    (hscript : ∀ name actions, l ≠ .script name actions)
    (runScript : String → List (String × Command) → SceneM Unit) :
    ∃ s', hear runScript l s = .ok ((), s') ∧ s'.chart.view = s.chart.view ∧
      s'.Movable key m ∧ (s.AtRest key m.marker.links → s'.AtRest key m.marker.links) := by
  cases l with
  | script name actions => exact absurd rfl (hscript name actions)
  | tracker k build =>
    obtain ⟨c, r, hc, hrun⟩ := hear_tracker_run runScript s k build
    exact ⟨_, hrun, hc.view, h.spared rfl (fun k m' _ hm' => ⟨m', hm', rfl⟩) fun _ _ => rfl⟩
  | marker k =>
    have hk : k ≠ key := fun he => hl (congrArg _ he)
    obtain ⟨s', hrun, hmoved⟩ := hear_marker_movedAlone runScript s k
    refine ⟨s', hrun, hmoved.chart.view, h.spared (hmoved.others key (Ne.symm hk))
      (fun k' m' _ hm' => ?_) fun j hj => hmoved.labels j fun m' hm' => h.owned k m' hk hm' j hj⟩
    by_cases he : k' = k
    · subst he
      exact hmoved.links m' hm'
    · exact ⟨m', (hmoved.others k' he).symm.trans hm', rfl⟩

/-- While the others hear, and if it hears again, the marker stays where it stands. -/
theorem Standing.hear_all (h : s.Standing key m) (hbox : m.marker.box = some box)
    (hplace : m.moveTo (s.chart.view.stand true box.h m.price) = m) {es : List (Nat × Listener)}
    (hscript : ∀ e ∈ es, ∀ name actions, e.2 ≠ .script name actions)
    (runScript : String → List (String × Command) → SceneM Unit) :
    ∃ s', (es.forM fun e => hear runScript e.2 : SceneM Unit) s = .ok ((), s') ∧
      s'.Standing key m ∧ s'.chart.view = s.chart.view := by
  induction es generalizing s with
  | nil => exact ⟨s, rfl, h, rfl⟩
  | cons e es ih =>
    obtain ⟨hfirst, hscript⟩ := List.forall_mem_cons.mp hscript
    have hstep : ∃ s₁, hear runScript e.2 s = .ok ((), s₁) ∧ s₁.Standing key m ∧
        s₁.chart.view = s.chart.view := by
      by_cases he : e.2 = .marker key
      · obtain ⟨s₁, hrun, hs₁, hchart⟩ := h.toMovable.hear_self hbox runScript
        rw [hplace] at hs₁
        rw [he]
        exact ⟨s₁, hrun, hs₁, congrArg Chart.view hchart⟩
      · obtain ⟨s₁, hrun, hview, hmovable, hrest⟩ :=
          h.toMovable.hear_other he hfirst runScript
        exact ⟨s₁, hrun, ⟨hmovable, hrest h.rest⟩, hview⟩
    obtain ⟨s₁, hrun, hs₁, hview₁⟩ := hstep
    obtain ⟨s', hrun', hs', hview'⟩ := ih hs₁ (by rw [hview₁, hplace]) hscript
    exact ⟨s', (bind_of_ok hrun _).trans hrun', hs', hview'.trans hview₁⟩

/-- Once all have heard, a marker that is subscribed stands in sight. -/
theorem Movable.hear_all (h : s.Movable key m) (hbox : m.marker.box = some box)
    {es : List (Nat × Listener)} (hmem : ∃ e ∈ es, e.2 = .marker key)
    (hscript : ∀ e ∈ es, ∀ name actions, e.2 ≠ .script name actions)
    (runScript : String → List (String × Command) → SceneM Unit) :
    ∃ s', (es.forM fun e => hear runScript e.2 : SceneM Unit) s = .ok ((), s') ∧
      s'.Standing key (m.moveTo (s.chart.view.stand true box.h m.price)) ∧
      s'.chart.view = s.chart.view := by
  induction es generalizing s with
  | nil => exact absurd hmem nofun
  | cons e es ih =>
    obtain ⟨hfirst, hscript⟩ := List.forall_mem_cons.mp hscript
    by_cases he : e.2 = .marker key
    · obtain ⟨s₁, hrun, hs₁, hchart⟩ := h.hear_self hbox runScript
      obtain ⟨s', hrun', hs', hview'⟩ := hs₁.hear_all hbox (by rw [hchart]; rfl) hscript runScript
      rw [← he] at hrun
      exact ⟨s', (bind_of_ok hrun _).trans hrun', hs', hview'.trans (congrArg Chart.view hchart)⟩
    · obtain ⟨s₁, hrun, hview, hmovable, -⟩ := h.hear_other he hfirst runScript
      have hmem' : ∃ e ∈ es, e.2 = .marker key := by
        obtain ⟨e', he', hkey⟩ := hmem
        rcases List.mem_cons.mp he' with rfl | he'
        · exact absurd hkey he
        · exact ⟨e', he', hkey⟩
      obtain ⟨s', hrun', hs', hview'⟩ := ih hmovable hmem' hscript
      rw [hview] at hs'
      exact ⟨s', (bind_of_ok hrun _).trans hrun', hs', hview'.trans hview⟩

/-- A price that is in sight is marked where it is. -/
theorem stand_inSight {v : View} {keep : Bool} {height price : Float}
    (h : keep = true ∨ ¬ v.yMax < price ∧ ¬ price < v.yMin) :
    v.stand keep height price = v.stand true height price := by
  rcases h with rfl | ⟨habove, hbelow⟩
  · rfl
  · cases keep
    · simp [View.stand, View.keptOrdinate, habove, hbelow]
    · rfl

/-- The marker of its own that a listener is for. -/
def Listener.marker? : Listener → Option Nat
  | .marker key => some key
  | .tracker _ _ | .script _ _ => none

theorem Listener.eq_of_marker? {l : Listener} (h : l.marker? = some key) : l = .marker key := by
  cases l with
  | marker => exact congrArg _ (Option.some.inj h)
  | tracker => cases h
  | script => cases h

/-- A change of the view puts a subscribed marker in sight, whether it is to be kept there or not,
and its labels in their places. Painting it puts it on its price if it is not to be kept in sight,
and changes nothing if it is or if the price is in sight. -/
theorem setView_places (h : s.Movable key m) (hbox : m.marker.box = some box)
    (hmem : ∃ e ∈ s.chart.listeners, e.2 = .marker key)
    (hscript : ∀ e ∈ s.chart.listeners, ∀ name actions, e.2 ≠ .script name actions)
    (runScript : String → List (String × Command) → SceneM Unit) (f : View → View) :
    let v := f s.chart.view
    let placed keep := m.moveTo (v.stand keep box.h m.price)
    ∃ s' s'', setView runScript f s = .ok ((), s') ∧ s'.chart.view = v ∧
      s'.Standing key (placed true) ∧ paintMarker key (placed true) s' = .ok ((), s'') ∧
      s''.Standing key (placed m.marker.keepInView) ∧
      (m.marker.keepInView = true ∨ ¬ v.yMax < m.price ∧ ¬ m.price < v.yMin → s'' = s') := by
  intro v placed
  let s₀ : Scene := { s with chart := { s.chart with view := v, listeners := [] } }
  have h₀ : s₀.Movable key m := { h with }
  obtain ⟨s₁, hrun, hs₁, hview⟩ := h₀.hear_all hbox hmem hscript runScript
  let s' : Scene := { s₁ with chart := s₁.chart.putListeners s.chart.listeners }
  have hs' : s'.Standing key (placed true) := { hs₁ with }
  have hpaint := paintMarker_run (m := placed true) hbox hs'.live s' key
  obtain ⟨s'', hsettle, hs'', -⟩ := hs'.toMovable.settle (v.stand m.marker.keepInView box.h m.price)
  have hview' : s'.chart.view = v := hview
  rw [hview'] at hpaint
  refine ⟨s', s'', ?_, hview', hs', hpaint.trans hsettle, hs'', fun hsight => ?_⟩
  · change ((s.chart.listeners.forM fun e => hear runScript e.2) >>= fun _ =>
      onChart (modify (·.putListeners s.chart.listeners))) s₀ = _
    exact (bind_of_ok hrun _).trans rfl
  · have hstill : (placed true).moveTo (v.stand m.marker.keepInView box.h m.price) =
        placed true := by
      rw [stand_inSight hsight]
      rfl
    rw [hstill, hs'.settle_eq] at hsettle
    exact (Prod.mk.inj (Except.ok.inj hsettle)).2.symm

/-- A marker that is not to be kept in sight, with a label beside it and another behind that, while
its price goes out of sight. -/
theorem setView_places_outOfSight :
    let s := (empty .standard).runAll [.marker "M" (.make (some .up) 80.0 22.0 false),
      .label "A" (.make "far" [] "red" true), .label "A" (.anchor (.beside "M" .rightCentered)),
      .label "A" .render, .label "B" (.make "away" [] "red" true),
      .label "B" (.anchor (.after "A")), .label "B" .render, .marker "M" (.link "A"),
      .marker "M" (.link "B"), .marker "M" .connect]
    let v : View := { s.chart.view with yMin := 0.0, yMax := 50.0 }
    ∃ m box, s.Movable 0 m ∧ m.marker.box = some box ∧
      (∃ e ∈ s.chart.listeners, e.2 = .marker 0) ∧
      (∀ e ∈ s.chart.listeners, ∀ name actions, e.2 ≠ .script name actions) ∧
      let placed keep := m.moveTo (v.stand keep box.h m.price)
      ∃ s' s'', setView (runScript 0) (fun v => { v with yMin := 0.0, yMax := 50.0 }) s =
          .ok ((), s') ∧ s'.chart.view = v ∧
        s'.Standing 0 (placed true) ∧ paintMarker 0 (placed true) s' = .ok ((), s'') ∧
        s''.Standing 0 (placed m.marker.keepInView) ∧
        (m.marker.keepInView = true ∨ ¬ v.yMax < m.price ∧ ¬ m.price < v.yMin → s'' = s') := by
  intro s v
  have hsize : s.markers.entries.size = 1 := by decide +kernel
  have hmarker : (s.marker? 0).any (fun m => m.marker.isLive && !m.marker.isHeld &&
      linesUp s.label? 0 [] m.marker.links) = true := by decide +kernel
  have hlisteners : s.chart.listeners.map (fun e => e.2.marker?) = [some 0] := by decide +kernel
  obtain ⟨m, hmet, hm⟩ := (Option.any_eq_true _ _).mp hmarker
  simp only [Bool.and_eq_true, Bool.not_eq_true'] at hm
  obtain ⟨⟨hlive, hfree⟩, hlinesUp⟩ := hm
  obtain ⟨box, hbox⟩ := Marker.box_of_isLive hlive
  have hmovable : s.Movable 0 m := by
    refine ⟨hmet, hlive, hfree, hlinesUp, fun k m' hk hm' => ?_⟩
    have hlt := Registry.lt_nextKey (Registry.get?_of_reach? hm')
    rw [Registry.nextKey, hsize] at hlt
    exact absurd (Nat.lt_one_iff.mp hlt) hk
  obtain ⟨⟨n, l⟩, hl, hkey⟩ := List.map_eq_singleton_iff.mp hlisteners
  obtain rfl := Listener.eq_of_marker? hkey
  have hmem : ∃ e ∈ s.chart.listeners, e.2 = .marker 0 := ⟨_, hl ▸ List.mem_singleton_self _, rfl⟩
  have hscript : ∀ e ∈ s.chart.listeners, ∀ name actions, e.2 ≠ .script name actions := by
    rw [hl]
    simp
  exact ⟨m, box, hmovable, hbox, hmem, hscript,
    setView_places hmovable hbox hmem hscript (runScript 0) _⟩

/-- A marker that is not to be kept in sight is kept there by a change of the view. -/
theorem setView_keeps_in_sight :
    let s := (empty .standard).runAll [.marker "M" (.make (some .up) 500.0 22.0 false),
      .marker "M" .connect, .tick (.range 0.0 100.0)]
    (s.marker? 0).any (fun m => !m.marker.keepInView && m.marker.pos.y == 22.0 / 3.0 &&
      s.chart.view.ordinate m.price == -2400.0) = true := by
  decide +kernel

end Scene

end PositionOverlay
