import PositionOverlay.Proofs.Scene.Moments
import PositionOverlay.Proofs.Scene.Twins

/-! # Deleted markers are inert

A marker that has been deleted stays where it is and moves no label, whatever paints, range changes
and commands there are later: also if it is shown, entered or connected again, and also while range
changes are in progress that still call it. Only a command that restyles it, or that puts it in its
place by name, can move it.
-/
namespace PositionOverlay

namespace Scene

open Work

/-- The name belongs to the marker under the key. -/
def names (s : Scene) (name : String) (key : Nat) : Bool :=
  (s.markers.find? name).map Prod.fst == some key

end Scene

/-- The command restyles the marker under the key, or puts it in its place by name. -/
def Command.disturbs (c : Command) (s : Scene) (key : Nat) : Bool :=
  match c with
  | .marker name (.arrow _) => s.names name key
  | .tick (.place name) => s.names name key
  | .hold _ (.place name) => s.names name key
  | _ => false

namespace Scene

open Work

/-- The next step is a command that disturbs the marker under the key. -/
def Moment.disturbs (m : Moment) (key : Nat) : Bool :=
  match m.tasks with
  | .actions _ _ ((_, c) :: _) :: _ => c.disturbs m.scene key
  | .commands (c :: _) :: _ => c.disturbs m.scene key
  | _ => false

variable {g : Remains} {s s' : Scene} {α β : Type} {S : β → β → Prop} {name : String}

/-- A marker that is found by a name which is not that of the deleted one. -/
theorem other_agree (hs : Twins g s s') (hname : s.names name g.key = false)
    {f : Nat × FreeMarker → SceneM β}
    (h : ∀ (k : Nat) (m : FreeMarker), k ≠ g.key → Unswayed g (f (k, m)) S) :
    Agree (Twins g) S ((do f (← known ((← get).markers.find? name))) s)
      ((do f (← known ((← get).markers.find? name))) s') := by
  have hfound := hs.find? name
  unfold names at hname
  change Agree _ _ ((known (s.markers.find? name) >>= f) s)
    ((known (s'.markers.find? name) >>= f) s')
  generalize s.markers.find? name = x, s'.markers.find? name = x' at hfound hname ⊢
  cases hfound with
  | none => exact trivial
  | @some p p' hp =>
    have hk : p.1 ≠ g.key := by simpa using hname
    obtain rfl : p' = p := Prod.ext hp.1 (hp.2.eq_of_ne hk)
    exact h p'.1 p'.2 hk hs

theorem placeNamed_agree (hs : Twins g s s') (hname : s.names name g.key = false) :
    Agree (Twins g) (fun _ _ => True) (placeNamed name s) (placeNamed name s') :=
  other_agree hs hname fun _ _ hk => .chain (placeMarker_unswayed hk _) fun _ =>
    markerReply_impartial _

theorem setArrow_agree (hs : Twins g s s') (hname : s.names name g.key = false) (arrow : Arrow) :
    Agree (Twins g) (fun _ _ => True) (runMarker name (.arrow arrow) s)
      (runMarker name (.arrow arrow) s') :=
  other_agree hs hname fun _ _ hk => .chain (setMarker_together (.of_ne hk _)) fun _ =>
    markerReply_impartial _

/-- Held objects keep their names. -/
theorem names_changeHolders (s : Scene) (grip : Grip) (f : Nat → Nat) (name : String) (key : Nat) :
    (changeHolders grip f s).names name key = s.names name key := by
  unfold names
  exact congrArg (· == some key) ((s.markers.alike_modify grip.markers _).map_fst_find? name)

/-- Commands that take one step. -/
theorem Twins.runWith_mute (hs : Twins g s s') {c : Command} {depth : Nat}
    (hbegin : s.begin depth c = none) (hc : c.disturbs s g.key = false) :
    Agree (Twins g) (fun _ _ => True) (runWith mute c s) (runWith mute c s') := by
  cases c with
  | tick t =>
    cases t with
    | place name => exact placeNamed_agree hs hc
    | _ => exact nomatch hbegin
  | hold holdings t =>
    cases t with
    | place name =>
      have hname : (Scene.changeHolders (s.gripOf holdings) (· + 1) s).names name g.key = false :=
        (names_changeHolders s _ _ name g.key).trans hc
      have hplace := placeNamed_agree (hs.changeHolders (s.gripOf holdings) (· + 1)) hname
      have hrun (s : Scene) : runWith mute (.hold holdings (.place name)) s = (do
          let _ ← placeNamed name
          modify (Scene.changeHolders (s.gripOf holdings) (· - 1))
          return .dump (← get).dump : SceneM Reply)
            (Scene.changeHolders (s.gripOf holdings) (· + 1) s) := rfl
      rw [hrun, hrun, hs.gripOf]
      exact hplace.bind fun _ _ _ => .chain (.modify fun _ _ h => h.changeHolders _ _) fun _ =>
        Together.get.bind fun _ _ _ => .pure trivial
    | _ => exact nomatch hbegin
  | dump => exact ⟨trivial, hs⟩
  | map p => exact ⟨trivial, hs⟩
  | range => exact ⟨trivial, hs⟩
  | removeItem id =>
    exact (show Impartial g _ from .chain (onChart_unswayed _) fun _ => .pure trivial) hs
  | subscribe name actions =>
    have hsubscribe : Impartial g (runWith mute (.subscribe name actions)) :=
      .chain (onChart_unswayed _) fun _ => .chain (edits (fun _ => rfl) fun _ _ _ => rfl) fun _ =>
        .pure trivial
    exact hsubscribe hs
  | unsubscribe name =>
    have hunsubscribe : Impartial g (runWith mute (.unsubscribe name)) :=
      reads (fun _ _ _ => rfl) fun _ => .chain (known_unswayed _) fun _ =>
        .chain (onChart_unswayed _) fun _ => .pure trivial
    exact hunsubscribe hs
  | unsubscribeId id =>
    have hunsubscribe : Impartial g (runWith mute (.unsubscribeId id)) :=
      .chain (onChart_unswayed _) fun _ => .pure trivial
    exact hunsubscribe hs
  | tracker name c => exact runTracker_impartial name c hs
  | marker name c =>
    by_cases harrow : ∃ arrow, c = .arrow arrow
    · obtain ⟨arrow, rfl⟩ := harrow
      exact setArrow_agree hs hc arrow
    · exact runMarker_impartial name (fun arrow h => harrow ⟨arrow, h⟩) hs
  | label name c => exact runLabel_impartial name c hs
  | line name c => exact runLine_impartial name c hs
  | counter name c => exact runCounter_impartial name c hs
  | unknown => exact trivial

/-- Work that fails in both scenes leaves them as they were. -/
theorem Twins.after (hs : Twins g s s') {x : SceneM α} {Q : α → α → Prop}
    (hx : Agree (Twins g) Q (x s) (x s')) : Twins g (s.after x) (s'.after x) := by
  unfold Scene.after
  generalize x s = r, x s' = r' at hx
  rcases r with e | ⟨a, t⟩ <;> rcases r' with e' | ⟨a', t'⟩
  · exact hs
  · exact False.elim hx
  · exact False.elim hx
  · exact hx.2

/-- A command that takes one step. -/
theorem Twins.obey (hs : Twins g s s') {c : Command} {depth : Nat} (hbegin : s.begin depth c = none)
    (hc : c.disturbs s g.key = false) : Twins g (s.obey c).2 (s'.obey c).2 := by
  rw [Scene.obey, Scene.obey, attempt_snd, attempt_snd]
  exact hs.after (hs.runWith_mute hbegin hc)

theorem Twins.isPresent (hs : Twins g s s') (i : Item) : s'.isPresent i = s.isPresent i := by
  cases i with
  | marker key =>
    have hmarker := hs.marker? key
    simp only [Scene.isPresent]
    generalize s.marker? key = x, s'.marker? key = x' at hmarker ⊢
    cases hmarker <;> rfl
  | _ =>
    obtain ⟨-, markers, firings, rfl, -⟩ := hs
    rfl

theorem Twins.beginTick (hs : Twins g s s') (depth : Nat) (t : Tick) :
    Option.Rel (fun b b' => b'.1 = b.1 ∧ Twins g b.2 b'.2) (s.beginTick depth t)
      (s'.beginTick depth t) := by
  have hpresent : s'.isPresent = s.isPresent := funext hs.isPresent
  have htwins := hs
  obtain ⟨hkey, markers, firings, rfl, hmarkers⟩ := hs
  cases t with
  | range yMin yMax => exact .some ⟨rfl, hkey, markers, firings, rfl, hmarkers⟩
  | height y => exact .some ⟨rfl, hkey, markers, firings, rfl, hmarkers⟩
  | paint =>
    unfold Scene.beginTick
    rw [hpresent]
    exact .some ⟨rfl, htwins⟩
  | place marker => exact .none

theorem Twins.begin (hs : Twins g s s') (depth : Nat) (c : Command) :
    Option.Rel (fun b b' => b'.1 = b.1 ∧ Twins g b.2 b'.2) (s.begin depth c)
      (s'.begin depth c) := by
  cases c with
  | tick t => exact hs.beginTick depth t
  | hold holdings t =>
    have htick := (hs.changeHolders (s.gripOf holdings) (· + 1)).beginTick depth t
    dsimp only [Scene.begin]
    rw [hs.gripOf]
    generalize (Scene.changeHolders _ _ s).beginTick depth t = x,
      (Scene.changeHolders _ _ s').beginTick depth t = x' at htick ⊢
    cases htick with
    | none => exact .none
    | some hb => exact .some ⟨congrArg (· ++ [Task.loosen (s.gripOf holdings)]) hb.1, hb.2⟩
  | _ => exact .none

theorem Twins.recorded (hs : Twins g s s') (f f' : Firing) :
    Twins g (s.recorded f) (s'.recorded f') := by
  obtain ⟨hkey, markers, firings, rfl, hmarkers⟩ := hs
  exact ⟨hkey, markers, _, rfl, hmarkers⟩

/-- A command is obeyed in both scenes, or it begins with the same tasks in both. -/
theorem Twins.command (hs : Twins g s s') (depth : Nat) {c : Command}
    (hc : c.disturbs s g.key = false) :
    (s.begin depth c = none ∧ s'.begin depth c = none ∧ Twins g (s.obey c).2 (s'.obey c).2) ∨
      ∃ tasks s₁ s₁', s.begin depth c = some (tasks, s₁) ∧ s'.begin depth c = some (tasks, s₁') ∧
        Twins g s₁ s₁' := by
  have hboth := hs.begin depth c
  rcases hbegin : s.begin depth c with _ | ⟨tasks, s₁⟩ <;>
    rcases hbegin' : s'.begin depth c with _ | ⟨tasks', s₁'⟩ <;> rw [hbegin, hbegin'] at hboth
  · exact .inl ⟨rfl, rfl, hs.obey hbegin hc⟩
  · exact nomatch hboth
  · exact nomatch hboth
  · cases hboth with
    | some hb =>
      obtain ⟨rfl, htwins⟩ := hb
      exact .inr ⟨_, s₁, s₁', rfl, rfl, htwins⟩

variable {m m' : Moment}

/-- The next step leads to the same tasks, and to scenes that differ in nothing else. -/
theorem Twins.next (htasks : m'.tasks = m.tasks) (hs : Twins g m.scene m'.scene)
    (hm : m.disturbs g.key = false) :
    m'.next.tasks = m.next.tasks ∧ Twins g m.next.scene m'.next.scene := by
  obtain ⟨_, s⟩ := m
  obtain ⟨tasks, s'⟩ := m'
  dsimp only at htasks hs
  subst htasks
  cases tasks with
  | nil => exact ⟨rfl, hs⟩
  | cons task rest =>
    cases task with
    | calls depth waiting =>
      cases waiting with
      | nil => exact ⟨rfl, hs⟩
      | cons e waiting =>
        obtain ⟨n, l⟩ := e
        have hheard := hs.after (hear_unswayed l mute (fun _ _ => .pure rfl) hs)
        cases depth with
        | zero => cases l <;> exact ⟨rfl, hheard⟩
        | succ depth =>
          cases l with
          | script name actions => exact ⟨rfl, hs.recorded _ _⟩
          | _ => exact ⟨rfl, hheard⟩
    | restore taken =>
      obtain ⟨hkey, markers, firings, rfl, hmarkers⟩ := hs
      exact ⟨rfl, hkey, markers, firings, rfl, hmarkers⟩
    | paints waiting =>
      cases waiting with
      | nil => exact ⟨rfl, hs⟩
      | cons e waiting => exact ⟨rfl, hs.after (paintItem_unswayed e.2 hs)⟩
    | loosen grip => exact ⟨rfl, hs.changeHolders grip (· - 1)⟩
    | actions depth name waiting =>
      cases waiting with
      | nil => exact ⟨rfl, hs⟩
      | cons a waiting =>
        simp only [Moment.next]
        rcases hs.command depth hm with ⟨hbegin, hbegin', h⟩ | ⟨_, _, _, hbegin, hbegin', h⟩ <;>
          rw [hbegin, hbegin']
        · exact ⟨rfl, h.recorded _ _⟩
        · exact ⟨rfl, h⟩
    | answer name action => exact ⟨rfl, hs.recorded _ _⟩
    | commands waiting =>
      cases waiting with
      | nil => exact ⟨rfl, hs⟩
      | cons c waiting =>
        have hdepth : s'.depth = s.depth := by
          obtain ⟨-, markers, firings, rfl, -⟩ := hs
          rfl
        simp only [Moment.next, hdepth]
        rcases hs.command s.depth hm with ⟨hbegin, hbegin', h⟩ | ⟨_, _, _, hbegin, hbegin', h⟩ <;>
          rw [hbegin, hbegin']
        · exact ⟨rfl, h⟩
        · exact ⟨rfl, h⟩

/-- A run that never disturbs the deleted marker never depends on its links. -/
theorem Twins.later (htasks : m'.tasks = m.tasks) (hs : Twins g m.scene m'.scene) {n : Nat}
    (hm : ∀ i < n, (m.later i).disturbs g.key = false) :
    (m'.later n).tasks = (m.later n).tasks ∧ Twins g (m.later n).scene (m'.later n).scene := by
  induction n with
  | zero => exact ⟨htasks, hs⟩
  | succ n ih =>
    obtain ⟨htasks, hs⟩ := ih fun i hi => hm i (Nat.lt_succ_of_lt hi)
    rw [m.later_succ, m'.later_succ]
    exact hs.next htasks (hm n (Nat.lt_succ_self n))

/-- The deleted marker is where it was left. -/
theorem Twins.exists_remains (hs : Twins g s s') : ∃ d, s.markers.get? g.key = some d ∧
    d.marker.deleted = true ∧ d.marker.pos = g.pos ∧ d.marker.placement = g.placement := by
  obtain ⟨hkey, markers, firings, rfl, hmarkers⟩ := hs
  have hget : s.markers.get? g.key = some s.markers.entries[g.key].object := by
    rw [Registry.get?, Array.getElem?_eq_getElem hkey]
    rfl
  have hfits := hmarkers.get? g.key
  rw [hget] at hfits ⊢
  generalize markers.get? g.key = x at hfits
  cases hfits with
  | some hfits =>
    rw [Remains.Fits, if_pos rfl] at hfits
    exact ⟨_, rfl, hfits.1, hfits.2.1, hfits.2.2.1⟩

/-- The scene with other links of the marker under the key. -/
def relink (s : Scene) (key : Nat) (links : List Nat) : Scene :=
  { s with markers := s.markers.modify [key] (·.relink links) }

theorem twins_relink {key : Nat} {d : FreeMarker} (hd : s.markers.get? key = some d)
    (hdeleted : d.marker.deleted = true) (links : List Nat) :
    Twins ⟨key, d.marker.pos, d.marker.placement⟩ s (s.relink key links) := by
  refine ⟨Registry.lt_nextKey hd, _, s.firings, rfl, fun k => ?_⟩
  rw [Registry.getElem?_modify_one]
  obtain ⟨e, he, rfl⟩ := Option.map_eq_some_iff.mp hd
  by_cases hk : key = k
  · subst hk
    rw [if_pos rfl, he]
    refine .some ⟨rfl, rfl, ?_⟩
    rw [Remains.Fits, if_pos rfl]
    exact ⟨hdeleted, rfl, rfl, links, rfl⟩
  · rw [if_neg hk]
    rcases s.markers.entries[k]? with _ | e'
    · exact .none
    · exact .some ⟨rfl, rfl, .of_ne (Ne.symm hk) _⟩

/-- The moment of a run after some steps. -/
def moment (s : Scene) (cs : List Command) (n : Nat) : Moment := Moment.later ⟨[.commands cs], s⟩ n

/-- The same moment with other links of the marker under the key. -/
def Moment.relink (m : Moment) (key : Nat) (links : List Nat) : Moment :=
  { m with scene := m.scene.relink key links }

end Scene

/-- A tracker with a deleted marker does nothing when it is painted or hears of a range change. -/
theorem Tracker.inert_of_deleted {Item Listener : Type} {t : Tracker}
    (hdeleted : t.marker.deleted = true) (c : Chart Item Listener) :
    (∃ c', t.painted c = .ok (t, c')) ∧ ∃ c', t.rangeChanged c = .ok (t, c') := by
  have hlive : t.marker.isLive = false := by simp [Marker.isLive, hdeleted]
  have hpainted : t.repainted c.view = t := by simp [repainted, placed, hlive]
  have hheard : t.heard c.view = t := by simp [heard, hlive]
  obtain ⟨c₁, hpaint, -⟩ := t.painted_eq c
  obtain ⟨c₂, hrange, -⟩ := t.rangeChanged_eq c
  rw [hpainted] at hpaint
  rw [hheard] at hrange
  exact ⟨⟨c₁, hpaint⟩, c₂, hrange⟩

namespace Scene

open Work

variable {key i n : Nat} {d : FreeMarker}

/-- From whatever moment of a run a marker is deleted, and however many steps later, it stands where
it stood and its geometry is what it was, unless it is restyled or put in its place by name; and if
it were linked to any other labels then, it would be the same for all labels and for the chart. The
marker of a tracker does not move either once it is deleted. -/
theorem deleted_inert (s : Scene) (cs : List Command)
    (hd : (s.moment cs i).scene.markers.get? key = some d) (hdeleted : d.marker.deleted = true)
    (hspared : ∀ j < n, (s.moment cs (i + j)).disturbs key = false) :
    (∃ last, s.moment cs last = ⟨[], s.runAll cs⟩) ∧
      (∃ d', (s.moment cs (i + n)).scene.markers.get? key = some d' ∧
        d'.marker.deleted = true ∧ d'.marker.pos = d.marker.pos ∧
        d'.marker.placement = d.marker.placement) ∧
      (∀ links, let m := ((s.moment cs i).relink key links).later n
        m.tasks = (s.moment cs (i + n)).tasks ∧
        m.scene.labels = (s.moment cs (i + n)).scene.labels ∧
        m.scene.chart = (s.moment cs (i + n)).scene.chart) ∧
      ∀ (t : Tracker) (c : Chart Item Listener), t.marker.deleted = true →
        (∃ c', t.painted c = .ok (t, c')) ∧ ∃ c', t.rangeChanged c = .ok (t, c') := by
  have hmoment (j : Nat) : s.moment cs (i + j) = (s.moment cs i).later j := by
    rw [moment, Nat.add_comm, Moment.later_add]
    rfl
  simp only [hmoment] at hspared ⊢
  have htasks (links : List Nat) :
      ((s.moment cs i).relink key links).tasks = (s.moment cs i).tasks := rfl
  have htwins (links : List Nat) :=
    Twins.later (htasks links) (twins_relink hd hdeleted links) hspared
  refine ⟨exists_later cs s, (htwins []).2.exists_remains, fun links => ?_,
    fun t c ht => Tracker.inert_of_deleted ht c⟩
  obtain ⟨htasks, -, markers, firings, hscene, -⟩ := htwins links
  exact ⟨htasks, by rw [hscene], by rw [hscene]⟩

/-- A script deletes a marker that still waits for its call, shows it, enters it and connects it
again, changes the view once more and has everything painted. The marker is called twice and painted
three times after that, and stands where it stood. -/
theorem deleted_inert_in_round :
    let script := [("delete", .marker "M" .delete), ("show", .marker "M" .show),
      ("enter", .marker "M" .enter), ("connect", .marker "M" .connect),
      ("view", .tick (.range 0.0 200.0)), ("paint", .tick .paint)]
    let commands := [.subscribe "B" script, .marker "M" (.make (some .up) 50.0 22.0 true),
      .label "L" (.make "pp" [] "red" false), .label "L" (.anchor (.beside "M" .rightCentered)),
      .marker "M" (.link "L"), .marker "M" .paint, .marker "M" .connect, .tick (.range 0.0 400.0),
      .marker "M" .paint, .tick .paint]
    let deleted := (empty .standard).moment commands 10
    let last := (empty .standard).moment commands (10 + 21)
    last.tasks.isEmpty = true ∧ ∃ d d',
      deleted.scene.markers.get? 0 = some d ∧ d.marker.deleted = true ∧ d.marker.links = [0] ∧
      last.scene.markers.get? 0 = some d' ∧ d'.marker.visible = true ∧
      d'.marker.item.isSome = true ∧ d'.marker.subscription.isSome = true ∧
      d'.marker.pos = d.marker.pos ∧ d'.marker.placement = d.marker.placement ∧
      ((deleted.relink 0 []).later 21).scene.labels = last.scene.labels := by
  intro script commands deleted last
  have hstart : (deleted.scene.markers.get? 0).any (fun d =>
      d.marker.deleted && d.marker.links == [0]) = true := by decide +kernel
  have hend : last.tasks.isEmpty = true ∧ (last.scene.markers.get? 0).any (fun d =>
      d.marker.visible && d.marker.item.isSome && d.marker.subscription.isSome) = true := by
    decide +kernel
  have hspared : ∀ j < 21, ((empty .standard).moment commands (10 + j)).disturbs 0 = false := by
    decide +kernel
  have hlastMoment : (empty .standard).moment commands (10 + 21) = last := rfl
  have hdeletedMoment : (empty .standard).moment commands 10 = deleted := rfl
  obtain ⟨d, hd, hmarker⟩ := (Option.any_eq_true _ _).mp hstart
  obtain ⟨hdeleted, hlinks⟩ := Bool.and_eq_true_iff.mp hmarker
  obtain ⟨d', hd', hshown⟩ := (Option.any_eq_true _ _).mp hend.2
  simp only [Bool.and_eq_true] at hshown
  obtain ⟨-, ⟨_, hlast, -, hpos, hplacement⟩, hsame, -⟩ :=
    deleted_inert (empty .standard) commands hd hdeleted hspared
  simp only [hlastMoment, hdeletedMoment] at hlast hsame
  obtain rfl := Option.some.inj (hd'.symm.trans hlast)
  exact ⟨hend.1, d, d', hd, hdeleted, eq_of_beq hlinks, hd', hshown.1.1, hshown.1.2, hshown.2,
    hpos, hplacement, (hsame []).2.1⟩

end Scene

end PositionOverlay
