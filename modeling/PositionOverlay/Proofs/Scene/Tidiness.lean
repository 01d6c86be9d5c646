import PositionOverlay.Proofs.Scene.Commands
import PositionOverlay.Proofs.Scene.Registry
import PositionOverlay.Proofs.Tracker.Entries

/-! # Tidy scenes

A scene is tidy if the books of its chart hold the entries of its live trackers and of guests of
a kind, which only listen, and nothing else. A command to one tracker changes the entries of that
tracker only, so it leaves a tidy scene tidy, in the middle of a round or outside of rounds.
-/
namespace PositionOverlay

/-- A command to a tracker that leaves no line without an owner. -/
def TrackerCommand.tidy : TrackerCommand → Bool
  | .positionLine _ _ _ => false
  | _ => true

mutual

/-- A command that concerns trackers and subscriptions only and does not change the view. -/
def Command.calm : Command → Bool
  | .tick .paint => true
  | .dump => true
  | .map _ => true
  | .range => true
  | .subscribe _ actions => calmActions actions
  | .unsubscribe _ => true
  | .tracker _ c => c.tidy
  | _ => false

def calmActions : List (String × Command) → Bool
  | [] => true
  | (_, c) :: rest => c.calm && calmActions rest

end

/-- A command to a tracker, a change of the view or a paint cycle. -/
def Command.plain : Command → Bool
  | .tick (.place _) => false
  | .tick _ => true
  | .tracker _ c => c.tidy
  | _ => false

/-- A command that concerns trackers, subscriptions and the view, and whose subscriptions are
calm. -/
def Command.orderly : Command → Bool
  | .tick (.range _ _) => true
  | .tick (.height _) => true
  | c => c.calm

theorem calm_of_mem {actions : List (String × Command)} (h : calmActions actions = true)
    {e : String × Command} (he : e ∈ actions) : e.2.calm = true := by
  induction actions with
  | nil => exact nomatch he
  | cons a rest ih =>
    obtain ⟨ha, hrest⟩ := Bool.and_eq_true_iff.mp h
    rcases List.mem_cons.mp he with rfl | he
    · exact ha
    · exact ih hrest he

namespace Scene

open Work Tracker Tracker.Account

/-- A listener that runs calm commands. -/
def Listener.Calm : Listener → Prop
  | .script _ actions => calmActions actions = true
  | _ => False

/-- A listener of a tracker. -/
def Listener.isTracker : Listener → Bool
  | .tracker _ _ => true
  | _ => false

/-- What a tracker has on the chart of the scene. -/
def entriesOf (p : Nat × Tracker) : Ledger Item Listener := p.2.account.entries (entrance p.1)

/-- What some trackers have on the chart. -/
def entriesOfAll (ps : List (Nat × Tracker)) : Ledger Item Listener := (ps.map entriesOf).sum

theorem entriesOfAll_cons (p : Nat × Tracker) (ps : List (Nat × Tracker)) :
    entriesOfAll (p :: ps) = entriesOf p + entriesOfAll ps := List.sum_cons

theorem entriesOfAll_perm {ps qs : List (Nat × Tracker)} (h : ps.Perm qs) :
    entriesOfAll ps = entriesOfAll qs := (h.map entriesOf).sum_eq

/-- The items of some trackers. -/
def itemsOf (ps : List (Nat × Tracker)) : List (Nat × Item) :=
  ps.filterMap fun p => p.2.marker.item.map fun n => (n, .tracker p.1 p.2.build)

/-- The listeners of some trackers. -/
def listenersOf (ps : List (Nat × Tracker)) : List (Nat × Listener) :=
  ps.filterMap fun p => p.2.marker.subscription.map fun n => (n, .tracker p.1 p.2.build)

theorem entriesOfAll_eq (ps : List (Nat × Tracker)) :
    entriesOfAll ps = (↑(itemsOf ps), ↑(listenersOf ps), ps.countP fun p => p.2.line.isSome) := by
  induction ps with
  | nil => rfl
  | cons p ps ih =>
    have hi : itemsOf (p :: ps) = p.2.account.items (entrance p.1) ++ itemsOf ps := by
      rw [itemsOf, List.filterMap_cons]
      cases h : p.2.marker.item <;> simp [items, account, h, entrance, itemsOf]
    have hl : listenersOf (p :: ps) = p.2.account.listeners (entrance p.1) ++ listenersOf ps := by
      rw [listenersOf, List.filterMap_cons]
      cases h : p.2.marker.subscription <;> simp [listeners, account, h, entrance, listenersOf]
    have hc : (p :: ps).countP (fun p => p.2.line.isSome) =
        p.2.account.line.toList.length + ps.countP fun p => p.2.line.isSome := by
      rw [List.countP_cons, add_comm]
      cases h : p.2.line <;> simp [account, h]
    rw [entriesOfAll_cons, ih, hi, hl, hc]
    rfl

/-- The trackers are in order, and the books of the chart hold their entries and those of
guests. -/
structure Tidy (guest : Listener → Prop) (taken : List (Nat × Listener)) (s : Scene) : Prop where
  distinct : s.trackers.Distinct
  free : s.trackers.All fun t => t.marker.holders = 0
  inOrder : ∀ p ∈ s.trackers.living, p.2.account.InOrder
  books : ∃ guests : Multiset (Nat × Listener), (∀ e ∈ guests, guest e.2) ∧
    s.chart.Books taken (entriesOfAll s.trackers.living + (0, guests, 0))
  reserved : ∀ p ∈ s.subscriptions, p.2 < s.chart.nextId ∧
    ∀ q ∈ s.trackers.living, q.2.marker.subscription ≠ some p.2

variable {guest : Listener → Prop} {taken : List (Nat × Listener)} {s : Scene} {key : Nat}
  {name : String} {t : Tracker}

theorem tidy_empty (view : View) : (empty view).Tidy guest [] where
  distinct := Registry.distinct_empty
  free := Registry.all_empty
  inOrder p hp := by
    rw [empty, Registry.living_empty] at hp
    exact nomatch hp
  books := by
    refine ⟨0, fun e he => absurd he (Multiset.notMem_zero e), ?_⟩
    rw [empty, Registry.living_empty]
    exact Chart.books_empty view
  reserved p hp := nomatch hp

theorem Tidy.tracker? (h : s.Tidy guest taken) (key : Nat) :
    s.tracker? key = s.trackers.live? key :=
  Registry.reach?_eq_live? fun t ht => by simp [Marker.isHeld, h.free ht]

/-- What surrounds a tracker on the chart of a scene. -/
def surroundings (s : Scene) (taken : List (Nat × Listener)) (guests : Multiset (Nat × Listener))
    (others : List (Nat × Tracker)) : Surroundings Item Listener :=
  ⟨taken, entriesOfAll others + (0, guests, 0), s.subscriptions.map Prod.snd⟩

variable {guests : Multiset (Nat × Listener)}

/-- The live trackers need to be known in some order only. -/
theorem tidy_of_perm {ps : List (Nat × Tracker)} (hps : s.trackers.living.Perm ps)
    (hd : s.trackers.Distinct) (hf : s.trackers.All fun t => t.marker.holders = 0)
    (ha : ∀ p ∈ ps, p.2.account.InOrder) (hguest : ∀ e ∈ guests, guest e.2)
    (hb : s.chart.Books taken (entriesOfAll ps + (0, guests, 0)))
    (hr : ∀ p ∈ s.subscriptions, p.2 < s.chart.nextId ∧
      ∀ q ∈ ps, q.2.marker.subscription ≠ some p.2) : s.Tidy guest taken where
  distinct := hd
  free := hf
  inOrder p hp := ha p (hps.subset hp)
  books := ⟨guests, hguest, by rwa [entriesOfAll_perm hps]⟩
  reserved p hp := ⟨(hr p hp).1, fun q hq => (hr p hp).2 q (hps.subset hq)⟩

theorem rest_subset (hk : s.trackers.Holds key name t) {p : Nat × Tracker}
    (hp : p ∈ s.trackers.rest key) : p ∈ s.trackers.living :=
  (Registry.living_of_holds hk).symm.subset (List.mem_cons_of_mem _ hp)

/-- A tracker of a tidy scene is entered. -/
theorem Tidy.entered (h : s.Tidy guest taken)
    (hb : s.chart.Books taken (entriesOfAll s.trackers.living + (0, guests, 0)))
    (hk : s.trackers.Holds key name t) :
    Entered (entrance key) (s.surroundings taken guests (s.trackers.rest key)) t.account
      s.chart := by
  have hperm := Registry.living_of_holds hk
  have hmem : (key, t) ∈ s.trackers.living := Registry.mem_living.mpr ⟨name, hk⟩
  refine ⟨h.inOrder _ hmem, ?_, fun n hn => ?_⟩
  · rw [entriesOfAll_perm hperm, entriesOfAll_cons, add_assoc] at hb
    exact hb
  · obtain ⟨p, hp, rfl⟩ := List.mem_map.mp hn
    exact ⟨(h.reserved p hp).1, (h.reserved p hp).2 _ hmem⟩

/-- A scene is tidy as long as what becomes of one tracker is entered. -/
theorem Tidy.set (h : s.Tidy guest taken) (hk : s.trackers.Holds key name t) {t' : Tracker}
    {c' : Chart Item Listener} (hguest : ∀ e ∈ guests, guest e.2)
    (ht' : Entered (entrance key) (s.surroundings taken guests (s.trackers.rest key)) t'.account
      c') : Tidy guest taken { s with chart := c', trackers := s.trackers.set key t' } := by
  refine tidy_of_perm (Registry.living_set hk t') (h.distinct.set _ _)
    (h.free.set _ ht'.inOrder.free) (fun p hp => ?_) hguest ?_ fun p hp => ?_
  · rcases List.mem_cons.mp hp with rfl | hp
    · exact ht'.inOrder
    · exact h.inOrder p (rest_subset hk hp)
  · rw [entriesOfAll_cons, add_assoc]
    exact ht'.listed.books
  · obtain ⟨hlt, hne⟩ := ht'.listed.reserved p.2 (List.mem_map_of_mem hp)
    refine ⟨hlt, fun q hq => ?_⟩
    rcases List.mem_cons.mp hq with rfl | hq
    · exact hne
    · exact (h.reserved p hp).2 q (rest_subset hk hq)

/-- Nothing else in a scene counts. -/
theorem Tidy.congr {s' : Scene} (h : s.Tidy guest taken) (hc : s'.chart = s.chart)
    (ht : s'.trackers = s.trackers) (hs : s'.subscriptions = s.subscriptions) :
    s'.Tidy guest taken := by
  obtain ⟨h₁, h₂, h₃, h₄, h₅⟩ := h
  rw [← ht] at h₁ h₂ h₃ h₄ h₅
  rw [← hc] at h₄ h₅
  rw [← hs] at h₅
  exact ⟨h₁, h₂, h₃, h₄, h₅⟩

/-- The number of a tracker's subscription has been issued. -/
theorem Tidy.subscription_lt (h : s.Tidy guest taken) {p : Nat × Tracker}
    (hp : p ∈ s.trackers.living) {n : Nat} (hn : p.2.marker.subscription = some n) :
    n < s.chart.nextId := by
  obtain ⟨guests, -, hb⟩ := h.books
  obtain ⟨name, hk⟩ := Registry.mem_living.mp hp
  exact (h.entered hb hk).listed.subscription_lt hn

/-! ## Commands -/

/-- Work that leaves a scene tidy. -/
abbrev KeepsTidy (guest : Listener → Prop) (taken : List (Nat × Listener)) {α : Type}
    (x : SceneM α) : Prop :=
  Ensures (Tidy guest taken) x fun _ => Tidy guest taken

theorem apart_keepsTidy {f : Scene → Scene}
    (hf : ∀ s, (f s).chart = s.chart ∧ (f s).trackers = s.trackers ∧
      (f s).subscriptions = s.subscriptions) : KeepsTidy guest taken (modify f) :=
  .modify fun s h => h.congr (hf s).1 (hf s).2.1 (hf s).2.2

theorem changeTracker_keepsTidy (name : String)
    {work : Entrance Item Listener → Tracker → ChartM Item Listener Tracker}
    (hwork : ∀ own t, KeepsEntered own t (work own t)) :
    KeepsTidy guest taken (changeTracker name work) := by
  intro s reply s' h hrun
  obtain ⟨key, t, t', c, hfind, hx, rfl⟩ := changeTracker_eq_ok hrun
  obtain ⟨guests, hguest, hb⟩ := h.books
  have hk := Registry.holds_of_find? hfind
  exact h.set hk hguest (hwork _ t _ (h.entered hb hk) hx)

theorem dropTracker_keepsTidy (name : String) : KeepsTidy guest taken (dropTracker name) := by
  intro s reply s' h hrun
  rcases dropTracker_eq_ok hrun with ⟨-, rfl⟩ | ⟨key, t, t', c, hfind, hdrop, rfl⟩
  · exact h
  · obtain ⟨guests, hguest, hb⟩ := h.books
    have hk := Registry.holds_of_find? hfind
    obtain ⟨hbooks, hissued⟩ := drop_ensures t (h.entered hb hk) hdrop
    refine tidy_of_perm (Registry.living_drop h.distinct hk) (h.distinct.drop _) (h.free.drop _)
      (fun p hp => h.inOrder p (rest_subset hk hp)) hguest hbooks fun p hp => ?_
    exact ⟨hissued p.2 (List.mem_map_of_mem hp),
      fun q hq => (h.reserved p hp).2 q (rest_subset hk hq)⟩

/-- The new tracker is entered beside an older one of its name, before that is dropped. -/
theorem makeTracker_keepsTidy (name symbol : String) (config : OverlayConfig) :
    KeepsTidy guest taken (makeTracker name symbol config) := by
  intro s reply s' h hrun
  obtain ⟨t, c, c', hcreate, rfl, hold⟩ := makeTracker_eq_ok hrun
  obtain ⟨guests, hguest, hb⟩ := h.books
  have hnew := create_ensures (entrance s.trackers.nextKey)
    (s.surroundings taken guests s.trackers.living) symbol config
    ⟨hb, fun n hn => by
      obtain ⟨p, hp, rfl⟩ := List.mem_map.mp hn
      exact (h.reserved p hp).1⟩ hcreate
  have hreserved (p) (hp : p ∈ s.subscriptions) :=
    hnew.listed.reserved p.2 (List.mem_map_of_mem hp)
  rcases hold with ⟨hfind, rfl⟩ | ⟨key, old, t', hfind, hdrop⟩
  · have hunheld := Registry.living_drop_of_unheld (Registry.find?_eq_none_iff.mp hfind)
    refine tidy_of_perm ((Registry.living_add name t).trans (hunheld.cons _)) (h.distinct.add _ _)
      (h.free.add _ hnew.inOrder.free)
      (List.forall_mem_cons.mpr ⟨hnew.inOrder, h.inOrder⟩) hguest ?_ fun p hp => ?_
    · rw [entriesOfAll_cons, add_assoc]
      exact hnew.listed.books
    · exact ⟨(hreserved p hp).1,
        List.forall_mem_cons.mpr ⟨(hreserved p hp).2, (h.reserved p hp).2⟩⟩
  · have hk := Registry.holds_of_find? hfind
    have hentered : Entered (entrance key)
        (s.surroundings taken guests ((s.trackers.nextKey, t) :: s.trackers.rest key))
        old.account c := by
      refine ⟨(h.entered hb hk).inOrder, ?_, fun n hn => ?_⟩
      · have hbooks := hnew.listed.books
        simp only [surroundings] at hbooks ⊢
        rw [entriesOfAll_perm (Registry.living_of_holds hk), entriesOfAll_cons, add_assoc,
          add_left_comm] at hbooks
        rwa [entriesOfAll_cons, add_assoc]
      · obtain ⟨p, hp, rfl⟩ := List.mem_map.mp hn
        exact ⟨(hreserved p hp).1, ((h.entered hb hk).listed.reserved _ hn).2⟩
    obtain ⟨hbooks, hissued⟩ := drop_ensures old hentered hdrop
    refine tidy_of_perm ((Registry.living_add name t).trans
      ((Registry.living_drop h.distinct hk).cons _)) (h.distinct.add _ _)
      (h.free.add _ hnew.inOrder.free) (List.forall_mem_cons.mpr ⟨hnew.inOrder,
        fun p hp => h.inOrder p (rest_subset hk hp)⟩) hguest hbooks fun p hp => ?_
    exact ⟨hissued p.2 (List.mem_map_of_mem hp), List.forall_mem_cons.mpr ⟨(hreserved p hp).2,
      fun q hq => (h.reserved p hp).2 q (rest_subset hk hq)⟩⟩

theorem current_keepsTidy (name : String) : KeepsTidy guest taken (runTracker.current name) := by
  intro s t s' h hrun
  rw [current_eq_ok hrun]
  exact h

theorem runTracker_keepsTidy (name : String) {c : TrackerCommand} (hc : c.tidy = true) :
    KeepsTidy guest taken (runTracker name c) := by
  unfold runTracker
  cases c with
  | make symbol config => exact makeTracker_keepsTidy name symbol config
  | drop => exact dropTracker_keepsTidy name
  | update avgPrice size =>
    exact changeTracker_keepsTidy name fun own t => update_keepsEntered _
  | updateLine price size =>
    exact changeTracker_keepsTidy name fun own t => updateLine_keepsEntered _ _
  | levelMarker size => exact changeTracker_keepsTidy name fun own t => levelMarker_keepsEntered _
  | «show» => exact changeTracker_keepsTidy name fun own t => show_keepsEntered
  | hide => exact changeTracker_keepsTidy name fun own t => pure_keepsEntered t.account_hide
  | hideInfo => exact changeTracker_keepsTidy name fun own t => pure_keepsEntered rfl
  | fill f => exact changeTracker_keepsTidy name fun own t => recordFill_keepsEntered f
  | positionLine size level keepAs => exact nomatch hc
  | _ => exact (current_keepsTidy name).bind fun _ => .pure fun _ h => h

end Scene

end PositionOverlay
