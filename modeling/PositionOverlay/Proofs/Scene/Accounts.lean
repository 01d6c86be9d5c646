import PositionOverlay.Proofs.Scene.Subscriptions
import PositionOverlay.Proofs.Scene.Tidiness

/-! # Accounts of scenes

Commands to trackers, changes of the view and paint cycles leave a tidy scene tidy, also when they
come from subscriptions during a change, as long as these do not change the view again. So whatever
has been done, the chart holds what the live trackers account for.
-/
namespace PositionOverlay.Scene

open Work Tracker Tracker.Account

variable {guest : Listener → Prop} {taken : List (Nat × Listener)} {s : Scene} {t : Tracker}

/-! ## Ticks -/

/-- A tracker that is called is entered afterwards. -/
theorem Tidy.visit (h : s.Tidy guest taken) (hk : s.tracker? key = some t)
    {x : ChartM Item Listener Tracker} (hx : KeepsEntered (entrance key) t x) {s' : Scene}
    (hrun : (onChart x >>= setTracker key) s = .ok ((), s')) : s'.Tidy guest taken := by
  obtain ⟨t', s₁, hon, hrun⟩ := bind_eq_ok.mp hrun
  obtain ⟨c', hc', rfl⟩ := onChart_eq_ok.mp hon
  obtain ⟨-, rfl⟩ := Prod.mk.inj (Except.ok.inj hrun)
  rw [h.tracker?] at hk
  obtain ⟨name, hk⟩ := Registry.live?_eq_some_iff.mp hk
  obtain ⟨guests, hguest, hb⟩ := h.books
  exact h.set hk hguest (hx _ (h.entered hb hk) hc')

theorem paintItem_keepsTidy (key build : Nat) :
    KeepsTidy guest taken (paintItem (.tracker key build)) := by
  intro s _ s' h hrun
  obtain ⟨_, s₀, hget, hrun⟩ := bind_eq_ok.mp hrun
  obtain ⟨rfl, rfl⟩ := Prod.mk.inj (Except.ok.inj hget)
  rcases hk : s.tracker? key with _ | t
  · simp only [hk] at hrun
    obtain ⟨-, rfl⟩ := Prod.mk.inj (Except.ok.inj hrun)
    exact h
  · simp only [hk] at hrun
    exact h.visit hk painted_keepsEntered hrun

/-- All items of a tidy scene are of trackers. -/
theorem Tidy.item_tracker (h : s.Tidy guest taken) {e : Nat × Item} (he : e ∈ s.chart.items) :
    ∃ key build, e.2 = .tracker key build := by
  obtain ⟨guests, -, hb⟩ := h.books
  rw [← Multiset.mem_coe, hb.items, entriesOfAll_eq, Prod.fst_add, add_zero, Multiset.mem_coe] at he
  obtain ⟨p, -, hp⟩ := List.mem_filterMap.mp he
  obtain ⟨n, -, rfl⟩ := Option.map_eq_some_iff.mp hp
  exact ⟨_, _, rfl⟩

theorem paint_keepsTidy : KeepsTidy guest taken paint := by
  intro s _ s' h hrun
  obtain ⟨_, s₀, hget, hrun⟩ := bind_eq_ok.mp hrun
  obtain ⟨rfl, rfl⟩ := Prod.mk.inj (Except.ok.inj hget)
  refine Ensures.forM (fun e he => ?_) h hrun
  obtain ⟨key, build, he⟩ := h.item_tracker (List.mem_of_mem_filter he)
  rw [he]
  exact paintItem_keepsTidy key build

/-- The listeners of a tidy scene are of trackers or guests. -/
theorem Tidy.tracker_or_guest (h : s.Tidy guest []) {e : Nat × Listener}
    (he : e ∈ s.chart.listeners) : (∃ key build, e.2 = .tracker key build) ∨ guest e.2 := by
  obtain ⟨guests, hguest, hb⟩ := h.books
  have he : e ∈ (s.chart.standing [] : Multiset (Nat × Listener)) := he
  rw [hb.listeners, entriesOfAll_eq, Prod.snd_add, Prod.fst_add, Multiset.mem_add,
    Multiset.mem_coe] at he
  rcases he with he | he
  · obtain ⟨p, -, hp⟩ := List.mem_filterMap.mp he
    obtain ⟨n, -, rfl⟩ := Option.map_eq_some_iff.mp hp
    exact .inl ⟨_, _, rfl⟩
  · exact .inr (hguest e he)

/-- Work on the chart that its books do not show. -/
theorem Tidy.chart {taken' : List (Nat × Listener)} (h : s.Tidy guest taken)
    {c : Chart Item Listener} (hid : c.nextId = s.chart.nextId)
    (hb : ∀ b, s.chart.Books taken b → c.Books taken' b) :
    Tidy guest taken' { s with chart := c } := by
  obtain ⟨guests, hguest, hbooks⟩ := h.books
  exact ⟨h.distinct, h.free, h.inOrder, ⟨guests, hguest, hb _ hbooks⟩, fun p hp =>
    ⟨hid ▸ (h.reserved p hp).1, (h.reserved p hp).2⟩⟩

/-! ## Changes of the view -/

section Guests

variable {runScript : String → List (String × Command) → SceneM Unit}
  (hhear : ∀ taken l, guest l → KeepsTidy guest taken (hear runScript l))

include hhear

theorem hear_keepsTidy {l : Listener} (hl : (∃ key build, l = .tracker key build) ∨ guest l) :
    KeepsTidy guest taken (hear runScript l) := by
  rcases hl with ⟨key, build, rfl⟩ | hl
  · intro s _ s' h hrun
    obtain ⟨_, s₀, hget, hrun⟩ := bind_eq_ok.mp hrun
    obtain ⟨rfl, rfl⟩ := Prod.mk.inj (Except.ok.inj hget)
    rcases hk : s.tracker? key with _ | t
    · simp only [hk] at hrun
      obtain ⟨-, rfl⟩ := Prod.mk.inj (Except.ok.inj hrun)
      exact h
    · simp only [hk] at hrun
      split_ifs at hrun
      · exact h.visit hk rangeChanged_keepsEntered hrun
      · obtain ⟨-, rfl⟩ := Prod.mk.inj (Except.ok.inj hrun)
        exact h
  · exact hhear taken l hl

/-- A change of the view finds a tidy scene and leaves one. -/
theorem setView_keepsTidy (f : View → View) : KeepsTidy guest [] (setView runScript f) := by
  intro s _ s' h hrun
  obtain ⟨_, s₁, hview, hrun⟩ := bind_eq_ok.mp hrun
  obtain ⟨-, rfl⟩ := Prod.mk.inj (Except.ok.inj hview)
  obtain ⟨running, s₂, htake, hrun⟩ := bind_eq_ok.mp hrun
  obtain ⟨c, hc, rfl⟩ := onChart_eq_ok.mp htake
  obtain ⟨rfl, rfl⟩ := Prod.mk.inj (Except.ok.inj hc)
  obtain ⟨_, s₃, hcalls, hput⟩ := bind_eq_ok.mp hrun
  obtain ⟨c, hc, rfl⟩ := onChart_eq_ok.mp hput
  obtain ⟨-, rfl⟩ := Prod.mk.inj (Except.ok.inj hc)
  have hlisteners := fun e he => h.tracker_or_guest (e := e) he
  have htaken : Tidy guest s.chart.listeners { s with
      chart := { s.chart with view := f s.chart.view }.takeListeners.2 } :=
    h.chart rfl fun b hb => (hb.takeListeners).of_still rfl rfl rfl rfl rfl rfl
  have hcalled : s₃.Tidy guest s.chart.listeners :=
    Ensures.forM (fun e he => hear_keepsTidy hhear (hlisteners e he)) htaken hcalls
  exact hcalled.chart rfl fun b hb => hb.putListeners

theorem runPlain_keepsTidy {c : Command} (hc : c.plain = true) :
    KeepsTidy guest [] (runWith runScript c) := by
  unfold runWith
  cases c with
  | tick t =>
    cases t with
    | range yMin yMax =>
      exact (setView_keepsTidy hhear _).bind fun _ => .bind .get fun _ => .pure fun _ h => h.2
    | height y =>
      exact (setView_keepsTidy hhear _).bind fun _ => .bind .get fun _ => .pure fun _ h => h.2
    | paint => exact paint_keepsTidy.bind fun _ => .bind .get fun _ => .pure fun _ h => h.2
    | place marker => exact nomatch hc
  | tracker name c => exact runTracker_keepsTidy name hc
  | _ => exact nomatch hc

end Guests

/-! ## Subscriptions -/

theorem subscribe_keepsTidy {name : String} {actions : List (String × Command)}
    (h : guest (.script name actions)) :
    KeepsTidy guest taken (do
      let id ← onChart (modifyGet (·.subscribe (.script name actions)))
      modify fun s => { s with subscriptions := s.subscriptions ++ [(name, id)] }
      return .number id : SceneM Reply) := by
  intro s reply s' hs hrun
  obtain ⟨id, s₁, hon, hrun⟩ := bind_eq_ok.mp hrun
  obtain ⟨c, hc, rfl⟩ := onChart_eq_ok.mp hon
  obtain ⟨rfl, rfl⟩ := Prod.mk.inj (Except.ok.inj hc)
  obtain ⟨_, s₂, hmodify, hrun⟩ := bind_eq_ok.mp hrun
  obtain ⟨-, rfl⟩ := Prod.mk.inj (Except.ok.inj hmodify)
  obtain ⟨-, rfl⟩ := Prod.mk.inj (Except.ok.inj hrun)
  obtain ⟨guests, hguest, hb⟩ := hs.books
  refine ⟨hs.distinct, hs.free, hs.inOrder,
    ⟨{(s.chart.nextId, .script name actions)} + guests, fun e he => ?_, ?_⟩, fun p hp => ?_⟩
  · rcases Multiset.mem_add.mp he with he | he
    · rw [Multiset.mem_singleton.mp he]
      exact h
    · exact hguest e he
  · have hnew := hb.subscribe (.script name actions)
    rw [add_left_comm] at hnew
    exact hnew
  · rcases List.mem_append.mp hp with hp | hp
    · exact ⟨Nat.lt_succ_of_lt (hs.reserved p hp).1, (hs.reserved p hp).2⟩
    · rw [List.mem_singleton.mp hp]
      exact ⟨Nat.lt_succ_self _, fun q hq hn => Nat.lt_irrefl _ (hs.subscription_lt hq hn)⟩

/-- No tracker listens under the number of a subscription. -/
theorem Tidy.foreign (h : s.Tidy guest taken) {p : String × Nat} (hp : p ∈ s.subscriptions) :
    p.2 ∉ (entriesOfAll s.trackers.living).2.1.map Prod.fst := by
  rw [entriesOfAll_eq, Multiset.map_coe, Multiset.mem_coe]
  intro hid
  obtain ⟨e, he, hep⟩ := List.mem_map.mp hid
  obtain ⟨q, hq, he⟩ := List.mem_filterMap.mp he
  obtain ⟨n, hn, rfl⟩ := Option.map_eq_some_iff.mp he
  exact (h.reserved p hp).2 q hq (hep ▸ hn)

theorem unsubscribe_keepsTidy (name : String) :
    KeepsTidy guest taken (do
      let id ← known ((← get).subscriptions.reverse.lookup name)
      onChart (modify (·.unsubscribe id))
      return .number id : SceneM Reply) := by
  intro s reply s' h hrun
  obtain ⟨_, s₀, hget, hrun⟩ := bind_eq_ok.mp hrun
  obtain ⟨rfl, rfl⟩ := Prod.mk.inj (Except.ok.inj hget)
  obtain ⟨id, s₁, hknown, hrun⟩ := bind_eq_ok.mp hrun
  obtain ⟨hlookup, rfl⟩ := known_eq_ok.mp hknown
  obtain ⟨_, s₂, hon, hrun⟩ := bind_eq_ok.mp hrun
  obtain ⟨c, hc, rfl⟩ := onChart_eq_ok.mp hon
  obtain ⟨-, rfl⟩ := Prod.mk.inj (Except.ok.inj hc)
  obtain ⟨-, rfl⟩ := Prod.mk.inj (Except.ok.inj hrun)
  have hmem : (name, id) ∈ s.subscriptions := by
    obtain ⟨_, _, hsplit, -⟩ := List.lookup_eq_some_iff.mp hlookup
    rw [← List.mem_reverse, hsplit]
    exact List.mem_append_right _ List.mem_cons_self
  obtain ⟨guests, hguest, hb⟩ := h.books
  refine ⟨h.distinct, h.free, h.inOrder,
    ⟨Ledger.strike guests id, fun e he => hguest e (Multiset.mem_of_mem_filter he), ?_⟩,
    fun p hp => ?_⟩
  · have hstrike : Ledger.strike ((entriesOfAll s.trackers.living).2.1 + guests) id =
        (entriesOfAll s.trackers.living).2.1 + Ledger.strike guests id := by
      rw [Ledger.strike_add, Ledger.strike_of_notMem (h.foreign hmem)]
    have hb' := hb.unsubscribe (h.reserved _ hmem).1
    change Chart.Books _ _ (_, Ledger.strike ((entriesOfAll s.trackers.living).2.1 + guests) id, _)
      at hb'
    rw [hstrike] at hb'
    exact hb'
  · rw [s.chart.nextId_unsubscribe]
    exact h.reserved p hp

/-! ## Commands -/

/-- A calm command gives no subscription a turn. -/
theorem runCalm_keepsTidy (runScript : String → List (String × Command) → SceneM Unit)
    {c : Command} (hc : c.calm = true) :
    KeepsTidy Listener.Calm taken (runWith runScript c) := by
  unfold runWith
  cases c with
  | tick t =>
    cases t with
    | paint => exact paint_keepsTidy.bind fun _ => .bind .get fun _ => .pure fun _ h => h.2
    | _ => exact nomatch hc
  | dump => exact .bind .get fun _ => .pure fun _ h => h.2
  | map p => exact .bind .get fun _ => .pure fun _ h => h.2
  | range => exact .bind .get fun _ => .pure fun _ h => h.2
  | subscribe name actions => exact subscribe_keepsTidy hc
  | unsubscribe name => exact unsubscribe_keepsTidy name
  | tracker name c => exact runTracker_keepsTidy name hc
  | _ => exact nomatch hc

theorem attempt_keepsTidy {x : SceneM Reply} (hx : KeepsTidy guest taken x) :
    KeepsTidy guest taken (modifyGet (attempt x)) := by
  refine .modifyGet fun s h => ?_
  unfold attempt
  split
  · rename_i hrun
    exact hx h hrun
  · exact h

theorem record_keepsTidy (f : Firing) : KeepsTidy guest taken (record f) :=
  apart_keepsTidy fun _ => ⟨rfl, rfl, rfl⟩

/-- What subscriptions do leaves a tidy scene. -/
theorem runScript_keepsTidy (depth : Nat) (taken : List (Nat × Listener)) (name : String)
    (actions : List (String × Command)) (h : calmActions actions = true) :
    KeepsTidy Listener.Calm taken (runScript depth name actions) := by
  cases depth with
  | zero => exact .pure fun _ => id
  | succ depth =>
    refine (record_keepsTidy _).bind fun _ => Ensures.forM fun e he => ?_
    exact (attempt_keepsTidy (runCalm_keepsTidy _ (calm_of_mem h he))).bind fun _ =>
      record_keepsTidy _

theorem hearCalm_keepsTidy (depth : Nat) (taken : List (Nat × Listener)) (l : Listener)
    (hl : l.Calm) : KeepsTidy Listener.Calm taken (hear (runScript depth) l) := by
  cases l with
  | script name actions => exact runScript_keepsTidy depth taken name actions hl
  | _ => exact hl.elim

theorem Tidy.run (h : s.Tidy Listener.Calm []) {c : Command} (hc : c.orderly = true) :
    (s.run c).2.Tidy Listener.Calm [] := by
  refine attempt_keepsTidy ?_ h rfl
  by_cases hcalm : c.calm = true
  · exact runCalm_keepsTidy _ hcalm
  · refine runPlain_keepsTidy (hearCalm_keepsTidy s.depth) ?_
    cases c with
    | tick t =>
      cases t with
      | place marker => exact absurd hc hcalm
      | _ => rfl
    | _ => exact absurd hc hcalm

theorem Tidy.runAll (h : s.Tidy Listener.Calm []) {cs : List Command}
    (hcs : ∀ c ∈ cs, c.orderly = true) : (s.runAll cs).Tidy Listener.Calm [] := by
  induction cs generalizing s with
  | nil => exact h
  | cons c cs ih =>
    obtain ⟨hc, hcs⟩ := List.forall_mem_cons.mp hcs
    exact ih (h.run hc) hcs

/-- What there is on the chart of a scene is what its live trackers account for. -/
structure Accounted (s : Scene) : Prop where
  /-- There is one item for each live tracker, of the current build of its marker. -/
  items : s.chart.items.Perm (itemsOf s.trackers.living)
  item : ∀ p ∈ s.trackers.living, p.2.marker.item.isSome
  /-- The listeners of trackers are those of the current builds of subscribed markers. -/
  listeners : (s.chart.listeners.filter fun e => e.2.isTracker).Perm (listenersOf s.trackers.living)
  subscribed : ∀ p ∈ s.trackers.living, p.2.line.isSome → p.2.marker.subscription.isSome
  links : ∀ p ∈ s.trackers.living, p.2.marker.links = [.pp, .size]
  colors : ∀ p ∈ s.trackers.living, ∀ l, p.2.line = some l →
    p.2.marker.pen = some l.color ∧ p.2.marker.brush = some l.color
  lines : s.chart.tally.linesCreated =
    s.chart.tally.linesDeleted + s.trackers.living.countP fun p => p.2.line.isSome

theorem Tidy.accounted (h : s.Tidy Listener.Calm []) : s.Accounted := by
  obtain ⟨guests, hguest, hb⟩ := h.books
  rw [entriesOfAll_eq] at hb
  refine ⟨Multiset.coe_eq_coe.mp ?_, fun p hp => (h.inOrder p hp).item, Multiset.coe_eq_coe.mp ?_,
    fun p hp hl => (h.inOrder p hp).subscribed ?_, fun p hp => (h.inOrder p hp).links,
    fun p hp l hl => ((h.inOrder p hp).line l.color l.deleted ?_).2, ?_⟩
  · rw [hb.items, Prod.fst_add, add_zero]
  · have hall : (s.chart.listeners : Multiset (Nat × Listener)) =
        ↑(listenersOf s.trackers.living) + guests := hb.listeners
    have hown : ∀ e ∈ (listenersOf s.trackers.living : Multiset (Nat × Listener)),
        e.2.isTracker = true := by
      intro e he
      obtain ⟨p, -, hp⟩ := List.mem_filterMap.mp he
      obtain ⟨n, -, rfl⟩ := Option.map_eq_some_iff.mp hp
      rfl
    have hothers : ∀ e ∈ guests, ¬ e.2.isTracker = true := by
      rintro ⟨n, l⟩ he
      have hl := hguest _ he
      cases l with
      | script name actions => exact Bool.false_ne_true
      | _ => exact nomatch hl
    have hfilter := congrArg (Multiset.filter fun e => e.2.isTracker = true) hall
    rw [Multiset.filter_add, Multiset.filter_eq_self.mpr hown, Multiset.filter_eq_nil.mpr hothers,
      add_zero, Multiset.filter_coe] at hfilter
    simpa using hfilter
  · rw [account, Option.isSome_map]
    exact hl
  · rw [account, hl]
    rfl
  · rw [hb.lines, Prod.snd_add, Prod.snd_add, add_zero]

/-- After any commands to trackers, changes of the view and paint cycles, also from subscriptions
that do not change the view, the chart holds what the live trackers account for; without any
nothing is left. -/
theorem runAll_accounted (view : View) (cs : List Command) (hcs : ∀ c ∈ cs, c.orderly = true) :
    let s := (empty view).runAll cs
    s.Accounted ∧ (s.trackers.living = [] →
      s.chart.items = [] ∧ (∀ e ∈ s.chart.listeners, e.2.isTracker = false) ∧
        s.chart.tally.linesCreated = s.chart.tally.linesDeleted) := by
  intro s
  have hs : s.Accounted := ((tidy_empty view).runAll hcs).accounted
  refine ⟨hs, fun hnone => ⟨?_, fun e he => ?_, ?_⟩⟩
  · have hitems := hs.items
    rw [hnone] at hitems
    exact hitems.eq_nil
  · have hlisteners := hs.listeners
    rw [hnone] at hlisteners
    have hnil := List.filter_eq_nil_iff.mp hlisteners.eq_nil e he
    simpa using hnil
  · have hlines := hs.lines
    rw [hnone] at hlines
    exact hlines

/-- While the view changes, a subscription drops one tracker and has the marker of another built
anew. Then the other is dropped, too. -/
theorem runAll_accounted_dropped :
    let script := [("drop", .tracker "A" .drop), ("rebuild", .tracker "B" (.levelMarker 1.0))]
    let cs : List Command := [.tracker "A" (.make "BTC" .standard),
      .tracker "B" (.make "BTC" .standard), .tracker "A" (.update 100.0 2.0),
      .tracker "B" (.update 100.0 (-2.0)), .subscribe "C" script, .tick (.range 0.0 10.0),
      .tracker "B" .drop]
    let s := (empty .standard).runAll cs
    (∀ c ∈ cs, c.orderly = true) ∧ s.Accounted ∧ s.trackers.living = [] ∧ s.chart.items = [] ∧
      (∀ e ∈ s.chart.listeners, e.2.isTracker = false) ∧ s.chart.listeners.length = 1 ∧
      s.chart.tally.linesCreated = 2 ∧ s.chart.tally.linesDeleted = 2 := by
  intro script cs s
  have hall : cs.all Command.orderly = true := rfl
  have hcs := List.all_eq_true.mp hall
  have hliving : s.trackers.living.isEmpty = true := by decide +kernel
  have hnone := List.isEmpty_iff.mp hliving
  obtain ⟨hs, hleft⟩ := runAll_accounted .standard cs hcs
  obtain ⟨hitems, hlisteners, -⟩ := hleft hnone
  exact ⟨hcs, hs, hnone, hitems, hlisteners, by decide +kernel, by decide +kernel,
    by decide +kernel⟩

end PositionOverlay.Scene
