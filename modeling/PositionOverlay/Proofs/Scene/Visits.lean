import PositionOverlay.Proofs.Scene.Accounts

/-! # Visits

A paint cycle visits the items of a chart, and a change of the view visits its listeners. If there
is nothing but trackers on the chart, then a paint cycle visits each live tracker once, and a change
of the view each one that is subscribed. No visit faults, and in whichever order they are visited,
each tracker is left as if it had been visited alone.
-/
namespace PositionOverlay

/-- The tracker after a change to a view, of which it hears if it is subscribed. -/
def Tracker.told (v : View) (t : Tracker) : Tracker :=
  if t.marker.subscription.isSome then t.heard v else t

namespace Scene

open Work Tracker

/-- Nothing but trackers is on the chart. -/
abbrev Secluded (s : Scene) : Prop := s.Tidy (fun _ => False) []

def Item.key : Item → Nat
  | .tracker key _ => key
  | .marker key => key
  | .counter key => key

/-- The key of the object that listens; scripts have none. -/
def Listener.key : Listener → Nat
  | .tracker key _ => key
  | .marker key => key
  | .script _ _ => 0

variable {α β : Type} {s : Scene} {t : Tracker} {key : Nat}

/-- Calls of different trackers, each of which knows the tracker that it calls. -/
theorem calls_eq {call : α → SceneM Unit} {key : α → Nat} {knows : α → Tracker → Prop}
    {f : View → Tracker → Tracker}
    (hcall : ∀ e s t, s.tracker? (key e) = some t → knows e t → ∃ c, s.chart.Noted c ∧
      call e s = .ok ((), { s with
        chart := c
        trackers := s.trackers.set (key e) (f s.chart.view t) }))
    {es : List α} (hkeys : (es.map key).Nodup) {s : Scene}
    (hes : ∀ e ∈ es, ∃ t, s.tracker? (key e) = some t ∧ knows e t) :
    ∃ c, s.chart.Noted c ∧ es.forM call s = .ok ((), { s with
      chart := c
      trackers := s.trackers.modify (es.map key) (f s.chart.view) }) := by
  induction es generalizing s with
  | nil => exact ⟨s.chart, .refl _, rfl⟩
  | cons e es ih =>
    obtain ⟨hfresh, hkeys⟩ := List.nodup_cons.mp hkeys
    obtain ⟨t, ht, hknows⟩ := hes e List.mem_cons_self
    obtain ⟨c₁, hc₁, hrun⟩ := hcall e s t ht hknows
    rw [Registry.set_eq_modify (Registry.get?_of_reach? ht)] at hrun
    obtain ⟨c₂, hc₂, hrest⟩ := ih hkeys (s := { s with
        chart := c₁
        trackers := s.trackers.modify [key e] (f s.chart.view) }) fun e' he' => by
      obtain ⟨t', ht', hknows'⟩ := hes e' (List.mem_cons_of_mem _ he')
      have hne : key e ≠ key e' := fun h => hfresh (h ▸ List.mem_map_of_mem he')
      exact ⟨t', (Registry.reach?_modify_of_ne hne _ _).trans ht', hknows'⟩
    simp only [hc₁.view] at hrest
    exact ⟨c₂, hc₁.trans hc₂, (bind_of_ok hrun _).trans hrest⟩

/-- What trackers have on a chart under some of their numbers. -/
def entriesUnder (number : Tracker → Option Nat) (of : (key build : Nat) → β)
    (ps : List (Nat × Tracker)) : List (Nat × β) :=
  ps.filterMap fun p => (number p.2).map fun n => (n, of p.1 p.2.build)

variable {number : Tracker → Option Nat} {of : (key build : Nat) → β}

/-- A live tracker is met, whether it is held or not. -/
theorem tracker?_of_living {s : Scene} {key : Nat} {t : Tracker}
    (h : (key, t) ∈ s.trackers.living) : s.tracker? key = some t := by
  obtain ⟨name, h⟩ := Registry.mem_living.mp h
  exact Registry.reach?_of_holds h _

theorem map_entriesUnder {keyOf : β → Nat} (hkey : ∀ key build, keyOf (of key build) = key)
    (ps : List (Nat × Tracker)) :
    ((entriesUnder number of ps).map fun e => keyOf e.2) =
      (ps.filter fun p => (number p.2).isSome).map Prod.fst := by
  induction ps with
  | nil => rfl
  | cons p ps ih =>
    rw [entriesUnder, List.filterMap_cons, List.filter_cons]
    cases hn : number p.2 with
    | none => exact ih
    | some n =>
      simp only [Option.map_some, List.map_cons, hkey, Option.isSome_some, if_true]
      exact congrArg _ ih

theorem perm_keys {r : Registry Tracker} {keyOf : β → Nat}
    (hkey : ∀ key build, keyOf (of key build) = key) {es : List (Nat × β)}
    (hes : es.Perm (entriesUnder number of r.living)) : (es.map fun e => keyOf e.2).Perm
      ((r.living.filter fun p => (number p.2).isSome).map Prod.fst) := by
  rw [← map_entriesUnder hkey]
  exact hes.map _

theorem nodup_keys {r : Registry Tracker} {keyOf : β → Nat}
    (hkey : ∀ key build, keyOf (of key build) = key) {es : List (Nat × β)}
    (hes : es.Perm (entriesUnder number of r.living)) : (es.map fun e => keyOf e.2).Nodup :=
  (perm_keys hkey hes).nodup_iff.mpr (Registry.nodup_living.sublist (List.filter_sublist.map _))

/-- If those who are called are live trackers, then no call misses its tracker. -/
theorem visits_living {s : Scene} (keyOf : β → Nat)
    (hkey : ∀ key build, keyOf (of key build) = key)
    {es : List (Nat × β)} (hes : es.Perm (entriesUnder number of s.trackers.living))
    {call : Nat × β → SceneM Unit} {f : View → Tracker → Tracker}
    (hcall : ∀ e s t, s.tracker? (keyOf e.2) = some t → e.2 = of (keyOf e.2) t.build →
      ∃ c, s.chart.Noted c ∧ call e s = .ok ((), { s with
        chart := c
        trackers := s.trackers.set (keyOf e.2) (f s.chart.view t) })) :
    ∃ c, s.chart.Noted c ∧ es.forM call s = .ok ((), { s with
      chart := c
      trackers := s.trackers.modify (es.map fun e => keyOf e.2) (f s.chart.view) }) := by
  refine calls_eq hcall (nodup_keys hkey hes) fun e he => ?_
  obtain ⟨⟨key, t⟩, hp, he⟩ := List.mem_filterMap.mp (hes.subset he)
  obtain ⟨n, -, rfl⟩ := Option.map_eq_some_iff.mp he
  refine ⟨t, ?_, by rw [hkey]⟩
  rw [hkey]
  exact tracker?_of_living hp

/-- Each of those who are called is called once. -/
theorem find?_visited {s : Scene} (hd : s.trackers.Distinct) {keyOf : β → Nat}
    (hkey : ∀ key build, keyOf (of key build) = key) {es : List (Nat × β)}
    (hes : es.Perm (entriesUnder number of s.trackers.living)) (f : Tracker → Tracker)
    (n : String) :
    (s.trackers.modify (es.map fun e => keyOf e.2) f).find? n =
      (s.trackers.find? n).map fun p => (p.1, if (number p.2).isSome then f p.2 else p.2) := by
  rw [Registry.find?_modify hd (nodup_keys hkey hes)]
  rcases hf : s.trackers.find? n with _ | ⟨key, t⟩
  · rfl
  · have hp : (key, t) ∈ s.trackers.living :=
      Registry.mem_living.mpr ⟨n, Registry.holds_of_find? hf⟩
    have hcalled : key ∈ (es.map fun e => keyOf e.2) ↔ (number t).isSome = true := by
      rw [(perm_keys hkey hes).mem_iff, List.mem_map]
      constructor
      · rintro ⟨⟨_, t'⟩, hp', rfl⟩
        obtain ⟨hp', hn⟩ := List.mem_filter.mp hp'
        obtain ⟨m, hm⟩ := Registry.mem_living.mp hp'
        rwa [((Registry.holds_of_find? hf).unique hm).2]
      · exact fun hn => ⟨(key, t), List.mem_filter.mpr ⟨hp, hn⟩, rfl⟩
    simp only [Option.map_some, hcalled]

/-! ## Paint cycles and changes of the view -/

theorem visit_run (key : Nat) {x : ChartM Item Listener Tracker} {c : Chart Item Listener}
    (h : x s.chart = .ok (t, c)) : (onChart x >>= setTracker key) s =
      .ok ((), { s with chart := c, trackers := s.trackers.set key t }) :=
  bind_of_ok (onChart_eq_ok.mpr ⟨c, h, rfl⟩) _

theorem paintItem_run (h : s.tracker? key = some t) (build : Nat) :
    ∃ c, s.chart.Noted c ∧ paintItem (.tracker key build) s = .ok ((), { s with
      chart := c
      trackers := s.trackers.set key (t.repainted s.chart.view) }) := by
  obtain ⟨c, hc, hn⟩ := t.painted_eq s.chart
  refine ⟨c, hn, (bind_of_ok (get_run s) _).trans ?_⟩
  simp only [h]
  exact visit_run key hc

theorem hear_run (runScript : String → List (String × Command) → SceneM Unit)
    (h : s.tracker? key = some t) :
    ∃ c, s.chart.Noted c ∧ hear runScript (.tracker key t.build) s = .ok ((), { s with
      chart := c
      trackers := s.trackers.set key (t.heard s.chart.view) }) := by
  obtain ⟨c, hc, hn⟩ := t.rangeChanged_eq s.chart
  refine ⟨c, hn, (bind_of_ok (get_run s) _).trans ?_⟩
  simp only [h, if_true]
  exact visit_run key hc

/-- The chart has the items and the listeners of the live trackers and no others. -/
structure Peopled (s : Scene) : Prop where
  items : s.chart.items.Perm
    (entriesUnder (fun t => t.marker.item) Item.tracker s.trackers.living)
  listeners : s.chart.listeners.Perm
    (entriesUnder (fun t => t.marker.subscription) Listener.tracker s.trackers.living)

theorem Secluded.peopled (h : s.Secluded) : s.Peopled := by
  obtain ⟨guests, hguest, hb⟩ := h.books
  have hnone : guests = 0 := Multiset.eq_zero_of_forall_notMem hguest
  constructor
  · rw [← Multiset.coe_eq_coe, hb.items, entriesOfAll_eq, Prod.fst_add, add_zero]
    rfl
  · have hall : (s.chart.listeners : Multiset (Nat × Listener)) =
        ↑(listenersOf s.trackers.living) + guests := by
      have hl := hb.listeners
      rw [entriesOfAll_eq] at hl
      exact hl
    rw [hnone, add_zero] at hall
    exact Multiset.coe_eq_coe.mp hall

/-- A paint cycle calls the trackers of the items. -/
theorem Peopled.paint (h : s.Peopled) : ∃ c, s.chart.Noted c ∧ paint s = .ok ((), { s with
    chart := c
    trackers := s.trackers.modify (s.chart.items.map fun e => e.2.key)
      (repainted s.chart.view) }) := by
  have hcall (e : Nat × Item) (s : Scene) (t : Tracker) (ht : s.tracker? e.2.key = some t)
      (he : e.2 = .tracker e.2.key t.build) : ∃ c, s.chart.Noted c ∧
        paintItem e.2 s = .ok ((), { s with
          chart := c
          trackers := s.trackers.set e.2.key (t.repainted s.chart.view) }) := by
    rw [he]
    exact paintItem_run ht t.build
  have hpresent : s.chart.items.filter (fun e => s.isPresent e.2) = s.chart.items := by
    refine List.filter_eq_self.mpr fun e he => ?_
    obtain ⟨⟨key, t⟩, hp, he⟩ := List.mem_filterMap.mp (h.items.subset he)
    obtain ⟨n, -, rfl⟩ := Option.map_eq_some_iff.mp he
    simp only [isPresent, tracker?_of_living hp, Option.any_some, beq_self_eq_true]
  obtain ⟨c, hc, hrun⟩ := visits_living Item.key (fun _ _ => rfl) h.items hcall
  refine ⟨c, hc, (bind_of_ok (get_run s) _).trans ?_⟩
  rw [hpresent]
  exact hrun

/-- A change of the view calls the trackers of the listeners. -/
theorem Peopled.setView (h : s.Peopled) (runScript : String → List (String × Command) → SceneM Unit)
    (f : View → View) : ∃ c, ({ s.chart with view := f s.chart.view }.takeListeners.2).Noted c ∧
      setView runScript f s = .ok ((), { s with
        chart := c.putListeners s.chart.listeners
        trackers := s.trackers.modify (s.chart.listeners.map fun e => e.2.key)
          (heard (f s.chart.view)) }) := by
  have hcall (e : Nat × Listener) (s : Scene) (t : Tracker) (ht : s.tracker? e.2.key = some t)
      (he : e.2 = .tracker e.2.key t.build) : ∃ c, s.chart.Noted c ∧
        hear runScript e.2 s = .ok ((), { s with
          chart := c
          trackers := s.trackers.set e.2.key (t.heard s.chart.view) }) := by
    rw [he]
    exact hear_run runScript ht
  let s₁ : Scene := { s with chart := { s.chart with view := f s.chart.view }.takeListeners.2 }
  obtain ⟨c, hc, hrun⟩ :=
    visits_living (s := s₁) Listener.key (fun _ _ => rfl) h.listeners hcall
  refine ⟨c, hc, ?_⟩
  change ((s.chart.listeners.forM fun e => hear runScript e.2) >>= fun _ =>
    onChart (modify (·.putListeners s.chart.listeners))) s₁ = _
  exact (bind_of_ok hrun _).trans rfl

/-- A secluded scene gets a view, and each live tracker becomes something that depends on this view
and on what it was. -/
def Visits (view : View → View) (f : View → Tracker → Tracker) (x : SceneM Unit) : Prop :=
  ∀ ⦃s⦄, s.Secluded → ∃ c r, c.view = view s.chart.view ∧
    x s = .ok ((), { s with chart := c, trackers := r }) ∧
    ∀ n, r.find? n = (s.trackers.find? n).map fun p => (p.1, f (view s.chart.view) p.2)

theorem paint_visits : Visits id repainted paint := by
  intro s h
  obtain ⟨c, hc, hrun⟩ := h.peopled.paint
  refine ⟨c, _, hc.view, hrun, fun n => ?_⟩
  rw [find?_visited h.distinct (fun _ _ => rfl) h.peopled.items]
  rcases hf : s.trackers.find? n with _ | ⟨key, t⟩
  · rfl
  · have hitem := (h.inOrder _ (Registry.mem_living.mpr ⟨n, Registry.holds_of_find? hf⟩)).item
    simp only [Option.map_some, if_pos (show t.marker.item.isSome = true from hitem), id]

/-- Those that are subscribed hear of the new view. -/
theorem setView_visits (runScript : String → List (String × Command) → SceneM Unit)
    (f : View → View) : Visits f told (setView runScript f) := by
  intro s h
  obtain ⟨c, hc, hrun⟩ := h.peopled.setView runScript f
  refine ⟨c.putListeners s.chart.listeners, _, hc.view, hrun, fun n => ?_⟩
  rw [find?_visited h.distinct (fun _ _ => rfl) h.peopled.listeners]
  rfl

end Scene

end PositionOverlay
