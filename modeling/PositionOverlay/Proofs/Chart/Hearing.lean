import PositionOverlay.Proofs.Chart.Settlement

/-! # Who hears of the last change

A change of the view calls every listener that is on the chart when it begins, and calls it once,
also if further changes begin while it runs: these do not find what the outermost one has taken. So
a listener has heard of the last change if and only if no change begins after its call.
-/
namespace PositionOverlay.Dispatch

variable {Item Listener : Type} {s s' : Dispatch Item Listener} {t : Turn Item Listener}
  {ts : List (Turn Item Listener)} {r : Round Listener} {n : Nat}

/-- Turns that are taken while some round is in progress. -/
def Within : Dispatch Item Listener → List (Turn Item Listener) → Prop
  | _, [] => True
  | s, t :: ts => s.rounds ≠ [] ∧ ∀ s', s.step? t = some s' → s'.Within ts

/-- The turn after some others calls the listener of a subscription. -/
def CallsAfter (s : Dispatch Item Listener) (before : List (Turn Item Listener)) (n : Nat) : Prop :=
  ∃ s₁, s.run? before = some s₁ ∧ s₁.next? = some n

/-- The listener of a subscription is called after the last change has begun. -/
def HearsLast (s : Dispatch Item Listener) (ts : List (Turn Item Listener)) (n : Nat) : Prop :=
  ∃ before after, ts = before ++ .call :: after ∧ s.CallsAfter before n ∧ ∀ f, .begin f ∉ after

theorem callsAfter_nil : s.CallsAfter [] n ↔ s.next? = some n := by
  constructor
  · rintro ⟨_, ⟨⟩, h⟩
    exact h
  · exact fun h => ⟨s, rfl, h⟩

theorem callsAfter_cons (ht : s.step? t = some s') :
    s.CallsAfter (t :: ts) n ↔ s'.CallsAfter ts n := by
  unfold CallsAfter
  rw [run?_cons, ht]
  rfl

/-- What a turn makes of the outermost round: it ends, or it stays as it is while an inner round may
call, or it calls its next listener. -/
theorem step_outermost (ht : s.step? t = some s') (hr : s.rounds.getLast? = some r) :
    t = .finish ∧ s'.rounds = [] ∧ r.waiting = [] ∨
      s'.rounds.getLast? = some r ∧
        (t = .call → ∃ inner rounds, s.rounds = inner :: rounds ∧ r ∈ rounds) ∨
      t = .call ∧ ∃ e waiting, s.rounds = [r] ∧ r.waiting = e :: waiting ∧
        s'.rounds = [⟨r.taken, waiting⟩] := by
  cases t with
  | subscribe l =>
    obtain rfl := Option.some.inj ht
    exact .inr (.inl ⟨hr, nofun⟩)
  | unsubscribe id =>
    obtain rfl := Option.some.inj ht
    exact .inr (.inl ⟨hr, nofun⟩)
  | edit e =>
    obtain rfl := Option.some.inj ht
    exact .inr (.inl ⟨hr, nofun⟩)
  | begin f =>
    obtain rfl := Option.some.inj ht
    refine .inr (.inl ⟨?_, nofun⟩)
    rw [List.getLast?_cons, hr]
    rfl
  | call =>
    obtain ⟨taken, e, waiting, rounds, hrounds, rfl⟩ := step?_call ht
    rw [hrounds] at hr
    cases rounds with
    | nil =>
      obtain rfl := Option.some.inj hr
      exact .inr (.inr ⟨rfl, e, waiting, hrounds, rfl, rfl⟩)
    | cons r' rounds =>
      rw [List.getLast?_cons_cons] at hr
      refine .inr (.inl ⟨?_, fun _ => ⟨_, _, hrounds, List.mem_of_getLast? hr⟩⟩)
      rwa [List.getLast?_cons_cons]
  | finish =>
    obtain ⟨taken, rounds, hrounds, rfl⟩ := step?_finish ht
    rw [hrounds] at hr
    cases rounds with
    | nil =>
      obtain rfl := Option.some.inj hr
      exact .inl ⟨rfl, rfl, rfl⟩
    | cons r' rounds =>
      rw [List.getLast?_cons_cons] at hr
      exact .inr (.inl ⟨hr, nofun⟩)

/-- An inner round calls none of the listeners that an outer one has taken. -/
theorem Orderly.next_ne (h : s.Orderly) {inner : Round Listener} {rounds : List (Round Listener)}
    (hrounds : s.rounds = inner :: rounds) (hr : r ∈ rounds) (hn : n ∈ r.numbers) :
    s.next? ≠ some n := by
  intro hnext
  obtain ⟨r', hr', hnext⟩ := Option.bind_eq_some_iff.mp hnext
  rw [hrounds] at hr'
  obtain rfl := Option.some.inj hr'
  obtain ⟨e, he, rfl⟩ := Option.map_eq_some_iff.mp hnext
  have hinner : e.1 ∈ inner.numbers :=
    List.mem_map_of_mem (h.waiting inner (by simp [hrounds]) (List.mem_of_mem_head? he))
  have hapart := h.apart
  rw [hrounds] at hapart
  exact (List.pairwise_cons.mp hapart).1 r hr _ hinner hn

/-- The outermost round has called the listener of a subscription. -/
def Called (s : Dispatch Item Listener) (n : Nat) : Prop :=
  ∃ r, s.rounds.getLast? = some r ∧ n ∈ r.numbers ∧ n ∉ r.waiting.map Prod.fst

/-- The outermost round has yet to call the listener of a subscription. -/
def Waits (s : Dispatch Item Listener) (n : Nat) : Prop :=
  ∃ r, s.rounds.getLast? = some r ∧ n ∈ r.numbers ∧ n ∈ r.waiting.map Prod.fst ∧
    (r.waiting.map Prod.fst).Nodup

theorem Called.next_ne (h : s.Called n) (hs : s.Orderly) : s.next? ≠ some n := by
  obtain ⟨r, hr, hn, hcalled⟩ := h
  cases hrounds : s.rounds with
  | nil =>
    rw [hrounds] at hr
    exact nomatch hr
  | cons inner rounds =>
    rw [hrounds] at hr
    cases rounds with
    | nil =>
      obtain rfl := Option.some.inj hr
      intro hnext
      simp only [next?, hrounds, List.head?_cons, Option.bind_some] at hnext
      obtain ⟨e, he, rfl⟩ := Option.map_eq_some_iff.mp hnext
      exact hcalled (List.mem_map_of_mem (List.mem_of_mem_head? he))
    | cons r' rounds =>
      rw [List.getLast?_cons_cons] at hr
      exact hs.next_ne hrounds (List.mem_of_getLast? hr) hn

theorem Called.step (h : s.Called n) (ht : s.step? t = some s') (hrounds : s'.rounds ≠ []) :
    s'.Called n := by
  obtain ⟨r, hr, hn, hcalled⟩ := h
  rcases step_outermost ht hr with ⟨-, hnil, -⟩ | ⟨hr', -⟩ | ⟨-, e, waiting, -, hw, hrounds'⟩
  · exact absurd hnil hrounds
  · exact ⟨r, hr', hn, hcalled⟩
  · rw [hw, List.map_cons, List.mem_cons, not_or] at hcalled
    exact ⟨⟨r.taken, waiting⟩, by rw [hrounds']; rfl, hn, hcalled.2⟩

theorem Within.rounds {before after : List (Turn Item Listener)}
    (h : s.Within (before ++ t :: after)) : s.rounds ≠ [] := by
  cases before with
  | nil => exact h.1
  | cons t' before => exact h.1

/-- A listener that has been called is not called again before the outermost round ends. -/
theorem Called.not_callsAfter {before after : List (Turn Item Listener)} (h : s.Called n)
    (hs : s.Orderly) (hwithin : s.Within (before ++ .call :: after)) : ¬ s.CallsAfter before n := by
  induction before generalizing s with
  | nil =>
    rw [callsAfter_nil]
    exact h.next_ne hs
  | cons t before ih =>
    rintro ⟨s₁, hrun, hnext⟩
    obtain ⟨s', ht, hrun⟩ := run?_cons_eq_some.mp hrun
    have hwithin' := hwithin.2 s' ht
    exact ih (h.step ht hwithin'.rounds) (hs.step ht) hwithin' ⟨s₁, hrun, hnext⟩

theorem Waits.step (h : s.Waits n) (hs : s.Orderly) (ht : s.step? t = some s') :
    t = .call ∧ s.next? = some n ∧ s'.Called n ∨
      (t = .call → s.next? ≠ some n) ∧ s'.Waits n := by
  obtain ⟨r, hr, hn, hwaits, hnodup⟩ := h
  rcases step_outermost ht hr with ⟨-, -, hw⟩ | ⟨hr', hinner⟩ |
    ⟨rfl, e, waiting, hrounds, hw, hrounds'⟩
  · rw [hw] at hwaits
    exact absurd hwaits List.not_mem_nil
  · refine .inr ⟨fun hcall => ?_, r, hr', hn, hwaits, hnodup⟩
    obtain ⟨inner, rounds, hrounds, hmem⟩ := hinner hcall
    exact hs.next_ne hrounds hmem hn
  · have hnext : s.next? = some e.1 := by
      simp only [next?, hrounds, List.head?_cons, Option.bind_some, hw, Option.map_some]
    have hr' : s'.rounds.getLast? = some ⟨r.taken, waiting⟩ := by
      rw [hrounds']
      rfl
    rw [hw, List.map_cons] at hwaits hnodup
    obtain ⟨hfresh, hnodup⟩ := List.nodup_cons.mp hnodup
    by_cases he : e.1 = n
    · subst he
      exact .inl ⟨rfl, hnext, _, hr', hn, hfresh⟩
    · refine .inr ⟨fun _ => ?_, _, hr', hn, ?_, hnodup⟩
      · rw [hnext]
        exact fun hsame => he (Option.some.inj hsame)
      · exact (List.mem_cons.mp hwaits).resolve_left fun hsame => he hsame.symm

/-- A listener that waits in the outermost round is called once before the round ends. -/
theorem Waits.exists_call (h : s.Waits n) (hs : s.Orderly) (hwithin : s.Within ts)
    (hrun : s.run? ts = some s') (hend : s'.rounds = []) :
    ∃ before after, ts = before ++ .call :: after ∧ s.CallsAfter before n ∧
      ∀ before' after', ts = before' ++ .call :: after' → s.CallsAfter before' n →
        before' = before := by
  induction ts generalizing s with
  | nil =>
    obtain ⟨r, hr, -⟩ := h
    obtain rfl := Option.some.inj hrun
    rw [hend] at hr
    exact nomatch hr
  | cons t ts ih =>
    obtain ⟨s₁, ht, hrest⟩ := run?_cons_eq_some.mp hrun
    have hwithin₁ := hwithin.2 s₁ ht
    rcases h.step hs ht with ⟨rfl, hnext, hcalled⟩ | ⟨hother, hwaits⟩
    · refine ⟨[], ts, rfl, callsAfter_nil.mpr hnext, fun before' after' hts hcalls => ?_⟩
      cases before' with
      | nil => rfl
      | cons t' before' =>
        obtain ⟨rfl, rfl⟩ := List.cons.inj hts
        rw [callsAfter_cons ht] at hcalls
        exact absurd hcalls (hcalled.not_callsAfter (hs.step ht) hwithin₁)
    · obtain ⟨before, after, rfl, hcalls, hunique⟩ := ih hwaits (hs.step ht) hwithin₁ hrest
      refine ⟨t :: before, after, rfl, (callsAfter_cons ht).mpr hcalls,
        fun before' after' hts hcalls' => ?_⟩
      cases before' with
      | nil =>
        obtain ⟨rfl, -⟩ := List.cons.inj hts
        exact absurd (callsAfter_nil.mp hcalls') (hother rfl)
      | cons t' before' =>
        obtain ⟨rfl, htail⟩ := List.cons.inj hts
        rw [callsAfter_cons ht] at hcalls'
        rw [hunique before' after' htail hcalls']

theorem waits_of_begin (h : s.Ascending) (hrounds : s.rounds = []) {f : View → View}
    (ht : s.step? (.begin f) = some s') (hn : n ∈ s.chart.listed) : s'.Waits n := by
  obtain rfl := Option.some.inj ht
  have hsorted := h.sorted
  rw [numbers, hrounds] at hsorted
  refine ⟨⟨s.chart.listeners, s.chart.listeners⟩, ?_, hn, hn, hsorted.imp Nat.ne_of_lt⟩
  rw [hrounds]
  rfl

/-- Who hears of the last change. From an outermost change of the view until it returns, every
subscription that was on the chart before is called, and it is called once. It hears of the last
change of the view if and only if no change begins after that call. -/
theorem called_once {view : View} {earlier : List (Turn Item Listener)} {f : View → View}
    {s₀ : Dispatch Item Listener} (hstart : run? ⟨.empty view, []⟩ earlier = some s)
    (hrounds : s.rounds = []) (hbegin : s.step? (.begin f) = some s₀)
    (hrun : s₀.run? ts = some s') (hwithin : s₀.Within ts) (hend : s'.rounds = [])
    (hn : n ∈ s.chart.listed) :
    ∃ before after, ts = before ++ .call :: after ∧ s₀.CallsAfter before n ∧
      (∀ before' after', ts = before' ++ .call :: after' → s₀.CallsAfter before' n →
        before' = before) ∧
      (s₀.HearsLast ts n ↔ ∀ g, .begin g ∉ after) := by
  have horderly := ((orderly_empty view).run hstart).step hbegin
  have hwaits := waits_of_begin ((ascending_empty view).run hstart) hrounds hbegin hn
  obtain ⟨before, after, hts, hcalls, hunique⟩ :=
    hwaits.exists_call horderly hwithin hrun hend
  refine ⟨before, after, hts, hcalls, hunique, ?_, fun hlast => ⟨before, after, hts, hcalls, hlast⟩⟩
  rintro ⟨before', after', hts', hcalls', hlast⟩
  obtain rfl := hunique before' after' hts' hcalls'
  rw [hts, List.append_cancel_left_eq] at hts'
  rwa [(List.cons.inj hts').2]

/-- The second of two listeners changes the range: the first does not hear of it. -/
theorem called_once_nested :
    ∃ s s₀ s' : Dispatch Unit Unit,
      run? ⟨.empty default, []⟩ [.subscribe (), .subscribe ()] = some s ∧ s.rounds = [] ∧
      s.step? (.begin id) = some s₀ ∧
      s₀.run? [.call, .call, .begin id, .finish, .finish] = some s' ∧
      s₀.Within [.call, .call, .begin id, .finish, .finish] ∧ s'.rounds = [] ∧
      1 ∈ s.chart.listed ∧ s₀.CallsAfter [] 1 ∧
      ¬ s₀.HearsLast [.call, .call, .begin id, .finish, .finish] 1 := by
  obtain ⟨s, hs⟩ : ∃ s : Dispatch Unit Unit,
      run? ⟨.empty default, []⟩ [.subscribe (), .subscribe ()] = some s := ⟨_, rfl⟩
  obtain ⟨s₀, hs₀⟩ : ∃ s₀, s.step? (.begin id) = some s₀ := ⟨_, rfl⟩
  obtain ⟨s', hs'⟩ : ∃ s', s₀.run? [.call, .call, .begin id, .finish, .finish] = some s' := by
    obtain rfl := Option.some.inj hs
    obtain rfl := Option.some.inj hs₀
    exact ⟨_, rfl⟩
  have hrounds : s.rounds = [] := by
    obtain rfl := Option.some.inj hs
    rfl
  have hn : 1 ∈ s.chart.listed := by
    obtain rfl := Option.some.inj hs
    decide
  have hcalls : s₀.CallsAfter [] 1 := by
    obtain rfl := Option.some.inj hs
    obtain rfl := Option.some.inj hs₀
    exact ⟨_, rfl, rfl⟩
  have hend : s'.rounds = [] := by
    obtain rfl := Option.some.inj hs
    obtain rfl := Option.some.inj hs₀
    obtain rfl := Option.some.inj hs'
    rfl
  have hwithin : s₀.Within [.call, .call, .begin id, .finish, .finish] := by
    obtain rfl := Option.some.inj hs
    obtain rfl := Option.some.inj hs₀
    refine ⟨nofun, ?_⟩
    rintro _ ⟨⟩
    refine ⟨nofun, ?_⟩
    rintro _ ⟨⟩
    refine ⟨nofun, ?_⟩
    rintro _ ⟨⟩
    refine ⟨nofun, ?_⟩
    rintro _ ⟨⟩
    exact ⟨nofun, fun _ _ => trivial⟩
  obtain ⟨before, after, hts, hbefore, hunique, hlast⟩ :=
    called_once hs hrounds hs₀ hs' hwithin hend hn
  obtain rfl := hunique [] _ rfl hcalls
  obtain ⟨-, rfl⟩ := List.cons.inj hts
  refine ⟨s, s₀, s', hs, hrounds, hs₀, hs', hwithin, hend, hn, hcalls, fun h => ?_⟩
  exact hlast.mp h id (by simp)

end PositionOverlay.Dispatch
