import PositionOverlay.Chart

/-! # Rounds of range changes

A range change takes the listeners off the chart, calls one after the other and puts them back.
What a called listener does happens in between, and may be another range change. A chart and the
rounds in progress are taken through turns here, each an operation of the chart. Which turn follows
which is left open, so the turns of any listeners are among them.
-/
namespace PositionOverlay

variable {Item Listener : Type}

namespace Chart

/-- What can be done to a chart that concerns no listener. -/
inductive Edit (Item : Type) where
  | note (source : Source) (severity : Severity) (text : String)
  | addItem (item : Item)
  | removeItem (id : Nat)
  | makeLine (level : Float) (color : String) (options : LineOptions)
  | deleteLine (l : Line)
  | countLabel

def edit (c : Chart Item Listener) : Edit Item → Chart Item Listener
  | .note source severity text => c.note source severity text
  | .addItem item => (c.addItem item).2
  | .removeItem id => c.removeItem id
  | .makeLine level color options => (c.makeLine level color options).2
  | .deleteLine l => (c.deleteLine l).2
  | .countLabel => c.countLabel

/-- The numbers of the subscriptions on the chart. -/
def listed (c : Chart Item Listener) : List Nat := c.listeners.map Prod.fst

variable {c : Chart Item Listener} {n id : Nat}

theorem edit_spec (c : Chart Item Listener) (e : Edit Item) :
    (c.edit e).listed = c.listed ∧ (c.edit e).cancelled = c.cancelled ∧
      c.nextId ≤ (c.edit e).nextId := by
  cases e with
  | deleteLine l =>
    by_cases hd : l.deleted = true
    · simp [edit, Chart.deleteLine, hd]
    · simp [edit, Chart.deleteLine, hd, listed]
  | _ => simp [edit, listed, Chart.note, Chart.addItem, Chart.removeItem, Chart.makeLine,
      Chart.countLabel]

theorem listed_subscribe (c : Chart Item Listener) (l : Listener) :
    (c.subscribe l).2.listed = c.listed ++ [c.nextId] := by
  simp [listed, subscribe]

theorem mem_listed_unsubscribe : n ∈ (c.unsubscribe id).listed ↔ n ∈ c.listed ∧ n ≠ id := by
  unfold unsubscribe
  split
  · simp only [listed, List.mem_map, List.mem_filter, bne_iff_ne]
    grind
  · rename_i hid
    have hn : id ∉ c.listed := by simpa [listed] using hid
    exact ⟨fun h => ⟨h, fun he => hn (he ▸ h)⟩, And.left⟩

theorem mem_cancelled_unsubscribe :
    n ∈ (c.unsubscribe id).cancelled ↔ n ∈ c.cancelled ∨ n = id ∧ id ∉ c.listed := by
  have hl : (c.listeners.any fun e => e.1 == id) = true ↔ id ∈ c.listed := by simp [listed]
  unfold unsubscribe
  split
  · rename_i hid
    simp [hl.mp hid]
  · rename_i hid
    rw [hl] at hid
    simp [hid, or_comm]

theorem nextId_unsubscribe (c : Chart Item Listener) (id : Nat) :
    (c.unsubscribe id).nextId = c.nextId := by
  unfold unsubscribe
  split <;> rfl

theorem mem_listed_putListeners {ran : List (Nat × Listener)} :
    n ∈ (c.putListeners ran).listed ↔
      n ∈ ran.map Prod.fst ∧ n ∉ c.cancelled ∨ n ∈ c.listed := by
  simp only [listed, putListeners, List.map_append, List.mem_append, List.mem_map,
    List.mem_filter]
  grind

end Chart

/-- A range change in progress: the listeners that it has taken off the chart, and those among them
that it has yet to call. -/
structure Round (Listener : Type) where
  taken : List (Nat × Listener)
  waiting : List (Nat × Listener)

def Round.numbers (r : Round Listener) : List Nat := r.taken.map Prod.fst

/-- What happens next on a chart. -/
inductive Turn (Item Listener : Type) where
  | subscribe (l : Listener)
  | unsubscribe (id : Nat)
  | edit (e : Chart.Edit Item)
  /-- The view changes, and a round begins. -/
  | begin (f : View → View)
  /-- The innermost round calls its next listener. -/
  | call
  /-- The innermost round ends, as all its listeners have been called. -/
  | finish

/-- A chart and the rounds in progress, the innermost first. -/
structure Dispatch (Item Listener : Type) where
  chart : Chart Item Listener
  rounds : List (Round Listener)

namespace Dispatch

variable {s s' : Dispatch Item Listener} {t : Turn Item Listener} {n : Nat}

/-- One turn, if it is possible. -/
def step? (s : Dispatch Item Listener) : Turn Item Listener → Option (Dispatch Item Listener)
  | .subscribe l => some { s with chart := (s.chart.subscribe l).2 }
  | .unsubscribe id => some { s with chart := s.chart.unsubscribe id }
  | .edit e => some { s with chart := s.chart.edit e }
  | .begin f =>
    let (taken, chart) := { s.chart with view := f s.chart.view }.takeListeners
    some ⟨chart, ⟨taken, taken⟩ :: s.rounds⟩
  | .call =>
    match s.rounds with
    | ⟨taken, _ :: waiting⟩ :: rounds => some { s with rounds := ⟨taken, waiting⟩ :: rounds }
    | _ => none
  | .finish =>
    match s.rounds with
    | ⟨taken, []⟩ :: rounds => some ⟨s.chart.putListeners taken, rounds⟩
    | _ => none

/-- Turns, one after the other. -/
def run? (s : Dispatch Item Listener) (ts : List (Turn Item Listener)) :
    Option (Dispatch Item Listener) := ts.foldlM step? s

theorem run?_cons (s : Dispatch Item Listener) (t : Turn Item Listener)
    (ts : List (Turn Item Listener)) : s.run? (t :: ts) = (s.step? t).bind (·.run? ts) := rfl

theorem run?_append (s : Dispatch Item Listener) (ts ts' : List (Turn Item Listener)) :
    s.run? (ts ++ ts') = (s.run? ts).bind (·.run? ts') := List.foldlM_append

/-- The parts of a run. -/
theorem run?_cons_eq_some {ts : List (Turn Item Listener)} :
    s.run? (t :: ts) = some s' ↔ ∃ s₁, s.step? t = some s₁ ∧ s₁.run? ts = some s' := by
  rw [run?_cons, Option.bind_eq_some_iff]

theorem step?_call (h : s.step? .call = some s') :
    ∃ taken e waiting rounds, s.rounds = ⟨taken, e :: waiting⟩ :: rounds ∧
      s' = { s with rounds := ⟨taken, waiting⟩ :: rounds } := by
  simp only [step?] at h
  split at h
  · rename_i hr
    exact ⟨_, _, _, _, hr, (Option.some.inj h).symm⟩
  · exact nomatch h

theorem step?_finish (h : s.step? .finish = some s') :
    ∃ taken rounds, s.rounds = ⟨taken, []⟩ :: rounds ∧
      s' = ⟨s.chart.putListeners taken, rounds⟩ := by
  simp only [step?] at h
  split at h
  · rename_i hr
    exact ⟨_, _, hr, (Option.some.inj h).symm⟩
  · exact nomatch h

/-- What turns keep from one state to the next they keep over a run. -/
theorem run?_preserves {P : Dispatch Item Listener → Prop}
    (hstep : ∀ {s t s'}, P s → s.step? t = some s' → P s') {ts : List (Turn Item Listener)}
    (hs : P s) (h : s.run? ts = some s') : P s' := by
  induction ts generalizing s with
  | nil => exact Option.some.inj h ▸ hs
  | cons t ts ih =>
    obtain ⟨s₁, ht, hts⟩ := run?_cons_eq_some.mp h
    exact ih (hstep hs ht) hts

/-- The number of the listener that is to be called next. -/
def next? (s : Dispatch Item Listener) : Option Nat :=
  s.rounds.head?.bind fun r => r.waiting.head?.map Prod.fst

/-- Each subscription is on the chart or in one round, and its number has been issued. -/
structure Orderly (s : Dispatch Item Listener) : Prop where
  listed : ∀ n ∈ s.chart.listed, n < s.chart.nextId
  taken : ∀ r ∈ s.rounds, ∀ n ∈ r.numbers, n < s.chart.nextId
  unlisted : ∀ r ∈ s.rounds, ∀ n ∈ r.numbers, n ∉ s.chart.listed
  apart : s.rounds.Pairwise fun r r' => ∀ n ∈ r.numbers, n ∉ r'.numbers
  waiting : ∀ r ∈ s.rounds, r.waiting ⊆ r.taken

theorem orderly_empty (view : View) : (⟨.empty view, []⟩ : Dispatch Item Listener).Orderly :=
  ⟨nofun, nofun, nofun, .nil, nofun⟩

theorem Orderly.step (h : s.Orderly) (ht : s.step? t = some s') : s'.Orderly := by
  cases t with
  | subscribe l =>
    obtain rfl := Option.some.inj ht
    refine ⟨fun n hn => ?_, fun r hr n hn => Nat.lt_succ_of_lt (h.taken r hr n hn),
      fun r hr n hn hl => ?_, h.apart, h.waiting⟩
    · rw [Chart.listed_subscribe, List.mem_append, List.mem_singleton] at hn
      rcases hn with hn | rfl
      · exact Nat.lt_succ_of_lt (h.listed n hn)
      · exact Nat.lt_succ_self _
    · rw [Chart.listed_subscribe, List.mem_append, List.mem_singleton] at hl
      rcases hl with hl | rfl
      · exact h.unlisted r hr n hn hl
      · exact Nat.lt_irrefl _ (h.taken r hr _ hn)
  | unsubscribe id =>
    obtain rfl := Option.some.inj ht
    have hid := s.chart.nextId_unsubscribe id
    refine ⟨fun n hn => ?_, fun r hr n hn => ?_, fun r hr n hn hl => ?_, h.apart, h.waiting⟩
    · rw [hid]
      exact h.listed n (Chart.mem_listed_unsubscribe.mp hn).1
    · rw [hid]
      exact h.taken r hr n hn
    · exact h.unlisted r hr n hn (Chart.mem_listed_unsubscribe.mp hl).1
  | edit e =>
    obtain rfl := Option.some.inj ht
    obtain ⟨hl, _, hid⟩ := s.chart.edit_spec e
    refine ⟨fun n hn => ?_, fun r hr n hn => Nat.lt_of_lt_of_le (h.taken r hr n hn) hid,
      fun r hr n hn => ?_, h.apart, h.waiting⟩
    · exact Nat.lt_of_lt_of_le (h.listed n (hl ▸ hn)) hid
    · rw [hl]
      exact h.unlisted r hr n hn
  | begin f =>
    obtain rfl := Option.some.inj ht
    refine ⟨nofun, fun r hr => ?_, fun _ _ _ _ => List.not_mem_nil, ?_,
      List.forall_mem_cons.mpr ⟨List.Subset.refl _, h.waiting⟩⟩
    · rcases List.mem_cons.mp hr with rfl | hr
      · exact h.listed
      · exact h.taken r hr
    · exact List.pairwise_cons.mpr ⟨fun r hr n hn hr' => h.unlisted r hr n hr' hn, h.apart⟩
  | call =>
    obtain ⟨taken, e, waiting, rounds, hr, rfl⟩ := step?_call ht
    obtain ⟨h₁, h₂, h₃, h₄, h₅⟩ := h
    rw [hr] at h₂ h₃ h₄ h₅
    obtain ⟨hwaiting, hrest⟩ := List.forall_mem_cons.mp h₅
    exact ⟨h₁, List.forall_mem_cons.mpr (List.forall_mem_cons.mp h₂),
      List.forall_mem_cons.mpr (List.forall_mem_cons.mp h₃),
      List.pairwise_cons.mpr (List.pairwise_cons.mp h₄),
      List.forall_mem_cons.mpr ⟨List.Subset.trans (List.subset_cons_self _ _) hwaiting, hrest⟩⟩
  | finish =>
    obtain ⟨taken, rounds, hr, rfl⟩ := step?_finish ht
    obtain ⟨h₁, h₂, h₃, h₄, h₅⟩ := h
    rw [hr] at h₂ h₃ h₄ h₅
    obtain ⟨hapart, hrounds⟩ := List.pairwise_cons.mp h₄
    refine ⟨fun n hn => ?_, fun r hr => h₂ r (.tail _ hr), fun r hr n hn hl => ?_, hrounds,
      fun r hr => h₅ r (.tail _ hr)⟩
    · rcases Chart.mem_listed_putListeners.mp hn with ⟨hn, _⟩ | hn
      · exact h₂ _ (.head _) n hn
      · exact h₁ n hn
    · rcases Chart.mem_listed_putListeners.mp hl with ⟨hl, _⟩ | hl
      · exact hapart r hr n hl hn
      · exact h₃ r (.tail _ hr) n hn hl

theorem Orderly.run {ts : List (Turn Item Listener)} (h : s.Orderly) (hr : s.run? ts = some s') :
    s'.Orderly :=
  run?_preserves (fun h ht => h.step ht) h hr

/-- A listener that is called has been taken by the round that calls it. -/
theorem Orderly.next (h : s.Orderly) (hn : s.next? = some n) : ∃ r ∈ s.rounds, n ∈ r.numbers := by
  obtain ⟨r, hr, hn⟩ := Option.bind_eq_some_iff.mp hn
  obtain ⟨e, he, rfl⟩ := Option.map_eq_some_iff.mp hn
  have hmem := List.mem_of_mem_head? hr
  exact ⟨r, hmem, List.mem_map_of_mem (h.waiting r hmem (List.mem_of_mem_head? he))⟩

end Dispatch

end PositionOverlay
