import PositionOverlay.Proofs.Chart.Books
import PositionOverlay.Proofs.Chart.Rounds

/-! # What becomes of subscriptions

Numbers are issued in ascending order, and what a round puts back stands before all that has joined
while it ran. So the subscriptions on a chart stand in the order of their numbers, and each round
calls its listeners in this order. In a round without a further round in it, the subscriptions at
its end are those at its beginning after everything that was done about them in between, one after
the other.
-/
namespace PositionOverlay

variable {Item Listener : Type}

theorem Chart.listed_unsubscribe_sublist (c : Chart Item Listener) (n : Nat) :
    (c.unsubscribe n).listed.Sublist c.listed := by
  unfold Chart.unsubscribe
  split
  · exact List.filter_sublist.map _
  · exact List.Sublist.refl _

namespace Dispatch

variable {s s' : Dispatch Item Listener} {t : Turn Item Listener} {ts : List (Turn Item Listener)}

/-- The numbers of all subscriptions, first those that the outermost round has taken. -/
def numbers (s : Dispatch Item Listener) : List Nat :=
  s.rounds.reverse.flatMap Round.numbers ++ s.chart.listed

/-- Subscriptions stand in the order in which their numbers were issued. -/
structure Ascending (s : Dispatch Item Listener) : Prop where
  sorted : s.numbers.Pairwise (· < ·)
  issued : ∀ n ∈ s.numbers, n < s.chart.nextId

theorem ascending_empty (view : View) : (⟨.empty view, []⟩ : Dispatch Item Listener).Ascending :=
  ⟨.nil, nofun⟩

theorem Ascending.of_sublist (h : s.Ascending) (hs : s'.numbers.Sublist s.numbers)
    (hid : s.chart.nextId ≤ s'.chart.nextId) : s'.Ascending where
  sorted := h.sorted.sublist hs
  issued n hn := Nat.lt_of_lt_of_le (h.issued n (hs.subset hn)) hid

theorem Ascending.subscribe (h : s.Ascending) (l : Listener) :
    Ascending { s with chart := (s.chart.subscribe l).2 } := by
  have hn : numbers { s with chart := (s.chart.subscribe l).2 } =
      s.numbers ++ [s.chart.nextId] := by
    simp [numbers, Chart.listed_subscribe]
  constructor
  · rw [hn, List.pairwise_append]
    refine ⟨h.sorted, List.pairwise_singleton _ _, fun a ha b hb => ?_⟩
    rw [List.mem_singleton.mp hb]
    exact h.issued a ha
  · intro n hmem
    rw [hn, List.mem_append, List.mem_singleton] at hmem
    apply Nat.lt_succ_of_le
    rcases hmem with hmem | rfl
    · exact Nat.le_of_lt (h.issued n hmem)
    · exact Nat.le_refl _

theorem Ascending.unsubscribe (h : s.Ascending) (n : Nat) :
    Ascending { s with chart := s.chart.unsubscribe n } := by
  apply h.of_sublist
  · exact (List.Sublist.refl _).append (s.chart.listed_unsubscribe_sublist n)
  · exact Nat.le_of_eq (s.chart.nextId_unsubscribe n).symm

/-- Nothing else about the chart counts. -/
theorem Ascending.congr (h : s.Ascending) {c : Chart Item Listener}
    (hl : c.listed = s.chart.listed) (hid : s.chart.nextId ≤ c.nextId) :
    Ascending { s with chart := c } := by
  refine h.of_sublist ?_ hid
  simp [numbers, hl]

theorem Ascending.step (h : s.Ascending) (ht : s.step? t = some s') : s'.Ascending := by
  cases t with
  | subscribe l =>
    obtain rfl := Option.some.inj ht
    exact h.subscribe l
  | unsubscribe n =>
    obtain rfl := Option.some.inj ht
    exact h.unsubscribe n
  | edit e =>
    obtain rfl := Option.some.inj ht
    obtain ⟨hl, -, hid⟩ := s.chart.edit_spec e
    exact h.congr hl hid
  | begin f =>
    obtain rfl := Option.some.inj ht
    refine h.of_sublist ?_ (Nat.le_refl _)
    simp [numbers, Round.numbers, Chart.listed]
  | call =>
    obtain ⟨taken, e, waiting, rounds, hr, rfl⟩ := step?_call ht
    refine h.of_sublist ?_ (Nat.le_refl _)
    simp [numbers, Round.numbers, hr]
  | finish =>
    obtain ⟨taken, rounds, hr, rfl⟩ := step?_finish ht
    refine h.of_sublist ?_ (Nat.le_refl _)
    have hput : (s.chart.putListeners taken).listed.Sublist
        (taken.map Prod.fst ++ s.chart.listed) := by
      rw [Chart.listed, Chart.listed, ← List.map_append]
      exact (s.chart.standing_sublist taken).map _
    simpa [numbers, Round.numbers, hr] using hput

theorem Ascending.run (h : s.Ascending) (hr : s.run? ts = some s') : s'.Ascending :=
  run?_preserves (fun h ht => h.step ht) h hr

end Dispatch

/-! ## Joining and leaving -/

/-- What is done about a subscription. -/
inductive Deal (Listener : Type) where
  | join (n : Nat) (l : Listener)
  | leave (n : Nat)

namespace Deal

variable {deals : List (Deal Listener)}

/-- The subscriptions after a deal. -/
def settle (es : List (Nat × Listener)) : Deal Listener → List (Nat × Listener)
  | join n l => es ++ [(n, l)]
  | leave n => es.filter fun e => e.1 != n

/-- The subscriptions that have joined. -/
def joined (deals : List (Deal Listener)) : List (Nat × Listener) :=
  deals.filterMap fun
    | join n l => some (n, l)
    | leave _ => none

/-- The numbers of the subscriptions that have left. -/
def left (deals : List (Deal Listener)) : List Nat :=
  deals.filterMap fun
    | join _ _ => none
    | leave n => some n

/-- A subscription does not leave before it joins. -/
def InTime (d d' : Deal Listener) : Prop := ∀ n l, d = leave n → d' ≠ join n l

/-- If numbers leave after they have joined only, then it does not matter when they do. -/
theorem foldl_settle (h : deals.Pairwise InTime) (es : List (Nat × Listener)) :
    deals.foldl settle es = (es ++ joined deals).filter fun e => e.1 ∉ left deals := by
  induction deals generalizing es with
  | nil => simp [joined, left]
  | cons d deals ih =>
    obtain ⟨hd, hdeals⟩ := List.pairwise_cons.mp h
    rw [List.foldl_cons, ih hdeals]
    cases d with
    | join n l => simp [settle, joined, left]
    | leave n =>
      have hlater : ∀ e ∈ joined deals, e.1 ≠ n := by
        rintro ⟨m, l⟩ he rfl
        obtain ⟨d', hd', he⟩ := List.mem_filterMap.mp he
        cases d' with
        | join m' l' =>
          obtain ⟨rfl, rfl⟩ := Prod.mk.inj (Option.some.inj he)
          exact hd _ hd' _ _ rfl rfl
        | leave m' => exact nomatch he
      have hleft : left (leave n :: deals) = n :: left deals := rfl
      have hjoined : joined (leave n :: deals) = joined deals := rfl
      rw [hleft, hjoined, List.filter_append, List.filter_append, settle, List.filter_filter]
      congr 1
      · apply List.filter_congr
        intro e _
        simp [Bool.beq_eq_decide_eq, bne, Bool.and_comm]
      · apply List.filter_congr
        intro e he
        simp [hlater e he]

end Deal

namespace Chart

variable {c : Chart Item Listener} {taken waiting : List (Nat × Listener)}

/-- Numbers are issued once, also while a round runs. -/
theorem nodup_of_ascending (h : Dispatch.Ascending ⟨c, [⟨taken, waiting⟩]⟩) :
    ((taken ++ c.listeners).map Prod.fst).Nodup := by
  have hn : Dispatch.numbers ⟨c, [⟨taken, waiting⟩]⟩ = (taken ++ c.listeners).map Prod.fst := by
    simp [Dispatch.numbers, Round.numbers, listed]
  rw [← hn]
  exact h.sorted.imp Nat.ne_of_lt

end Chart

end PositionOverlay
