import PositionOverlay.Proofs.Chart.Cancellation

/-! # Numbers that no subscription has

A chart marks a number that is not listed when it is cancelled, whether or not a round is in
progress. A mark that is made between rounds is there until a round has finished. It is seen if
that round has taken a subscription that has got this number since, and in no other way.
-/
namespace PositionOverlay

variable {Item Listener : Type}

namespace Chart

variable {c : Chart Item Listener} {marks : List Nat} {n : Nat}

/-- The chart with other marks. -/
def withMarks (c : Chart Item Listener) (marks : List Nat) : Chart Item Listener :=
  { c with cancelled := marks }

theorem edit_withMarks (e : Edit Item) :
    (c.withMarks marks).edit e = (c.edit e).withMarks marks := by
  cases e with
  | deleteLine l =>
    simp only [edit, deleteLine, withMarks]
    split <;> rfl
  | _ => rfl

theorem unsubscribe_of_listed (h : n ∈ c.listed) :
    c.unsubscribe n = { c with listeners := c.listeners.filter fun e => e.1 != n } :=
  if_pos (by simpa [listed] using h)

theorem unsubscribe_of_not_listed (h : n ∉ c.listed) :
    c.unsubscribe n = c.withMarks (n :: c.cancelled) :=
  if_neg (by simpa [listed] using h)

/-- A round that finishes forgets all marks, so they matter for what it has taken only. -/
theorem putListeners_withMarks {taken : List (Nat × Listener)}
    (h : ∀ m ∈ taken.map Prod.fst, m ∈ marks ↔ m ∈ c.cancelled) :
    (c.withMarks marks).putListeners taken = c.putListeners taken := by
  have hfilter : (taken.filter fun e => !marks.contains e.1) =
      taken.filter fun e => !c.cancelled.contains e.1 := by
    refine List.filter_congr fun e he => ?_
    simp [h e.1 (List.mem_map_of_mem he)]
  simp only [putListeners, withMarks, hfilter]

/-- One more mark takes a subscription away when the round that has it finishes. -/
theorem length_putListeners_withMarks {taken : List (Nat × Listener)}
    (hmarks : ∀ m, m ∈ marks ↔ m = n ∨ m ∈ c.cancelled) (htaken : n ∈ taken.map Prod.fst)
    (hn : n ∉ c.cancelled) :
    ((c.withMarks marks).putListeners taken).listeners.length <
      (c.putListeners taken).listeners.length := by
  obtain ⟨e, he, rfl⟩ := List.mem_map.mp htaken
  have hfilter : (taken.filter fun e => !marks.contains e.1) =
      (taken.filter fun e => !c.cancelled.contains e.1).filter fun e' => e'.1 ≠ e.1 := by
    rw [List.filter_filter]
    refine List.filter_congr fun e' _ => ?_
    simp [hmarks]
  simp only [putListeners, withMarks, hfilter, List.length_append]
  refine Nat.add_lt_add_right (List.length_filter_lt_length_iff_exists.mpr ⟨e, ?_, ?_⟩) _
  · exact List.mem_filter.mpr ⟨he, by simpa using hn⟩
  · simp

end Chart

namespace Dispatch

variable {s s' : Dispatch Item Listener} {t : Turn Item Listener} {ts : List (Turn Item Listener)}
  {n : Nat}

/-! ## What is seen of turns -/

/-- The subscription whose listener a turn calls. -/
def called (s : Dispatch Item Listener) : Turn Item Listener → Option (Nat × Listener)
  | .call => s.rounds.head?.bind (·.waiting.head?)
  | _ => none

/-- For each turn, which listener it calls, and how many subscriptions the chart has after it. A
report ends where a turn is impossible. -/
def report (s : Dispatch Item Listener) :
    List (Turn Item Listener) → List (Option (Nat × Listener) × Nat)
  | [] => []
  | t :: ts =>
    match s.step? t with
    | none => []
    | some s' => (s.called t, s'.chart.listeners.length) :: s'.report ts

theorem report_of_some (h : s.step? t = some s') :
    s.report (t :: ts) = (s.called t, s'.chart.listeners.length) :: s'.report ts := by
  rw [report, h]

theorem report_of_none (h : s.step? t = none) : s.report (t :: ts) = [] := by
  rw [report, h]

/-- The first round to finish puts a subscription with the number back on the chart. -/
def Returns (s : Dispatch Item Listener) (n : Nat) : List (Turn Item Listener) → Prop
  | [] => False
  | .finish :: _ => ∃ taken rounds, s.rounds = ⟨taken, []⟩ :: rounds ∧
      n ∈ taken.map Prod.fst ∧ n ∉ s.chart.cancelled
  | t :: ts => ∃ s', s.step? t = some s' ∧ s'.Returns n ts

/-- Turns but the last of a round leave it to later ones. -/
theorem returns_cons (h : t ≠ .finish) (ht : s.step? t = some s') :
    s.Returns n (t :: ts) ↔ s'.Returns n ts := by
  have heq : s.Returns n (t :: ts) ↔ ∃ s', s.step? t = some s' ∧ s'.Returns n ts := by
    cases t with
    | finish => exact absurd rfl h
    | _ => rfl
  rw [heq, ht]
  exact ⟨fun ⟨_, he, hr⟩ => Option.some.inj he ▸ hr, fun hr => ⟨s', rfl, hr⟩⟩

theorem not_returns_of_none (h : s.step? t = none) : ¬ s.Returns n (t :: ts) := by
  cases t with
  | finish =>
    rintro ⟨taken, rounds, hr, -, -⟩
    simp [step?, hr] at h
  | _ =>
    rintro ⟨s', hs', -⟩
    rw [h] at hs'
    cases hs'

/-- What is gone does not return. -/
theorem Gone.not_returns (h : s.Gone n) : ¬ s.Returns n ts := by
  induction ts generalizing s with
  | nil => exact id
  | cons t ts ih =>
    by_cases hfinish : t = .finish
    · subst hfinish
      rintro ⟨taken, rounds, hr, htaken, -⟩
      exact h.untaken ⟨taken, []⟩ (hr ▸ .head _) htaken
    · cases hs' : s.step? t with
      | none => exact not_returns_of_none hs'
      | some s' =>
        rw [returns_cons hfinish hs']
        exact ih (h.step hs')

/-! ## One more mark -/

/-- The second state has one more number marked, and is the first one else. -/
structure Beside (n : Nat) (s s' : Dispatch Item Listener) : Prop where
  marked : ∃ marks, s' = { s with chart := s.chart.withMarks marks } ∧
    ∀ m, m ∈ marks ↔ m = n ∨ m ∈ s.chart.cancelled

theorem Beside.called_eq (h : Beside n s s') (t : Turn Item Listener) :
    s'.called t = s.called t := by
  obtain ⟨marks, rfl, -⟩ := h.marked
  cases t <;> rfl

/-- As long as no round finishes, a mark has no say in what happens. -/
theorem Beside.step (h : Beside n s s') (hfinish : t ≠ .finish) :
    Option.Rel (Beside n) (s.step? t) (s'.step? t) := by
  obtain ⟨marks, rfl, hmarks⟩ := h.marked
  cases t with
  | subscribe l => exact .some ⟨marks, rfl, hmarks⟩
  | unsubscribe id =>
    refine .some ?_
    by_cases hid : id ∈ s.chart.listed
    · have hid' : id ∈ (s.chart.withMarks marks).listed := hid
      rw [Chart.unsubscribe_of_listed hid, Chart.unsubscribe_of_listed hid']
      exact ⟨marks, rfl, hmarks⟩
    · have hid' : id ∉ (s.chart.withMarks marks).listed := hid
      rw [Chart.unsubscribe_of_not_listed hid, Chart.unsubscribe_of_not_listed hid']
      refine ⟨id :: marks, rfl, fun m => ?_⟩
      simp only [Chart.withMarks, List.mem_cons, hmarks]
      exact or_left_comm
  | edit e =>
    refine .some ⟨marks, ?_, fun m => ?_⟩
    · rw [Chart.edit_withMarks]
    · rw [hmarks, (s.chart.edit_spec e).2.1]
  | begin f => exact .some ⟨marks, rfl, hmarks⟩
  | call =>
    simp only [step?]
    split
    · exact .some ⟨marks, rfl, hmarks⟩
    · exact .none
  | finish => exact absurd rfl hfinish

/-- A mark is seen when a round finishes that has a subscription with its number, and that would be
put back. -/
theorem Beside.report_finish (h : Beside n s s') :
    s'.report (.finish :: ts) = s.report (.finish :: ts) ↔ ¬ s.Returns n (.finish :: ts) := by
  obtain ⟨marks, rfl, hmarks⟩ := h.marked
  cases hs : s.step? .finish with
  | none =>
    have hs' : step? { s with chart := s.chart.withMarks marks } .finish = none := by
      simp only [step?] at hs ⊢
      split at hs
      · cases hs
      · rfl
    rw [report_of_none hs, report_of_none hs']
    exact iff_of_true rfl (not_returns_of_none hs)
  | some s₁ =>
    obtain ⟨taken, rounds, hr, rfl⟩ := step?_finish hs
    have hs' : step? { s with chart := s.chart.withMarks marks } .finish =
        some ⟨(s.chart.withMarks marks).putListeners taken, rounds⟩ := by
      simp only [step?, hr]
    have hreturns : s.Returns n (.finish :: ts) ↔
        n ∈ taken.map Prod.fst ∧ n ∉ s.chart.cancelled := by
      rw [Returns, hr]
      refine ⟨?_, fun hn => ⟨_, _, rfl, hn⟩⟩
      rintro ⟨_, _, he, hn⟩
      cases he
      exact hn
    rw [report_of_some hs, report_of_some hs', hreturns]
    by_cases hn : n ∈ taken.map Prod.fst ∧ n ∉ s.chart.cancelled
    · refine iff_of_false (fun he => ?_) (not_not_intro hn)
      have hlength := congrArg Prod.snd (List.head_eq_of_cons_eq he)
      exact Nat.ne_of_lt (Chart.length_putListeners_withMarks hmarks hn.1 hn.2) hlength
    · refine iff_of_true ?_ hn
      have hput : (s.chart.withMarks marks).putListeners taken = s.chart.putListeners taken := by
        refine Chart.putListeners_withMarks fun m hm => ?_
        rw [hmarks]
        refine or_iff_right_of_imp ?_
        rintro rfl
        exact Classical.not_not.mp fun hc => hn ⟨hm, hc⟩
      rw [hput]
      rfl

theorem Beside.report_eq_iff (h : Beside n s s') :
    s'.report ts = s.report ts ↔ ¬ s.Returns n ts := by
  induction ts generalizing s s' with
  | nil => exact iff_of_true rfl id
  | cons t ts ih =>
    by_cases hfinish : t = .finish
    · rw [hfinish]
      exact h.report_finish
    · have hstep := h.step hfinish
      cases hs : s.step? t with
      | none =>
        rw [hs] at hstep
        cases hs' : s'.step? t with
        | none =>
          rw [report_of_none hs, report_of_none hs']
          exact iff_of_true rfl (not_returns_of_none hs)
        | some s₁' => rw [hs'] at hstep; exact nomatch hstep
      | some s₁ =>
        rw [hs] at hstep
        cases hs' : s'.step? t with
        | none => rw [hs'] at hstep; exact nomatch hstep
        | some s₁' =>
          rw [hs'] at hstep
          cases hstep with
          | some hbeside =>
            obtain ⟨marks, rfl, hmarks⟩ := hbeside.marked
            rw [report_of_some hs, report_of_some hs', h.called_eq, returns_cons hfinish hs,
              ← ih hbeside]
            exact ⟨List.tail_eq_of_cons_eq, congrArg _⟩

/-- Cancelling, between rounds, a number that is not listed. Whatever is done later, it is seen only
if the first round to finish would put a subscription with this number back on the chart. A number
that was issued before is on no chart and in no round from then on, so its mark is never seen. -/
theorem unsubscribe_stranger (c : Chart Item Listener) (n : Nat) (hn : n ∉ c.listed)
    (ts : List (Turn Item Listener)) :
    (report ⟨c.unsubscribe n, []⟩ ts = report ⟨c, []⟩ ts ↔ ¬ Returns ⟨c, []⟩ n ts) ∧
      (n < c.nextId → report ⟨c.unsubscribe n, []⟩ ts = report ⟨c, []⟩ ts) := by
  have hbeside : Beside n ⟨c, []⟩ ⟨c.unsubscribe n, []⟩ := by
    rw [Chart.unsubscribe_of_not_listed hn]
    exact ⟨_, rfl, fun m => List.mem_cons⟩
  refine ⟨hbeside.report_eq_iff, fun hissued => hbeside.report_eq_iff.mpr ?_⟩
  have hgone : Gone ⟨c, []⟩ n := ⟨⟨hissued, hn⟩, nofun⟩
  exact hgone.not_returns

/-- The number of the next subscription is cancelled before it is issued. -/
theorem unsubscribe_stranger_early :
    let c : Chart Unit Unit := .empty default
    let ts : List (Turn Unit Unit) := [.subscribe (), .begin id, .call, .finish]
    1 ∉ c.listed ∧ Returns ⟨c, []⟩ 1 ts ∧ report ⟨c.unsubscribe 1, []⟩ ts ≠ report ⟨c, []⟩ ts := by
  intro c ts
  have hn : 1 ∉ c.listed := by decide
  have hreturns : Returns ⟨c, []⟩ 1 ts :=
    ⟨_, rfl, _, rfl, _, rfl, [(1, ())], [], rfl, by decide, by decide⟩
  exact ⟨hn, hreturns, fun he => (unsubscribe_stranger c 1 hn ts).1.mp he hreturns⟩

end Dispatch

end PositionOverlay
