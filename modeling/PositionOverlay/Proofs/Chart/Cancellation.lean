import PositionOverlay.Proofs.Chart.Rounds

/-! # Cancelled subscriptions

A subscription that is on the chart ends at once when it is cancelled. One that a round has taken
is only marked, and the next round to finish forgets all marks. So the mark of a listener of the
innermost round counts if no further round begins before that one finishes, and the mark of a
listener of an outer round is always forgotten. All else that is cancelled ends for good.
-/
namespace PositionOverlay.Dispatch

variable {Item Listener : Type} {s s' : Dispatch Item Listener} {t : Turn Item Listener}
  {ts : List (Turn Item Listener)} {n : Nat}

/-- The subscription was issued and is not on the chart. -/
structure Off (s : Dispatch Item Listener) (n : Nat) : Prop where
  issued : n < s.chart.nextId
  unlisted : n ∉ s.chart.listed

/-- Only a round that finishes puts subscriptions back on the chart. -/
theorem Off.step (h : s.Off n) (ht : s.step? t = some s') (hfinish : t ≠ .finish) : s'.Off n := by
  cases t with
  | subscribe l =>
    obtain rfl := Option.some.inj ht
    refine ⟨Nat.lt_succ_of_lt h.issued, ?_⟩
    rw [Chart.listed_subscribe, List.mem_append, List.mem_singleton, not_or]
    exact ⟨h.unlisted, Nat.ne_of_lt h.issued⟩
  | unsubscribe other =>
    obtain rfl := Option.some.inj ht
    refine ⟨?_, fun hn => h.unlisted (Chart.mem_listed_unsubscribe.mp hn).1⟩
    rw [Chart.nextId_unsubscribe]
    exact h.issued
  | edit e =>
    obtain rfl := Option.some.inj ht
    obtain ⟨hl, _, hid⟩ := s.chart.edit_spec e
    exact ⟨Nat.lt_of_lt_of_le h.issued hid, hl ▸ h.unlisted⟩
  | begin f =>
    obtain rfl := Option.some.inj ht
    exact ⟨h.issued, List.not_mem_nil⟩
  | call =>
    obtain ⟨taken, e, waiting, rounds, hr, rfl⟩ := step?_call ht
    exact ⟨h.issued, h.unlisted⟩
  | finish => exact absurd rfl hfinish

/-- A round that finishes does not put back what is marked. -/
theorem Off.finish (h : s.Off n) (ht : s.step? .finish = some s')
    (hdrop : ∀ r ∈ s.rounds.head?, n ∈ r.numbers → n ∈ s.chart.cancelled) : s'.Off n := by
  obtain ⟨taken, rounds, hr, rfl⟩ := step?_finish ht
  rw [hr] at hdrop
  refine ⟨h.issued, fun hn => ?_⟩
  rcases Chart.mem_listed_putListeners.mp hn with ⟨hn, hc⟩ | hn
  · exact hc (hdrop _ rfl hn)
  · exact h.unlisted hn

/-- The subscription was issued, and neither the chart nor a round has it. -/
structure Gone (s : Dispatch Item Listener) (n : Nat) : Prop extends Off s n where
  untaken : ∀ r ∈ s.rounds, n ∉ r.numbers

/-- Nothing brings back a subscription that is gone. -/
theorem Gone.step (h : s.Gone n) (ht : s.step? t = some s') : s'.Gone n := by
  cases t with
  | begin f =>
    have hoff := h.toOff.step ht nofun
    obtain rfl := Option.some.inj ht
    exact ⟨hoff, List.forall_mem_cons.mpr ⟨h.unlisted, h.untaken⟩⟩
  | call =>
    have hoff := h.toOff.step ht nofun
    obtain ⟨taken, e, waiting, rounds, hr, rfl⟩ := step?_call ht
    have huntaken := h.untaken
    rw [hr] at huntaken
    exact ⟨hoff, List.forall_mem_cons.mpr (List.forall_mem_cons.mp huntaken)⟩
  | finish =>
    have hoff := h.toOff.finish ht fun r hr hn =>
      absurd hn (h.untaken r (List.mem_of_mem_head? hr))
    obtain ⟨taken, rounds, hr, rfl⟩ := step?_finish ht
    exact ⟨hoff, fun r hr' => h.untaken r (hr ▸ List.mem_cons_of_mem _ hr')⟩
  | _ => exact ⟨h.toOff.step ht nofun, Option.some.inj ht ▸ h.untaken⟩

theorem Gone.run (h : s.Gone n) (hr : s.run? ts = some s') : s'.Gone n :=
  run?_preserves (P := fun s => s.Gone n) (fun h ht => h.step ht) h hr

/-! ## Marks of issued subscriptions -/

/-- Only subscriptions that the chart has issued are marked. -/
def MarksIssued (s : Dispatch Item Listener) : Prop := ∀ n ∈ s.chart.cancelled, n < s.chart.nextId

theorem MarksIssued.step (h : s.MarksIssued) (ht : s.step? t = some s')
    (hissued : ∀ n, t = .unsubscribe n → n < s.chart.nextId) : s'.MarksIssued := by
  cases t with
  | subscribe l =>
    obtain rfl := Option.some.inj ht
    exact fun n hn => Nat.lt_succ_of_lt (h n hn)
  | unsubscribe id =>
    obtain rfl := Option.some.inj ht
    intro n hn
    rw [Chart.nextId_unsubscribe]
    rcases Chart.mem_cancelled_unsubscribe.mp hn with hn | ⟨rfl, _⟩
    · exact h n hn
    · exact hissued n rfl
  | edit e =>
    obtain rfl := Option.some.inj ht
    obtain ⟨_, hc, hid⟩ := s.chart.edit_spec e
    exact fun n hn => Nat.lt_of_lt_of_le (h n (hc ▸ hn)) hid
  | begin f =>
    obtain rfl := Option.some.inj ht
    exact h
  | call =>
    obtain ⟨taken, e, waiting, rounds, _, rfl⟩ := step?_call ht
    exact h
  | finish =>
    obtain ⟨taken, rounds, _, rfl⟩ := step?_finish ht
    exact nofun

/-- Turns that cancel only what the chart has issued before. -/
def cancelsIssued : Dispatch Item Listener → List (Turn Item Listener) → Prop
  | _, [] => True
  | s, t :: ts => (∀ n, t = .unsubscribe n → n < s.chart.nextId) ∧
      ∀ s', s.step? t = some s' → s'.cancelsIssued ts

theorem MarksIssued.run (h : s.MarksIssued) (hts : s.cancelsIssued ts)
    (hr : s.run? ts = some s') : s'.MarksIssued := by
  induction ts generalizing s with
  | nil => exact Option.some.inj hr ▸ h
  | cons t ts ih =>
    obtain ⟨s₁, ht, hrest⟩ := run?_cons_eq_some.mp hr
    exact ih (h.step ht hts.1) (hts.2 s₁ ht) hrest

/-- As long as users cancel only what they were given, a chart marks nothing else. -/
theorem cancelled_issued {view : View} (hr : run? ⟨.empty view, []⟩ ts = some s)
    (hts : cancelsIssued ⟨.empty view, []⟩ ts) : ∀ n ∈ s.chart.cancelled, n < s.chart.nextId :=
  MarksIssued.run (s := ⟨.empty view, []⟩) nofun hts hr

/-! ## Marks that count -/

/-- The subscription is marked, and only the innermost round may still have it. -/
structure Doomed (s : Dispatch Item Listener) (n : Nat) : Prop extends Off s n where
  marked : n ∈ s.chart.cancelled
  inRound : s.rounds ≠ []
  untaken : ∀ r ∈ s.rounds.tail, n ∉ r.numbers

/-- The innermost round drops the subscriptions that are marked when it finishes. -/
theorem Doomed.finish (h : s.Doomed n) (ht : s.step? .finish = some s') : s'.Gone n := by
  have hoff := h.toOff.finish ht fun _ _ _ => h.marked
  obtain ⟨taken, rounds, hr, rfl⟩ := step?_finish ht
  exact ⟨hoff, fun r hr' => h.untaken r (hr ▸ hr')⟩

theorem Doomed.step (h : s.Doomed n) (ht : s.step? t = some s') (hbegin : ∀ f, t ≠ .begin f)
    (hfinish : t ≠ .finish) : s'.Doomed n := by
  have hoff := h.toOff.step ht hfinish
  cases t with
  | subscribe l =>
    obtain rfl := Option.some.inj ht
    exact ⟨hoff, h.marked, h.inRound, h.untaken⟩
  | unsubscribe other =>
    obtain rfl := Option.some.inj ht
    exact ⟨hoff, Chart.mem_cancelled_unsubscribe.mpr (.inl h.marked), h.inRound, h.untaken⟩
  | edit e =>
    obtain rfl := Option.some.inj ht
    obtain ⟨_, hc, _⟩ := s.chart.edit_spec e
    exact ⟨hoff, hc ▸ h.marked, h.inRound, h.untaken⟩
  | begin f => exact absurd rfl (hbegin f)
  | call =>
    obtain ⟨taken, e, waiting, rounds, hr, rfl⟩ := step?_call ht
    have huntaken := h.untaken
    rw [hr] at huntaken
    exact ⟨hoff, h.marked, List.cons_ne_nil _ _, huntaken⟩
  | finish => exact absurd rfl hfinish

/-- No round begins before one finishes. -/
def undisturbed : List (Turn Item Listener) → Prop
  | [] => True
  | .begin _ :: _ => False
  | .finish :: _ => True
  | _ :: ts => undisturbed ts

theorem Doomed.run (h : s.Doomed n) (hts : undisturbed ts) (hr : s.run? ts = some s')
    (hend : s'.rounds = []) : s'.Gone n := by
  induction ts generalizing s with
  | nil =>
    obtain rfl := Option.some.inj hr
    exact absurd hend h.inRound
  | cons t ts ih =>
    obtain ⟨s₁, ht, hrest⟩ := run?_cons_eq_some.mp hr
    cases t with
    | begin f => exact hts.elim
    | finish => exact (h.finish ht).run hrest
    | _ => exact ih (h.step ht nofun nofun) hts hrest

/-! ## Marks that are forgotten -/

/-- The subscription is not marked, or it is in an outer round, before whose end all marks are
forgotten. -/
def Stays (s : Dispatch Item Listener) (n : Nat) : Prop :=
  (n ∈ s.chart.listed ∨ ∃ r ∈ s.rounds.head?, n ∈ r.numbers) ∧ n ∉ s.chart.cancelled ∨
    ∃ r ∈ s.rounds.tail, n ∈ r.numbers

theorem Stays.step (h : s.Stays n) (ht : s.step? t = some s') (hne : t ≠ .unsubscribe n) :
    s'.Stays n := by
  cases t with
  | subscribe l =>
    obtain rfl := Option.some.inj ht
    refine h.imp_left (And.imp_left (Or.imp_left fun hn => ?_))
    rw [Chart.listed_subscribe]
    exact List.mem_append_left _ hn
  | unsubscribe other =>
    obtain rfl := Option.some.inj ht
    have hother : n ≠ other := fun he => hne (by rw [he])
    refine h.imp_left (And.imp (Or.imp_left fun hn => ?_) fun hc hm => ?_)
    · exact Chart.mem_listed_unsubscribe.mpr ⟨hn, hother⟩
    · rcases Chart.mem_cancelled_unsubscribe.mp hm with hm | ⟨he, _⟩
      · exact hc hm
      · exact hother he
  | edit e =>
    obtain rfl := Option.some.inj ht
    obtain ⟨hl, hc, _⟩ := s.chart.edit_spec e
    rw [Stays, hl, hc]
    exact h
  | begin f =>
    obtain rfl := Option.some.inj ht
    rcases h with ⟨hn | ⟨r, hr, hn⟩, hc⟩ | ⟨r, hr, hn⟩
    · exact .inl ⟨.inr ⟨_, rfl, hn⟩, hc⟩
    · exact .inr ⟨r, List.mem_of_mem_head? hr, hn⟩
    · exact .inr ⟨r, List.mem_of_mem_tail hr, hn⟩
  | call =>
    obtain ⟨taken, e, waiting, rounds, hr, rfl⟩ := step?_call ht
    rw [Stays, hr] at h
    refine h.imp_left (And.imp_left (Or.imp_right ?_))
    rintro ⟨_, ⟨⟩, hn⟩
    exact ⟨_, rfl, hn⟩
  | finish =>
    obtain ⟨taken, rounds, hr, rfl⟩ := step?_finish ht
    rw [Stays, hr] at h
    rcases h with ⟨hn, hc⟩ | ⟨r, hr, hn⟩
    · refine .inl ⟨.inl (Chart.mem_listed_putListeners.mpr ?_), List.not_mem_nil⟩
      rcases hn with hn | ⟨_, ⟨⟩, hn⟩
      · exact .inr hn
      · exact .inl ⟨hn, hc⟩
    -- No mark is left, so the round that is now the innermost one has none.
    · cases rounds with
      | nil => exact nomatch hr
      | cons r' rounds =>
        rcases List.mem_cons.mp hr with rfl | hr
        · exact .inl ⟨.inr ⟨_, rfl, hn⟩, List.not_mem_nil⟩
        · exact .inr ⟨r, hr, hn⟩

theorem Stays.run (h : s.Stays n) (hr : s.run? ts = some s')
    (hlast : .unsubscribe n ∉ ts) : s'.Stays n := by
  induction ts generalizing s with
  | nil => exact Option.some.inj hr ▸ h
  | cons t ts ih =>
    obtain ⟨s₁, ht, hrest⟩ := run?_cons_eq_some.mp hr
    rw [List.mem_cons, not_or] at hlast
    exact ih (h.step ht (Ne.symm hlast.1)) hrest hlast.2

/-- Between rounds, a subscription that stays is on the chart. -/
theorem Stays.listed (h : s.Stays n) (hend : s.rounds = []) : n ∈ s.chart.listed := by
  rw [Stays, hend] at h
  rcases h with ⟨hn | ⟨_, hr, _⟩, _⟩ | ⟨_, hr, _⟩
  · exact hn
  · exact nomatch hr
  · exact nomatch hr

/-- If another round begins before the innermost one finishes, its subscriptions stay. -/
theorem stays_of_disturbed {r : Round Listener} (hr : s.rounds.head? = some r)
    (hid : n ∈ r.numbers) (hts : ¬ undisturbed ts) (hrun : s.run? ts = some s')
    (hlast : .unsubscribe n ∉ ts) : s'.Stays n := by
  induction ts generalizing s r with
  | nil => exact absurd trivial hts
  | cons t ts ih =>
    obtain ⟨s₁, ht, hrest⟩ := run?_cons_eq_some.mp hrun
    have hlast' : .unsubscribe n ∉ ts := fun hm => hlast (.tail _ hm)
    cases t with
    | begin f =>
      -- The round of the subscription is an outer one from now on.
      have h₁ : s₁.Stays n := by
        obtain rfl := Option.some.inj ht
        exact .inr ⟨r, List.mem_of_mem_head? hr, hid⟩
      exact h₁.run hrest hlast'
    | finish => exact absurd trivial hts
    | call =>
      obtain ⟨taken, e, waiting, rounds, hrounds, rfl⟩ := step?_call ht
      rw [hrounds] at hr
      obtain rfl := Option.some.inj hr
      exact ih (r := ⟨taken, waiting⟩) rfl hid hts hrest hlast'
    | _ =>
      have hr₁ : s₁.rounds.head? = some r := Option.some.inj ht ▸ hr
      exact ih hr₁ hid hts hrest hlast'

/-! ## What a cancellation comes to -/

/-- No outer round has the subscription, and if the innermost has it, then it finishes before
another begins. -/
def Settles (s : Dispatch Item Listener) (n : Nat) (ts : List (Turn Item Listener)) : Prop :=
  (∀ r ∈ s.rounds.tail, n ∉ r.numbers) ∧
    ((∃ r ∈ s.rounds.head?, n ∈ r.numbers) → undisturbed ts)

theorem Orderly.gone_of_settles (h : s.Orderly) (hid : n < s.chart.nextId)
    (hts : s.Settles n ts) (hrun : s.run? (.unsubscribe n :: ts) = some s')
    (hend : s'.rounds = []) : s'.Gone n := by
  obtain ⟨s₁, ht, hrest⟩ := run?_cons_eq_some.mp hrun
  obtain rfl := Option.some.inj ht
  obtain ⟨houter, hinner⟩ := hts
  have hoff : Off { s with chart := s.chart.unsubscribe n } n := by
    refine ⟨?_, fun hn => (Chart.mem_listed_unsubscribe.mp hn).2 rfl⟩
    rw [Chart.nextId_unsubscribe]
    exact hid
  -- What the innermost round has is marked, and all else is off the chart at once.
  by_cases hin : ∃ r ∈ s.rounds.head?, n ∈ r.numbers
  · obtain ⟨r, hr, hn⟩ := hin
    have hlisted : n ∉ s.chart.listed := h.unlisted r (List.mem_of_mem_head? hr) n hn
    have hdoomed : Doomed { s with chart := s.chart.unsubscribe n } n :=
      ⟨hoff, Chart.mem_cancelled_unsubscribe.mpr (.inr ⟨rfl, hlisted⟩),
        fun he => by simp [show s.rounds = [] from he] at hr, houter⟩
    exact hdoomed.run (hinner ⟨r, hr, hn⟩) hrest hend
  · have hgone : Gone { s with chart := s.chart.unsubscribe n } n := by
      refine ⟨hoff, fun r hr hn => ?_⟩
      obtain ⟨chart, rounds⟩ := s
      cases rounds with
      | nil => exact nomatch hr
      | cons r' rounds =>
        rcases List.mem_cons.mp hr with rfl | hr
        · exact hin ⟨r, rfl, hn⟩
        · exact houter r hr hn
    exact hgone.run hrest

theorem stays_of_not_settles (hts : ¬ s.Settles n ts)
    (hrun : s.run? (.unsubscribe n :: ts) = some s') (hlast : .unsubscribe n ∉ ts) :
    s'.Stays n := by
  obtain ⟨s₁, ht, hrest⟩ := run?_cons_eq_some.mp hrun
  have hrounds : s₁.rounds = s.rounds := by
    obtain rfl := Option.some.inj ht
    rfl
  by_cases houter : ∃ r ∈ s.rounds.tail, n ∈ r.numbers
  · have h₁ : s₁.Stays n := .inr (hrounds ▸ houter)
    exact h₁.run hrest hlast
  · have hinner : ¬ ((∃ r ∈ s.rounds.head?, n ∈ r.numbers) → undisturbed ts) := fun hin =>
      hts ⟨fun r hr hn => houter ⟨r, hr, hn⟩, hin⟩
    obtain ⟨⟨r, hr, hn⟩, hts⟩ := Classical.not_imp.mp hinner
    exact stays_of_disturbed (hrounds ▸ hr) hn hts hrest hlast

/-- What the last cancellation of an issued subscription comes to once all rounds have finished. If
it settles, the subscription is never on the chart again and its listener is never called. If it
does not, the subscription is on the chart as if it had not been cancelled. -/
theorem unsubscribe_outcome {view : View} {before : List (Turn Item Listener)}
    (hstart : run? ⟨.empty view, []⟩ before = some s) (hid : n < s.chart.nextId)
    (hrun : s.run? (.unsubscribe n :: ts) = some s') (hlast : .unsubscribe n ∉ ts)
    (hend : s'.rounds = []) :
    (s.Settles n ts → ∀ later s'', s'.run? later = some s'' →
      n ∉ s''.chart.listed ∧ s''.next? ≠ some n) ∧
    (¬ s.Settles n ts → n ∈ s'.chart.listed) := by
  have hs : s.Orderly := (orderly_empty view).run hstart
  refine ⟨fun hts later s'' hlater => ?_, fun hts =>
    (stays_of_not_settles hts hrun hlast).listed hend⟩
  have hgone := (hs.gone_of_settles hid hts hrun hend).run hlater
  have hs'' : s''.Orderly := (hs.run hrun).run hlater
  refine ⟨hgone.unlisted, fun hnext => ?_⟩
  obtain ⟨r, hr, hn⟩ := hs''.next hnext
  exact hgone.untaken r hr hn

/-- A called listener cancels one that waits and changes the range: the cancellation is lost. -/
theorem unsubscribe_outcome_nested :
    ∃ s s' : Dispatch Unit Unit,
      run? ⟨.empty default, []⟩ [.subscribe (), .subscribe (), .begin id, .call] = some s ∧
      2 < s.chart.nextId ∧
      s.run? [.unsubscribe 2, .begin id, .finish, .call, .finish] = some s' ∧
      (.unsubscribe 2 : Turn Unit Unit) ∉ [.begin id, .finish, .call, .finish] ∧
      s'.rounds = [] ∧ ¬ s.Settles 2 [.begin id, .finish, .call, .finish] ∧
      2 ∈ s'.chart.listed := by
  obtain ⟨s, hs⟩ : ∃ s : Dispatch Unit Unit,
      run? ⟨.empty default, []⟩ [.subscribe (), .subscribe (), .begin id, .call] = some s :=
    ⟨_, rfl⟩
  obtain ⟨s', hs'⟩ :
      ∃ s', s.run? [.unsubscribe 2, .begin id, .finish, .call, .finish] = some s' := by
    obtain rfl := Option.some.inj hs
    exact ⟨_, rfl⟩
  have hissued : 2 < s.chart.nextId := by
    obtain rfl := Option.some.inj hs
    decide
  have hend : s'.rounds = [] := by
    obtain rfl := Option.some.inj hs
    obtain rfl := Option.some.inj hs'
    rfl
  have hlast : (.unsubscribe 2 : Turn Unit Unit) ∉ [.begin id, .finish, .call, .finish] := by
    simp
  have hts : ¬ s.Settles 2 [.begin id, .finish, .call, .finish] := by
    obtain rfl := Option.some.inj hs
    exact fun h => h.2 ⟨_, rfl, .tail _ (.head _)⟩
  exact ⟨s, s', hs, hissued, hs', hlast, hend, hts,
    (unsubscribe_outcome hs hissued hs' hlast hend).2 hts⟩

end PositionOverlay.Dispatch
