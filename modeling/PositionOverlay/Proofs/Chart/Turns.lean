import PositionOverlay.Proofs.Chart.Rounds
import PositionOverlay.Proofs.Work

/-! # Work by turns

Work that ends well has taken its chart through turns, inside whatever rounds were in progress, and
has left no round of its own behind. This passes from the parts of work to the whole, so it has to
be seen for the operations of charts only.
-/
namespace PositionOverlay

variable {Item Listener σ ε α β : Type} {chart : σ → Chart Item Listener}

/-- Turns that end in the rounds in which they began lead from one chart to the other. -/
def Chart.Reaches (c c' : Chart Item Listener) : Prop :=
  ∀ rounds, ∃ ts, Dispatch.run? ⟨c, rounds⟩ ts = some ⟨c', rounds⟩

namespace Chart.Reaches

variable {c c' c'' : Chart Item Listener}

theorem refl (c : Chart Item Listener) : c.Reaches c := fun _ => ⟨[], rfl⟩

theorem trans (h : c.Reaches c') (h' : c'.Reaches c'') : c.Reaches c'' := by
  intro rounds
  obtain ⟨ts, hts⟩ := h rounds
  obtain ⟨ts', hts'⟩ := h' rounds
  refine ⟨ts ++ ts', ?_⟩
  rw [Dispatch.run?_append, hts]
  exact hts'

theorem edit (c : Chart Item Listener) (e : Chart.Edit Item) : c.Reaches (c.edit e) :=
  fun _ => ⟨[.edit e], rfl⟩

theorem subscribe (c : Chart Item Listener) (l : Listener) : c.Reaches (c.subscribe l).2 :=
  fun _ => ⟨[.subscribe l], rfl⟩

theorem unsubscribe (c : Chart Item Listener) (n : Nat) : c.Reaches (c.unsubscribe n) :=
  fun _ => ⟨[.unsubscribe n], rfl⟩

end Chart.Reaches

/-- Work on a state with a chart takes the chart through turns. -/
def ByTurns (chart : σ → Chart Item Listener) (x : StateT σ (Except ε) α) : Prop :=
  ∀ s a s', x s = .ok (a, s') → (chart s).Reaches (chart s')

namespace ByTurns

open Work

theorem pure (a : α) : ByTurns chart (Pure.pure a : StateT σ (Except ε) α) := by
  rintro s _ _ ⟨⟩
  exact .refl _

theorem bind {x : StateT σ (Except ε) α} {f : α → StateT σ (Except ε) β} (hx : ByTurns chart x)
    (hf : ∀ a, ByTurns chart (f a)) : ByTurns chart (x >>= f) := by
  intro s b s'' h
  obtain ⟨a, s', h₁, h₂⟩ := bind_eq_ok.mp h
  exact (hx s a s' h₁).trans (hf a s' b s'' h₂)

theorem get : ByTurns chart (MonadState.get : StateT σ (Except ε) σ) := by
  rintro s _ _ ⟨⟩
  exact .refl _

theorem lift (x : Except ε α) : ByTurns chart (liftM x : StateT σ (Except ε) α) := by
  intro s a s' h
  rw [lift_run] at h
  cases x with
  | error e => exact nomatch h
  | ok a' =>
    obtain ⟨rfl, rfl⟩ := Prod.mk.inj (Except.ok.inj h)
    exact .refl _

theorem throw (e : ε) : ByTurns chart (throw e : StateT σ (Except ε) α) := nofun

theorem modify {f : σ → σ} (hf : ∀ s, (chart s).Reaches (chart (f s))) :
    ByTurns chart (modify f : StateT σ (Except ε) PUnit) := by
  rintro s _ _ ⟨⟩
  exact hf s

theorem modifyGet {f : σ → α × σ} (hf : ∀ s, (chart s).Reaches (chart (f s).2)) :
    ByTurns chart (modifyGet f : StateT σ (Except ε) α) := by
  intro s a s' h
  have hs : (f s).2 = s' := congrArg Prod.snd (Except.ok.inj h)
  exact hs ▸ hf s

theorem forM {xs : List α} {f : α → StateT σ (Except ε) PUnit} (hf : ∀ a, ByTurns chart (f a)) :
    ByTurns chart (xs.forM f) := by
  induction xs with
  | nil => exact pure _
  | cons x xs ih => exact bind (hf x) fun _ => ih

end ByTurns

end PositionOverlay
