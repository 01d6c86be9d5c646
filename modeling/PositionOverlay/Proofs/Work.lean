/-! # Work on a state that may fault

What one step of such work does to a state, and what can be said of its parts when the whole has
succeeded. Charts and scenes are both changed by work of this kind.
-/
namespace PositionOverlay.Work

variable {σ ε α β : Type}

theorem bind_run (x : StateT σ (Except ε) α) (f : α → StateT σ (Except ε) β) (s : σ) :
    (x >>= f) s = match x s with
      | .ok (a, s') => f a s'
      | .error e => .error e := by
  cases h : x s <;> simp only [bind, StateT.bind, Except.bind, h]

theorem pure_run (a : α) (s : σ) : (pure a : StateT σ (Except ε) α) s = .ok (a, s) := rfl

theorem get_run (s : σ) : (get : StateT σ (Except ε) σ) s = .ok (s, s) := rfl

theorem modifyGet_run (f : σ → α × σ) (s : σ) :
    (modifyGet f : StateT σ (Except ε) α) s = .ok ((f s).1, (f s).2) := rfl

theorem lift_run (x : Except ε α) (s : σ) :
    (liftM x : StateT σ (Except ε) α) s = x.map fun a => (a, s) := by
  cases x <;> rfl

theorem lift_of_ok {x : Except ε α} {a : α} (h : x = .ok a) (s : σ) :
    (liftM x : StateT σ (Except ε) α) s = .ok (a, s) := by
  rw [lift_run, h, Except.map]

theorem lift_eq_ok {x : Except ε α} {s s' : σ} {a : α} :
    (liftM x : StateT σ (Except ε) α) s = .ok (a, s') ↔ x = .ok a ∧ s = s' := by
  rw [lift_run]
  cases x with
  | error e => exact ⟨nofun, fun h => nomatch h.1⟩
  | ok b => simp [Except.map]

theorem bind_of_ok {x : StateT σ (Except ε) α} {s s' : σ} {a : α} (h : x s = .ok (a, s'))
    (f : α → StateT σ (Except ε) β) : (x >>= f) s = f a s' := by
  rw [bind_run, h]

/-- The parts of work that has succeeded have succeeded. -/
theorem bind_eq_ok {x : StateT σ (Except ε) α} {f : α → StateT σ (Except ε) β} {s s'' : σ}
    {b : β} : (x >>= f) s = .ok (b, s'') ↔ ∃ a s', x s = .ok (a, s') ∧ f a s' = .ok (b, s'') := by
  rw [bind_run]
  rcases h : x s with e | ⟨a, s'⟩
  · simp
  · constructor
    · exact fun hf => ⟨a, s', rfl, hf⟩
    · rintro ⟨a', t, hx, hf⟩
      obtain ⟨rfl, rfl⟩ := Prod.mk.inj (Except.ok.inj hx)
      exact hf

/-- The same of work that has no state. -/
theorem except_bind_eq_ok {x : Except ε α} {f : α → Except ε β} {b : β} :
    x >>= f = .ok b ↔ ∃ a, x = .ok a ∧ f a = .ok b := by
  cases x with
  | error e => exact ⟨nofun, fun ⟨_, h, _⟩ => nomatch h⟩
  | ok a =>
    constructor
    · exact fun hf => ⟨a, rfl, hf⟩
    · rintro ⟨_, ⟨⟩, hf⟩
      exact hf

theorem except_toOption_eq_some {x : Except ε α} {a : α} : x.toOption = some a ↔ x = .ok a := by
  cases x with
  | error e => exact ⟨nofun, nofun⟩
  | ok b =>
    constructor
    · exact fun h => congrArg Except.ok (Option.some.inj h)
    · exact fun h => congrArg some (Except.ok.inj h)

theorem except_mapError_eq_ok {x : Except ε α} {f : ε → β} {a : α} :
    x.mapError f = .ok a ↔ x = .ok a := by
  cases x with
  | error e => exact ⟨nofun, nofun⟩
  | ok b =>
    constructor
    · exact fun h => congrArg Except.ok (Except.ok.inj h)
    · exact fun h => congrArg Except.ok (Except.ok.inj h)

/-! ## What work ensures -/

/-- Work that begins where `P` holds and ends well has a result and a state for which `Q` holds. -/
def Ensures (P : σ → Prop) (x : StateT σ (Except ε) α) (Q : α → σ → Prop) : Prop :=
  ∀ ⦃s a s'⦄, P s → x s = .ok (a, s') → Q a s'

namespace Ensures

variable {P : σ → Prop} {Q : α → σ → Prop} {R : β → σ → Prop}

theorem bind {x : StateT σ (Except ε) α} {f : α → StateT σ (Except ε) β} (hx : Ensures P x Q)
    (hf : ∀ a, Ensures (Q a) (f a) R) : Ensures P (x >>= f) R := by
  intro s b s'' hs h
  obtain ⟨a, s', h₁, h₂⟩ := bind_eq_ok.mp h
  exact hf a (hx hs h₁) h₂

theorem pure {a : α} (h : ∀ s, P s → Q a s) :
    Ensures P (Pure.pure a : StateT σ (Except ε) α) Q := by
  rintro s _ _ hs ⟨⟩
  exact h s hs

/-- More may hold at the beginning than is needed. -/
theorem weaken {P' : σ → Prop} {x : StateT σ (Except ε) α} (hx : Ensures P x Q)
    (h : ∀ s, P' s → P s) : Ensures P' x Q :=
  fun _ _ _ hs hrun => hx (h _ hs) hrun

theorem get : Ensures P (MonadState.get : StateT σ (Except ε) σ) fun a s => a = s ∧ P s := by
  rintro s _ _ hs ⟨⟩
  exact ⟨rfl, hs⟩

theorem modify {f : σ → σ} {Q : PUnit → σ → Prop} (h : ∀ s, P s → Q () (f s)) :
    Ensures P (modify f : StateT σ (Except ε) PUnit) Q := by
  rintro s _ _ hs ⟨⟩
  exact h s hs

theorem modifyGet {f : σ → α × σ} (h : ∀ s, P s → Q (f s).1 (f s).2) :
    Ensures P (MonadState.modifyGet f : StateT σ (Except ε) α) Q := by
  intro s a s' hs hf
  obtain ⟨rfl, rfl⟩ := Prod.mk.inj (Except.ok.inj hf)
  exact h s hs

/-- A loop keeps what each of its turns keeps. -/
theorem forM {xs : List α} {f : α → StateT σ (Except ε) PUnit}
    (hf : ∀ a ∈ xs, Ensures P (f a) fun _ => P) : Ensures P (xs.forM f) fun _ => P := by
  induction xs with
  | nil => exact pure fun _ => id
  | cons x xs ih =>
    exact bind (hf x List.mem_cons_self) fun _ => ih fun a ha => hf a (List.mem_cons_of_mem _ ha)

end Ensures

/-- Work that ends well has a result for which `P` holds, whatever the state. -/
def Yields (P : α → Prop) (x : StateT σ (Except ε) α) : Prop := ∀ ⦃s a s'⦄, x s = .ok (a, s') → P a

namespace Yields

variable {P : α → Prop} {Q : β → Prop}

theorem bind {x : StateT σ (Except ε) α} {f : α → StateT σ (Except ε) β} (hx : Yields P x)
    (hf : ∀ a, P a → Yields Q (f a)) : Yields Q (x >>= f) := by
  intro s b s'' h
  obtain ⟨a, s', h₁, h₂⟩ := bind_eq_ok.mp h
  exact hf a (hx h₁) h₂

/-- The last part decides. -/
theorem after {x : StateT σ (Except ε) α} {f : α → StateT σ (Except ε) β}
    (hf : ∀ a, Yields Q (f a)) : Yields Q (x >>= f) := by
  have hx : Yields (fun _ => True) x := fun _ _ _ _ => trivial
  exact hx.bind fun a _ => hf a

theorem pure {a : α} (h : P a) : Yields P (Pure.pure a : StateT σ (Except ε) α) := by
  rintro s _ _ ⟨⟩
  exact h

theorem lift {x : Except ε α} (h : ∀ a, x = .ok a → P a) :
    Yields P (liftM x : StateT σ (Except ε) α) :=
  fun _ a _ hx => h a (lift_eq_ok.mp hx).1

end Yields

/-! ## What work upholds -/

/-- Work that is begun where `I` holds either ends where `I` holds, with a result for which `Q`
holds, or fails in a way that `E` allows. -/
def Upholds (I : σ → Prop) (E : ε → Prop) (x : StateT σ (Except ε) α) (Q : α → Prop) : Prop :=
  ∀ ⦃s⦄, I s → match x s with
    | .ok (a, s') => Q a ∧ I s'
    | .error e => E e

namespace Upholds

variable {I : σ → Prop} {E : ε → Prop} {Q : α → Prop} {R : β → Prop}

theorem bind {x : StateT σ (Except ε) α} {f : α → StateT σ (Except ε) β} (hx : Upholds I E x Q)
    (hf : ∀ a, Q a → Upholds I E (f a) R) : Upholds I E (x >>= f) R := by
  intro s hs
  have h := hx hs
  rw [bind_run]
  rcases hrun : x s with e | ⟨a, s'⟩ <;> rw [hrun] at h
  · exact h
  · exact hf a h.1 h.2

theorem pure {a : α} (h : Q a) : Upholds I E (Pure.pure a : StateT σ (Except ε) α) Q :=
  fun _ hs => ⟨h, hs⟩

theorem lift (Q : α → Prop) {x : Except ε α} {a : α} (hx : x = .ok a) (h : Q a) :
    Upholds I E (liftM x : StateT σ (Except ε) α) Q := by
  subst hx
  exact pure h

theorem get : Upholds I E (MonadState.get : StateT σ (Except ε) σ) I := fun _ hs => ⟨hs, hs⟩

theorem modify {f : σ → σ} (h : ∀ s, I s → I (f s)) :
    Upholds I E (modify f : StateT σ (Except ε) PUnit) fun _ => True :=
  fun s hs => ⟨trivial, h s hs⟩

theorem modifyGet {f : σ → α × σ} (h : ∀ s, I s → Q (f s).1 ∧ I (f s).2) :
    Upholds I E (MonadState.modifyGet f : StateT σ (Except ε) α) Q := h

theorem throw {e : ε} (h : E e) : Upholds I E (throw e : StateT σ (Except ε) α) Q := fun _ _ => h

theorem forM {xs : List α} {f : α → StateT σ (Except ε) PUnit}
    (hf : ∀ a ∈ xs, Upholds I E (f a) fun _ => True) : Upholds I E (xs.forM f) fun _ => True := by
  induction xs with
  | nil => exact pure trivial
  | cons x xs ih =>
    exact (hf x List.mem_cons_self).bind fun _ _ => ih fun a ha => hf a (List.mem_cons_of_mem _ ha)

/-- Work that cannot fail has a result. -/
theorem exists_ok {x : StateT σ (Except ε) α} (h : Upholds I (fun _ => False) x Q) {s : σ}
    (hs : I s) : ∃ a s', x s = .ok (a, s') ∧ Q a ∧ I s' := by
  have h := h hs
  rcases hrun : x s with e | ⟨a, s'⟩ <;> rw [hrun] at h
  · exact h.elim
  · exact ⟨a, s', rfl, h⟩

end Upholds

/-! ## Work beside other work -/

/-- Both runs have failed, or both have ended well, in states for which `R` holds and with results
for which `Q` holds. -/
def Agree (R : σ → σ → Prop) (Q : α → α → Prop) :
    Except ε (α × σ) → Except ε (α × σ) → Prop
  | .ok (a, s), .ok (a', s') => Q a a' ∧ R s s'
  | .error _, .error _ => True
  | _, _ => False

/-- Work that is begun in two states for which `R` holds comes to the same. -/
def Together (R : σ → σ → Prop) (x x' : StateT σ (Except ε) α) (Q : α → α → Prop) : Prop :=
  ∀ ⦃s s'⦄, R s s' → Agree R Q (x s) (x' s')

variable {R : σ → σ → Prop} {Q : α → α → Prop} {S : β → β → Prop}

theorem Agree.bind {x x' : StateT σ (Except ε) α} {f f' : α → StateT σ (Except ε) β} {s s' : σ}
    (hx : Agree R Q (x s) (x' s')) (hf : ∀ a a', Q a a' → Together R (f a) (f' a') S) :
    Agree R S ((x >>= f) s) ((x' >>= f') s') := by
  rw [bind_run, bind_run]
  generalize x s = r, x' s' = r' at hx ⊢
  rcases r with e | ⟨a, t⟩ <;> rcases r' with e' | ⟨a', t'⟩
  · exact trivial
  · exact False.elim hx
  · exact False.elim hx
  · exact hf a a' hx.1 hx.2

namespace Together

theorem bind {x x' : StateT σ (Except ε) α} {f f' : α → StateT σ (Except ε) β}
    (hx : Together R x x' Q) (hf : ∀ a a', Q a a' → Together R (f a) (f' a') S) :
    Together R (x >>= f) (x' >>= f') S :=
  fun _ _ hs => (hx hs).bind hf

/-- Work that goes on with one result. -/
theorem chain {x x' : StateT σ (Except ε) α} {f f' : α → StateT σ (Except ε) β}
    (hx : Together R x x' Eq) (hf : ∀ a, Together R (f a) (f' a) S) :
    Together R (x >>= f) (x' >>= f') S :=
  hx.bind fun a _ h => h ▸ hf a

theorem pure {a a' : α} (h : Q a a') :
    Together R (Pure.pure a : StateT σ (Except ε) α) (Pure.pure a') Q :=
  fun _ _ hs => ⟨h, hs⟩

theorem get : Together R (MonadState.get : StateT σ (Except ε) σ) MonadState.get R :=
  fun _ _ hs => ⟨hs, hs⟩

theorem modify {f f' : σ → σ} (h : ∀ s s', R s s' → R (f s) (f' s')) :
    Together R (modify f : StateT σ (Except ε) PUnit) (modify f') Eq :=
  fun s s' hs => ⟨rfl, h s s' hs⟩

theorem throw (e e' : ε) : Together R (throw e : StateT σ (Except ε) α) (throw e') Q :=
  fun _ _ _ => trivial

theorem forM {xs : List α} {f f' : α → StateT σ (Except ε) PUnit}
    (hf : ∀ a, Together R (f a) (f' a) Eq) : Together R (xs.forM f) (xs.forM f') Eq := by
  induction xs with
  | nil => exact pure rfl
  | cons x xs ih => exact (hf x).chain fun _ => ih

end Together

end PositionOverlay.Work
