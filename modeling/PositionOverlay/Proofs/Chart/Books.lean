import Mathlib.Algebra.BigOperators.Group.Finset.Basic
import Mathlib.Algebra.GroupWithZero.Nat
import PositionOverlay.Chart

/-! # The books of a chart

What a chart has on it can be entered in books: its items, its listeners, and the lines that were
made and not deleted. During a round the listeners that it has taken count as well, unless they are
cancelled. Numbers are issued once, so a chart strikes off what was entered under a number and
nothing else, and what is entered for one user of the chart stays apart from all the rest.
-/
namespace PositionOverlay

variable {Item Listener : Type}

/-- Entries for items, for listeners, and for lines. -/
abbrev Ledger (Item Listener : Type) := Multiset (Nat × Item) × Multiset (Nat × Listener) × ℕ

namespace Ledger

variable {α : Type} {n : Nat}

theorem nodup_snoc {es : List (Nat × α)} (h : (es.map Prod.fst).Nodup) (hlt : ∀ e ∈ es, e.1 < n)
    (a : α) : ((es ++ [(n, a)]).map Prod.fst).Nodup := by
  rw [List.map_append, List.nodup_append]
  refine ⟨h, List.nodup_singleton _, ?_⟩
  rintro _ hn _ hn' rfl
  obtain ⟨e, he, rfl⟩ := List.mem_map.mp hn
  have hlt := hlt e he
  rw [List.map_singleton, List.mem_singleton] at hn'
  omega

theorem lt_snoc {es : List (Nat × α)} (hlt : ∀ e ∈ es, e.1 < n) (a : α) :
    ∀ e ∈ es ++ [(n, a)], e.1 < n + 1 := by
  intro e he
  rcases List.mem_append.mp he with he | he
  · exact Nat.lt_succ_of_lt (hlt e he)
  · rw [List.mem_singleton.mp he]
    exact Nat.lt_succ_self _

/-- The entries without those of a number. -/
def strike (es : Multiset (Nat × α)) (n : Nat) : Multiset (Nat × α) := es.filter fun e => e.1 ≠ n

theorem strike_coe (es : List (Nat × α)) (n : Nat) :
    strike (es : Multiset (Nat × α)) n = (es.filter fun e => e.1 != n : List (Nat × α)) := by
  rw [strike, Multiset.filter_coe]
  congr 2
  funext e
  by_cases he : e.1 = n <;> simp [he]

theorem strike_of_notMem {es : Multiset (Nat × α)} (h : n ∉ es.map Prod.fst) :
    strike es n = es := by
  rw [strike, Multiset.filter_eq_self]
  rintro e he rfl
  exact h (Multiset.mem_map_of_mem _ he)

theorem strike_add (es es' : Multiset (Nat × α)) (n : Nat) :
    strike (es + es') n = strike es n + strike es' n := Multiset.filter_add _ _ _

/-- Of entries with different numbers, one is struck off alone. -/
theorem strike_singleton_add {es : Multiset (Nat × α)} {a : α}
    (h : (({(n, a)} + es).map Prod.fst).Nodup) : strike ({(n, a)} + es) n = es := by
  rw [Multiset.singleton_add, Multiset.map_cons, Multiset.nodup_cons] at h
  rw [strike_add, strike_of_notMem h.1, strike, Multiset.filter_singleton, if_neg (by simp),
    Multiset.empty_eq_zero, zero_add]

end Ledger

namespace Chart

open Ledger

/-- The listeners that will be on the chart once a round that has taken some of them is over. -/
def standing (c : Chart Item Listener) (taken : List (Nat × Listener)) :
    List (Nat × Listener) := (c.putListeners taken).listeners

/-- Numbers of items and of listeners are issued once, and no listener on the chart is marked. -/
structure Numbered (c : Chart Item Listener) (taken : List (Nat × Listener)) : Prop where
  items : (c.items.map Prod.fst).Nodup
  itemsIssued : ∀ e ∈ c.items, e.1 < c.nextId
  listeners : ((taken ++ c.listeners).map Prod.fst).Nodup
  issued : ∀ e ∈ taken ++ c.listeners, e.1 < c.nextId
  marksIssued : ∀ n ∈ c.cancelled, n < c.nextId
  unmarked : ∀ e ∈ c.listeners, e.1 ∉ c.cancelled

/-- The chart has on it what the ledger says, in a round that has taken some listeners. -/
structure Books (c : Chart Item Listener) (taken : List (Nat × Listener))
    (b : Ledger Item Listener) : Prop where
  numbered : c.Numbered taken
  items : (c.items : Multiset (Nat × Item)) = b.1
  listeners : (c.standing taken : Multiset (Nat × Listener)) = b.2.1
  lines : c.tally.linesCreated = c.tally.linesDeleted + b.2.2

variable {c : Chart Item Listener} {taken : List (Nat × Listener)} {b : Ledger Item Listener}
  {n : Nat}

theorem standing_eq (c : Chart Item Listener) (taken : List (Nat × Listener)) :
    c.standing taken = (taken.filter fun e => !c.cancelled.contains e.1) ++ c.listeners := rfl

theorem standing_sublist (c : Chart Item Listener) (taken : List (Nat × Listener)) :
    (c.standing taken).Sublist (taken ++ c.listeners) :=
  List.filter_sublist.append (List.Sublist.refl _)

theorem standing_subscribe (c : Chart Item Listener) (taken : List (Nat × Listener))
    (l : Listener) : (c.subscribe l).2.standing taken = c.standing taken ++ [(c.nextId, l)] :=
  (List.append_assoc _ _ _).symm

theorem standing_unsubscribe (h : ((taken ++ c.listeners).map Prod.fst).Nodup) (n : Nat) :
    (c.unsubscribe n).standing taken = (c.standing taken).filter fun e => e.1 != n := by
  rw [standing_eq, standing_eq, List.filter_append]
  rw [List.map_append, List.nodup_append] at h
  unfold Chart.unsubscribe
  split
  · -- A listener on the chart has not been taken.
    rename_i hn
    obtain ⟨e, he, hen⟩ := List.any_eq_true.mp hn
    have htaken : ∀ e' ∈ taken, e'.1 ≠ n := fun e' he' hn' =>
      h.2.2 _ (List.mem_map_of_mem he') _ (List.mem_map_of_mem he)
        (hn'.trans (eq_of_beq hen).symm)
    have hstay : (taken.filter fun e => !c.cancelled.contains e.1).filter (fun e => e.1 != n) =
        taken.filter fun e => !c.cancelled.contains e.1 :=
      List.filter_eq_self.mpr fun e' he' =>
        bne_iff_ne.mpr (htaken e' (List.mem_of_mem_filter he'))
    rw [hstay]
  · rename_i hn
    have hlisted : c.listeners.filter (fun e => e.1 != n) = c.listeners :=
      List.filter_eq_self.mpr fun e he => by
        rw [bne_iff_ne]
        rintro rfl
        exact hn (List.any_eq_true.mpr ⟨e, he, beq_self_eq_true _⟩)
    rw [hlisted, List.filter_filter]
    congr 2
    funext e
    by_cases he : e.1 = n <;> simp [he]

theorem books_empty (view : View) : (empty view : Chart Item Listener).Books [] 0 :=
  ⟨⟨.nil, nofun, .nil, nofun, nofun, nofun⟩, rfl, rfl, rfl⟩

namespace Books

theorem items_nodup (h : c.Books taken b) : (b.1.map Prod.fst).Nodup := by
  rw [← h.items]
  exact h.numbered.items

theorem listeners_nodup (h : c.Books taken b) : (b.2.1.map Prod.fst).Nodup := by
  rw [← h.listeners]
  exact h.numbered.listeners.sublist ((c.standing_sublist taken).map _)

/-- Nothing but the journal and the count of labels has changed. -/
theorem of_still {c' : Chart Item Listener} (h : c.Books taken b) (hitems : c'.items = c.items)
    (hlisteners : c'.listeners = c.listeners) (hcancelled : c'.cancelled = c.cancelled)
    (hid : c'.nextId = c.nextId) (hcreated : c'.tally.linesCreated = c.tally.linesCreated)
    (hdeleted : c'.tally.linesDeleted = c.tally.linesDeleted) : c'.Books taken b := by
  obtain ⟨⟨h₁, h₂, h₃, h₄, h₅, h₆⟩, h₇, h₈, h₉⟩ := h
  refine ⟨⟨?_, ?_, ?_, ?_, ?_, ?_⟩, ?_, ?_, ?_⟩ <;>
    simp only [standing_eq, hitems, hlisteners, hcancelled, hid, hcreated, hdeleted] <;> assumption

/-- The order of the entries does not count. -/
theorem reorder (h : c.Books [] b) {items : List (Nat × Item)} {listeners : List (Nat × Listener)}
    (hi : items.Perm c.items) (hl : listeners.Perm c.listeners) :
    Books { c with items, listeners } [] b where
  numbered :=
    { items := (hi.map Prod.fst).nodup_iff.mpr h.numbered.items
      itemsIssued := fun e he => h.numbered.itemsIssued e (hi.subset he)
      listeners := (hl.map Prod.fst).nodup_iff.mpr h.numbered.listeners
      issued := fun e he => h.numbered.issued e (hl.subset he)
      marksIssued := h.numbered.marksIssued
      unmarked := fun e he => h.numbered.unmarked e (hl.subset he) }
  items := (Multiset.coe_eq_coe.mpr hi).trans h.items
  listeners := (Multiset.coe_eq_coe.mpr hl).trans h.listeners
  lines := h.lines

theorem addItem (h : c.Books taken b) (i : Item) :
    (c.addItem i).2.Books taken (({(c.nextId, i)}, 0, 0) + b) where
  numbered :=
    { h.numbered with
      items := nodup_snoc h.numbered.items h.numbered.itemsIssued i
      itemsIssued := lt_snoc h.numbered.itemsIssued i
      issued := fun e he => Nat.lt_succ_of_lt (h.numbered.issued e he)
      marksIssued := fun n hn => Nat.lt_succ_of_lt (h.numbered.marksIssued n hn) }
  items := by
    rw [Chart.addItem, ← Multiset.coe_add, h.items, add_comm]
    rfl
  listeners := by
    rw [Prod.snd_add, Prod.fst_add, zero_add]
    exact h.listeners
  lines := by
    rw [Prod.snd_add, Prod.snd_add, zero_add]
    exact h.lines

/-- The item of a number is removed, and no other. -/
theorem removeItem {i : Item} (h : c.Books taken (({(n, i)}, 0, 0) + b)) :
    (c.removeItem n).Books taken b where
  numbered :=
    { h.numbered with
      items := h.numbered.items.sublist (List.filter_sublist.map _)
      itemsIssued := fun e he => h.numbered.itemsIssued e (List.mem_of_mem_filter he) }
  items := by
    rw [Chart.removeItem, ← strike_coe, h.items, Prod.fst_add, strike_singleton_add h.items_nodup]
  listeners := by
    rw [← zero_add b.2.1]
    exact h.listeners
  lines := by
    rw [← zero_add b.2.2]
    exact h.lines

theorem subscribe (h : c.Books taken b) (l : Listener) :
    (c.subscribe l).2.Books taken ((0, {(c.nextId, l)}, 0) + b) where
  numbered :=
    { h.numbered with
      itemsIssued := fun e he => Nat.lt_succ_of_lt (h.numbered.itemsIssued e he)
      listeners := by
        rw [Chart.subscribe, ← List.append_assoc]
        exact nodup_snoc h.numbered.listeners h.numbered.issued l
      issued := by
        rw [Chart.subscribe, ← List.append_assoc]
        exact lt_snoc h.numbered.issued l
      marksIssued := fun n hn => Nat.lt_succ_of_lt (h.numbered.marksIssued n hn)
      unmarked := by
        intro e he hn
        rcases List.mem_append.mp he with he | he
        · exact h.numbered.unmarked e he hn
        · rw [List.mem_singleton.mp he] at hn
          exact Nat.lt_irrefl _ (h.numbered.marksIssued _ hn) }
  items := by
    rw [Prod.fst_add, zero_add]
    exact h.items
  listeners := by
    rw [standing_subscribe, ← Multiset.coe_add, h.listeners, add_comm]
    rfl
  lines := by
    rw [Prod.snd_add, Prod.snd_add, zero_add]
    exact h.lines

theorem unsubscribe (h : c.Books taken b) (hn : n < c.nextId) :
    (c.unsubscribe n).Books taken (b.1, strike b.2.1 n, b.2.2) where
  numbered := by
    unfold Chart.unsubscribe
    split
    · have hsub : (c.listeners.filter fun e => e.1 != n).Sublist c.listeners := List.filter_sublist
      exact { h.numbered with
        listeners := h.numbered.listeners.sublist (((List.Sublist.refl _).append hsub).map _)
        issued := fun e he =>
          h.numbered.issued e (((List.Sublist.refl _).append hsub).subset he)
        unmarked := fun e he => h.numbered.unmarked e (hsub.subset he) }
    · rename_i hlisted
      exact { h.numbered with
        marksIssued := List.forall_mem_cons.mpr ⟨hn, h.numbered.marksIssued⟩
        unmarked := by
          intro e he hm
          rcases List.mem_cons.mp hm with hen | hm
          · exact hlisted (List.any_eq_true.mpr ⟨e, he, beq_of_eq hen⟩)
          · exact h.numbered.unmarked e he hm }
  items := by
    rw [← h.items]
    unfold Chart.unsubscribe
    split <;> rfl
  listeners := by rw [standing_unsubscribe h.numbered.listeners, ← h.listeners, strike_coe]
  lines := by
    have htally : (c.unsubscribe n).tally = c.tally := by
      unfold Chart.unsubscribe
      split <;> rfl
    rw [htally]
    exact h.lines

theorem entry_issued {l : Listener} (h : c.Books taken ((0, {(n, l)}, 0) + b)) : n < c.nextId := by
  have hmem : (n, l) ∈ c.standing taken := by
    rw [← Multiset.mem_coe, h.listeners]
    exact Multiset.mem_add.mpr (.inl (Multiset.mem_singleton_self _))
  exact h.numbered.issued _ ((c.standing_sublist taken).subset hmem)

/-- The listener of a number is taken off, and no other. -/
theorem unsubscribe_entry {l : Listener} (h : c.Books taken ((0, {(n, l)}, 0) + b)) :
    (c.unsubscribe n).Books taken b := by
  have hb := h.unsubscribe h.entry_issued
  have he : ((0, {(n, l)}, 0) + b : Ledger Item Listener) = (b.1, {(n, l)} + b.2.1, b.2.2) := by
    rw [← zero_add b.1, ← zero_add b.2.2]
    rfl
  rw [he] at hb h
  rwa [strike_singleton_add h.listeners_nodup] at hb

theorem makeLine (h : c.Books taken b) (level : Float) (color : String) (options : LineOptions) :
    (c.makeLine level color options).2.Books taken ((0, 0, 1) + b) where
  numbered :=
    { h.numbered with
      itemsIssued := fun e he => Nat.lt_succ_of_lt (h.numbered.itemsIssued e he)
      issued := fun e he => Nat.lt_succ_of_lt (h.numbered.issued e he)
      marksIssued := fun n hn => Nat.lt_succ_of_lt (h.numbered.marksIssued n hn) }
  items := by
    rw [Prod.fst_add, zero_add]
    exact h.items
  listeners := by
    rw [Prod.snd_add, Prod.fst_add, zero_add]
    exact h.listeners
  lines := by
    have := h.lines
    simp only [Chart.makeLine, Prod.snd_add]
    omega

theorem deleteLine {l : Line} (hl : l.deleted = false) (h : c.Books taken ((0, 0, 1) + b)) :
    (c.deleteLine l).2.Books taken b := by
  have hd : (c.deleteLine l).2 =
      { c with tally.linesDeleted := c.tally.linesDeleted + 1 } := by simp [Chart.deleteLine, hl]
  rw [hd]
  refine ⟨{ h.numbered with }, ?_, ?_, ?_⟩
  · rw [← zero_add b.1]
    exact h.items
  · rw [← zero_add b.2.1]
    exact h.listeners
  · have := h.lines
    simp only [Prod.snd_add] at this
    dsimp only
    omega

/-- A round begins with all listeners that are on the chart. -/
theorem takeListeners (h : c.Books [] b) : c.takeListeners.2.Books c.listeners b where
  numbered :=
    { h.numbered with
      listeners := by
        rw [Chart.takeListeners, List.append_nil]
        exact h.numbered.listeners
      issued := by
        rw [Chart.takeListeners, List.append_nil]
        exact h.numbered.issued
      unmarked := nofun }
  items := h.items
  listeners := by
    have hall : (c.listeners.filter fun e => !c.cancelled.contains e.1) = c.listeners :=
      List.filter_eq_self.mpr fun e he => by simpa using h.numbered.unmarked e he
    rw [← h.listeners, standing_eq, standing_eq, Chart.takeListeners, List.append_nil]
    exact congrArg _ hall
  lines := h.lines

/-- A round ends with the listeners that stand. -/
theorem putListeners (h : c.Books taken b) : (c.putListeners taken).Books [] b where
  numbered :=
    { h.numbered with
      listeners := h.numbered.listeners.sublist ((c.standing_sublist taken).map _)
      issued := fun e he => h.numbered.issued e ((c.standing_sublist taken).subset he)
      marksIssued := nofun
      unmarked := fun _ _ => List.not_mem_nil }
  items := h.items
  listeners := h.listeners
  lines := h.lines

end Books

end Chart

end PositionOverlay
