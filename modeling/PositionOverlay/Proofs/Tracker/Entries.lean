import PositionOverlay.Proofs.Chart.Books
import PositionOverlay.Proofs.Chart.Rounds
import PositionOverlay.Proofs.Tracker.Creation
import PositionOverlay.Proofs.Tracker.Report
import PositionOverlay.Proofs.Tracker.Moves

/-! # What a tracker has on its chart

A tracker has one item on its chart, at most one listener, and a line or none. All that this
depends on is its account. The account is in order if it has an item, if the marker is fit to be
moved with its labels, and if a line has a listener and the marker its color. Whatever a tracker
does, its account stays in order, the books of the chart follow it, and what others have on the
chart stays as it is.
-/
namespace PositionOverlay.Tracker

open Work Ledger

variable {Item Listener : Type} {own : Entrance Item Listener} {t t' : Tracker}
  {c c' : Chart Item Listener}

/-- What a tracker has to do with its chart. -/
structure Account where
  item : Option Nat
  subscription : Option Nat
  build : Nat
  deleted : Bool
  holders : Nat
  links : List Role
  follows : Bool
  pen : Option String
  brush : Option String
  /-- The color of the line, and whether it has been deleted. -/
  line : Option (String × Bool)

def account (t : Tracker) : Account where
  item := t.marker.item
  subscription := t.marker.subscription
  build := t.build
  deleted := t.marker.deleted
  holders := t.marker.holders
  links := t.marker.links
  follows := t.sizeLabel.follows
  pen := t.marker.pen
  brush := t.marker.brush
  line := t.line.map fun l => (l.color, l.deleted)

theorem Moved.account (h : t.Moved t') : t'.account = t.account := by
  obtain ⟨_, _, _, _, rfl⟩ := h
  rfl

namespace Account

variable {a a' : Account} {n : Nat}

def items (own : Entrance Item Listener) (a : Account) : List (Nat × Item) :=
  a.item.toList.map fun n => (n, own.item a.build)

def listeners (own : Entrance Item Listener) (a : Account) : List (Nat × Listener) :=
  a.subscription.toList.map fun n => (n, own.listener a.build)

/-- All that is on the chart. -/
def entries (own : Entrance Item Listener) (a : Account) : Ledger Item Listener :=
  (a.items own, a.listeners own, a.line.toList.length)

theorem entries_of_item (own : Entrance Item Listener) (h : a.item = some n) :
    a.entries own = ({(n, own.item a.build)}, 0, 0) + { a with item := none }.entries own := by
  simp [entries, listeners, items, h]

theorem entries_of_subscription (own : Entrance Item Listener) (h : a.subscription = some n) :
    a.entries own =
      (0, {(n, own.listener a.build)}, 0) + { a with subscription := none }.entries own := by
  simp [entries, listeners, items, h]

theorem entries_of_line (own : Entrance Item Listener) (h : a.line.isSome) :
    a.entries own = (0, 0, 1) + { a with line := none }.entries own := by
  obtain ⟨l, h⟩ := Option.isSome_iff_exists.mp h
  simp [entries, listeners, items, h]

structure InOrder (a : Account) : Prop where
  item : a.item.isSome
  live : a.deleted = false
  free : a.holders = 0
  links : a.links = [.pp, .size]
  follows : a.follows = true
  subscribed : a.line.isSome → a.subscription.isSome
  line : ∀ color deleted, a.line = some (color, deleted) →
    deleted = false ∧ a.pen = some color ∧ a.brush = some color

/-- What surrounds a tracker on its chart: the round in progress, the entries of others, and
numbers that the tracker must not have. -/
structure Surroundings (Item Listener : Type) where
  taken : List (Nat × Listener)
  others : Ledger Item Listener
  reserved : List Nat

/-- The entries of an account are in the books of the chart. -/
structure Listed (own : Entrance Item Listener) (w : Surroundings Item Listener) (a : Account)
    (c : Chart Item Listener) : Prop where
  books : c.Books w.taken (a.entries own + w.others)
  reserved : ∀ n ∈ w.reserved, n < c.nextId ∧ a.subscription ≠ some n

/-- An account in order whose entries are in the books. -/
structure Entered (own : Entrance Item Listener) (w : Surroundings Item Listener) (a : Account)
    (c : Chart Item Listener) : Prop where
  inOrder : a.InOrder
  listed : Listed own w a c

variable {w : Surroundings Item Listener}

namespace Listed

theorem noted (h : Listed own w a c) (hc : c.Noted c') : Listed own w a c' := by
  obtain ⟨journal, rfl⟩ := hc
  exact ⟨h.books.of_still rfl rfl rfl rfl rfl rfl, h.reserved⟩

/-- Only the entries count. -/
theorem congr (h : Listed own w a c) (hi : a'.item = a.item)
    (hs : a'.subscription = a.subscription) (hb : a'.build = a.build)
    (hl : a'.line.isSome = a.line.isSome) : Listed own w a' c where
  books := by
    have he : a'.entries own = a.entries own := by
      simp only [entries, items, listeners, hi, hs, hb]
      cases hl' : a.line <;> cases hl'' : a'.line <;> simp_all
    rw [he]
    exact h.books
  reserved := by
    rw [hs]
    exact h.reserved

/-- Without entries the build does not matter. -/
theorem rebuild (h : Listed own w a c) (hi : a.item = none) (hs : a.subscription = none)
    (build : Nat) : Listed own w { a with build } c where
  books := by
    have he : entries own { a with build } = a.entries own := by
      simp only [entries, items, listeners, hi, hs]
      rfl
    rw [he]
    exact h.books
  reserved := h.reserved

theorem addItem (h : Listed own w a c) (hi : a.item = none) :
    Listed own w { a with item := some c.nextId } (c.addItem (own.item a.build)).2 where
  books := by
    have ha : entries own { a with item := none } = a.entries own := by rw [← hi]
    have hb := h.books.addItem (own.item a.build)
    rw [← ha, ← add_assoc] at hb
    rwa [entries_of_item own rfl]
  reserved n hn := ⟨Nat.lt_succ_of_lt (h.reserved n hn).1, (h.reserved n hn).2⟩

theorem removeItem (h : Listed own w a c) (hi : a.item = some n) :
    Listed own w { a with item := none } (c.removeItem n) where
  books := by
    have hb := h.books
    rw [entries_of_item own hi, add_assoc] at hb
    exact hb.removeItem
  reserved := h.reserved

theorem subscribe (h : Listed own w a c) (hs : a.subscription = none) :
    Listed own w { a with subscription := some c.nextId }
      (c.subscribe (own.listener a.build)).2 where
  books := by
    have ha : entries own { a with subscription := none } = a.entries own := by rw [← hs]
    have hb := h.books.subscribe (own.listener a.build)
    rw [← ha, ← add_assoc] at hb
    rwa [entries_of_subscription own rfl]
  reserved k hk :=
    ⟨Nat.lt_succ_of_lt (h.reserved k hk).1,
      fun he => (h.reserved k hk).1.ne (Option.some.inj he).symm⟩

theorem unsubscribe (h : Listed own w a c) (hs : a.subscription = some n) :
    Listed own w { a with subscription := none } (c.unsubscribe n) where
  books := by
    have hb := h.books
    rw [entries_of_subscription own hs, add_assoc] at hb
    exact hb.unsubscribe_entry
  reserved k hk := by
    rw [c.nextId_unsubscribe]
    exact ⟨(h.reserved k hk).1, nofun⟩

theorem subscription_lt (h : Listed own w a c) (hs : a.subscription = some n) : n < c.nextId := by
  have hb := h.books
  rw [entries_of_subscription own hs, add_assoc] at hb
  exact hb.entry_issued

theorem makeLine (h : Listed own w a c) (hl : a.line = none) (level : Float) (color : String)
    (options : LineOptions) :
    Listed own w { a with line := some (color, false) } (c.makeLine level color options).2 where
  books := by
    have ha : entries own { a with line := none } = a.entries own := by rw [← hl]
    have hb := h.books.makeLine level color options
    rw [← ha, ← add_assoc] at hb
    rwa [entries_of_line own rfl]
  reserved n hn := ⟨Nat.lt_succ_of_lt (h.reserved n hn).1, (h.reserved n hn).2⟩

theorem deleteLine (h : Listed own w a c) (hl : a.line.isSome) {l : Line}
    (hd : l.deleted = false) : Listed own w { a with line := none } (c.deleteLine l).2 where
  books := by
    have hb := h.books
    rw [entries_of_line own hl, add_assoc] at hb
    exact hb.deleteLine hd
  reserved n hn := by
    have hid : (c.deleteLine l).2.nextId = c.nextId := by simp [Chart.deleteLine, hd]
    rw [hid]
    exact h.reserved n hn

end Listed

end Account

open Account

variable {w : Surroundings Item Listener} {a : Account}

/-! ## Parts of operations -/

theorem note_ensures (source : Source) (severity : Severity) (text : String) :
    Ensures (Listed own w a) (modify (·.note source severity text) : ChartM Item Listener PUnit)
      fun _ => Listed own w a :=
  .modify fun c h => h.noted (.note c _ _ _)

theorem paint_ensures (t : Tracker) :
    Ensures (Listed own w a) t.paint fun t' c => t.Moved t' ∧ Listed own w a c := by
  intro c t' c' h hp
  obtain ⟨rfl, hc⟩ := paint_eq_ok hp
  exact ⟨t.placed_moved c.view, h.noted hc⟩

/-- Connecting leaves the marker with a listener. -/
theorem connect_ensures (t : Tracker) (hs : a.subscription = t.marker.subscription)
    (hb : a.build = t.build) :
    Ensures (Listed own w a) (t.connect own) fun t' c =>
      ∃ n, t' = { t with marker.subscription := some n } ∧
        Listed own w { a with subscription := some n } c := by
  intro c t' c' h hc
  rcases ht : t.marker.subscription with _ | n
  · have he : t.connect own c = .ok ({ t with marker.subscription := some c.nextId },
        (c.subscribe (own.listener t.build)).2) := by
      simp only [connect, Marker.connect, ht, bind_run]
      rfl
    obtain ⟨rfl, rfl⟩ := Prod.mk.inj (Except.ok.inj (he.symm.trans hc))
    rw [← hb]
    exact ⟨_, rfl, h.subscribe (hs.trans ht)⟩
  · have he : t.connect own c = .ok (t, c) := by
      simp only [connect, Marker.connect, ht, bind_run]
      rfl
    obtain ⟨rfl, rfl⟩ := Prod.mk.inj (Except.ok.inj (he.symm.trans hc))
    refine ⟨n, by rw [← ht], h.congr rfl ?_ rfl rfl⟩
    rw [hs, ht]

theorem deleteMarker_ensures (t : Tracker) :
    Ensures (Listed own w t.account) t.deleteMarker fun t' c =>
      t' = { t with marker := t.marker.delete } ∧ Listed own w t'.account c := by
  intro c t' c' h hd
  obtain ⟨m, c₁, hw, hd⟩ := bind_eq_ok.mp hd
  obtain ⟨rfl, rfl⟩ := Prod.mk.inj (Except.ok.inj hd)
  unfold Marker.withdraw at hw
  rcases hi : t.marker.item with _ | i
  · rcases hs : t.marker.subscription with _ | n
    · simp only [hi, hs] at hw
      obtain ⟨rfl, rfl⟩ := Prod.mk.inj (Except.ok.inj hw)
      exact ⟨rfl, h.congr hi.symm hs.symm rfl rfl⟩
    · simp only [hi, hs] at hw
      obtain ⟨rfl, rfl⟩ := Prod.mk.inj (Except.ok.inj hw)
      exact ⟨rfl, (h.unsubscribe hs).congr hi.symm rfl rfl rfl⟩
  · rcases hs : t.marker.subscription with _ | n
    · simp only [hi, hs] at hw
      obtain ⟨rfl, rfl⟩ := Prod.mk.inj (Except.ok.inj hw)
      exact ⟨rfl, (h.removeItem hi).congr rfl hs.symm rfl rfl⟩
    · simp only [hi, hs] at hw
      obtain ⟨rfl, rfl⟩ := Prod.mk.inj (Except.ok.inj hw)
      exact ⟨rfl, ((h.removeItem hi).unsubscribe hs).congr rfl rfl rfl rfl⟩

/-! ## Accounts of trackers -/

theorem account_line {l : Line} (h : t.line = some l) :
    t.account.line = some (l.color, l.deleted) := by
  rw [account, h]
  rfl

/-- The line of a tracker in order has not been deleted. -/
theorem Account.InOrder.line_live (ha : t.account.InOrder) {l : Line} (h : t.line = some l) :
    l.deleted = false := (ha.line _ _ (account_line h)).1

theorem account_setArrow? (t : Tracker) (o : Option Arrow) (level : Float) (l : Line) :
    account { t with line := some l, marker := { t.marker.setArrow? o with level } } =
      { t.account with line := some (l.color, l.deleted) } := by
  cases o with
  | none => rfl
  | some a =>
    simp only [Marker.setArrow?, Marker.setArrow]
    split_ifs <;> rfl

theorem account_paintWith (t : Tracker) (o : Option Arrow) (color : String) (level : Float) :
    account { t with marker := { (t.marker.setArrow? o).paintWith color with level } } =
      { t.account with pen := some color, brush := some color } := by
  cases o with
  | none => rfl
  | some a =>
    simp only [Marker.setArrow?, Marker.setArrow]
    split_ifs <;> rfl

theorem account_writeSize (t : Tracker) (size : Float) :
    (t.writeSize size).account = t.account := by
  have hf : (t.writeSize size).sizeLabel.follows = t.sizeLabel.follows := by
    simp only [writeSize, Label.render, Label.update]
    split <;> rfl
  simp only [account, hf]
  rfl

theorem account_hide (t : Tracker) : t.hide.account = t.account := by
  simp only [account, hide, Option.map_map]
  rfl

theorem account_show (h : t.show = .ok t') : t'.account = t.account := by
  unfold Tracker.show at h
  split_ifs at h
  · rw [Except.ok.inj h]
  · obtain ⟨l, hl, h⟩ := except_bind_eq_ok.mp h
    rw [← Except.ok.inj h]
    have he : l.map (fun l => (l.color, l.deleted)) =
        t.line.map fun l => (l.color, l.deleted) := by
      rcases hline : t.line with _ | l₀
      · rw [hline] at hl
        rw [← Except.ok.inj hl]
      · rw [hline, Option.mapM_some] at hl
        obtain ⟨l₁, hl₁, hl⟩ := except_bind_eq_ok.mp hl
        unfold Line.show at hl₁
        split_ifs at hl₁
        rw [← Except.ok.inj hl, ← Except.ok.inj hl₁]
        rfl
    simp only [account, he]
    rfl

/-- The account of a tracker whose marker has just been built. -/
def Account.fresh (item build : Nat) (line : Option (String × Bool)) : Account where
  item := some item
  subscription := none
  build
  deleted := false
  holders := 0
  links := [.pp, .size]
  follows := true
  pen := none
  brush := none
  line

theorem account_rebuilt (hf : t.sizeLabel.follows = true) (o : Option Arrow) (size : Float)
    (keep visible : Bool) (item build : Nat) :
    let blank : Marker Role := .blank size keep
    account (pinLabels { t with
      marker := { o.elim blank blank.redraw with item := some item, visible }
      build }) = .fresh item build t.account.line := by
  cases o <;> simp [account, pinLabels, hf, Account.fresh, Marker.relink, Marker.blank,
    Marker.redraw]

/-! ## Operations -/

/-- Work on a tracker, at the end of which its account is entered if it was before. -/
abbrev KeepsEntered (own : Entrance Item Listener) (t : Tracker)
    (x : ChartM Item Listener Tracker) : Prop :=
  ∀ w, Ensures (Entered own w t.account) x fun t' c => Entered own w t'.account c

theorem pure_keepsEntered (h : t'.account = t.account) : KeepsEntered own t (pure t') :=
  fun _ => .pure fun _ ht => h ▸ ht

/-- A new line is entered as soon as the tracker keeps it. -/
theorem positionLine_ensures (hl : t.line = none) (size level : Float) :
    Ensures (Entered own w t.account) (t.positionLine own size level) fun r c =>
      r.1.deleted = false ∧ Entered own w (account { r.2 with line := some r.1 }) c := by
  rintro c r c' ⟨ha, h⟩ hp
  obtain ⟨line, c₁, hmake, hp⟩ := bind_eq_ok.mp hp
  obtain ⟨hline, rfl⟩ := Prod.mk.inj (Except.ok.inj hmake)
  obtain ⟨t₁, c₂, hpaint, hp⟩ := bind_eq_ok.mp hp
  obtain ⟨t₂, c₃, hconnect, hp⟩ := bind_eq_ok.mp hp
  obtain ⟨line', c₄, hlift, hp⟩ := bind_eq_ok.mp hp
  obtain ⟨hset, rfl⟩ := lift_eq_ok.mp hlift
  obtain ⟨rfl, rfl⟩ := Prod.mk.inj (Except.ok.inj hp)
  have hcolor : line.color = t.config.color := hline ▸ rfl
  have hlive : line.deleted = false := hline ▸ rfl
  rw [Line.setLevel_of_live hlive] at hset
  -- The line is in the books from the beginning, on account of the tracker that is to keep it.
  have h₁ := h.makeLine (by simp [account, hl]) level t.config.color .ofPosition
  obtain ⟨hmoved, h₂⟩ := paint_ensures _ h₁ hpaint
  have ht₁ : t₁.account = { t.account with pen := some line.color, brush := some line.color } :=
    hmoved.account.trans (account_paintWith t _ _ _)
  have hs : t.marker.subscription = t₁.marker.subscription :=
    (congrArg Account.subscription ht₁).symm
  have hb : t.build = t₁.build := (congrArg Account.build ht₁).symm
  obtain ⟨n, rfl, h₃⟩ :=
    connect_ensures { t₁ with marker := t₁.marker.show } (by exact hs) hb h₂ hconnect
  rw [← Except.ok.inj hset]
  let kept : Account := { t.account with
    pen := some line.color
    brush := some line.color
    subscription := some n
    line := some (line.color, line.deleted) }
  have hkept : Entered own w kept c₃ :=
    ⟨⟨ha.item, ha.live, ha.free, ha.links, ha.follows, fun _ => rfl, by
      rintro _ _ ⟨⟩
      exact ⟨hlive, rfl, rfl⟩⟩, h₃.congr rfl rfl rfl rfl⟩
  refine ⟨hlive, ?_⟩
  convert hkept using 1
  exact congrArg (fun a : Account => { a with
    subscription := some n, line := some (line.color, line.deleted) }) ht₁

theorem updateLine_keepsEntered (price size : Float) :
    KeepsEntered own t (t.updateLine own price size) := by
  intro w
  unfold updateLine
  split
  · rename_i hl _
    refine (positionLine_ensures hl _ _).bind ?_
    rintro ⟨line, t₁⟩ c t' c' ⟨hlive, h⟩ hp
    obtain ⟨line', c₁, hlift, hp⟩ := bind_eq_ok.mp hp
    obtain ⟨hshow, rfl⟩ := lift_eq_ok.mp hlift
    obtain ⟨_, c₂, hnote, hp⟩ := bind_eq_ok.mp hp
    obtain ⟨rfl, rfl⟩ := Prod.mk.inj (Except.ok.inj hp)
    rw [Line.show_of_live hlive] at hshow
    rw [← Except.ok.inj hshow]
    exact ⟨h.inOrder, note_ensures _ _ _ h.listed hnote⟩
  · rename_i line hl _
    rintro c t' c' ⟨ha, h⟩ hp
    obtain ⟨line₁, c₁, hlift, hp⟩ := bind_eq_ok.mp hp
    obtain ⟨hset, rfl⟩ := lift_eq_ok.mp hlift
    obtain ⟨line₂, c₂, hlift', hp⟩ := bind_eq_ok.mp hp
    obtain ⟨hshow, rfl⟩ := lift_eq_ok.mp hlift'
    have hline := Line.eq_of_setLevel_show (ha.line_live hl) hset hshow
    obtain ⟨t₁, c₃, hpaint, hp⟩ := bind_eq_ok.mp hp
    obtain ⟨_, c₄, hnote, hp⟩ := bind_eq_ok.mp hp
    obtain ⟨rfl, rfl⟩ := Prod.mk.inj (Except.ok.inj hp)
    obtain ⟨hmoved, h₁⟩ := paint_ensures _ h hpaint
    have haccount : t₁.account = t.account := by
      rw [hmoved.account, account_setArrow?, hline, ← account_line hl]
    rw [haccount]
    exact ⟨ha, note_ensures _ _ _ h₁ hnote⟩
  · rename_i line hl _
    rintro c t' c' ⟨ha, h⟩ hp
    obtain ⟨_, c₁, hdelete, hp⟩ := bind_eq_ok.mp hp
    obtain ⟨-, rfl⟩ := Prod.mk.inj (Except.ok.inj hdelete)
    obtain ⟨_, c₂, hnote, hp⟩ := bind_eq_ok.mp hp
    obtain ⟨rfl, rfl⟩ := Prod.mk.inj (Except.ok.inj hp)
    have h₁ := h.deleteLine (by simp [account, hl]) (ha.line_live hl)
    exact ⟨⟨ha.item, ha.live, ha.free, ha.links, ha.follows, nofun, nofun⟩,
      note_ensures _ _ _ h₁ hnote⟩
  · exact pure_keepsEntered rfl w

theorem update_keepsEntered (u : PositionUpdate) : KeepsEntered own t (t.update own u) := by
  intro w
  refine (updateLine_keepsEntered (t := { t with info := t.info.apply u }) u.avgPrice u.size w).bind
    fun t₁ => ?_
  dsimp only
  split
  · refine .pure fun c h => ?_
    rwa [account_hide, account_writeSize]
  · rintro c t' c' ⟨ha, h⟩ hp
    obtain ⟨t₂, c₁, hpaint, hp⟩ := bind_eq_ok.mp hp
    obtain ⟨hshow, rfl⟩ := lift_eq_ok.mp hp
    obtain ⟨hmoved, h₁⟩ := paint_ensures _ h hpaint
    have haccount : t'.account = t₁.account :=
      (account_show hshow).trans (hmoved.account.trans (account_writeSize t₁ _))
    rw [haccount]
    exact ⟨ha, h₁⟩

/-- The marker that is taken off takes its entries with it, and the new one is entered instead. -/
theorem levelMarker_keepsEntered (size : Float) : KeepsEntered own t (t.levelMarker own size) := by
  rintro w c t' c' ⟨ha, h⟩ hp
  obtain ⟨t₁, c₁, hdelete, hp⟩ := bind_eq_ok.mp hp
  obtain ⟨rfl, h₁⟩ := deleteMarker_ensures t h hdelete
  obtain ⟨m, c₂, hbuild, hp⟩ := bind_eq_ok.mp hp
  obtain ⟨hm, rfl⟩ := buildMarker_eq_ok hbuild
  dsimp only at hp
  generalize hpin : pinLabels { t with marker := m, build := t.build + 1 } = t₂ at hp
  have ht₂ : t₂.account = .fresh c₁.nextId (t.build + 1) t.account.line := by
    rw [← hpin, hm]
    exact account_rebuilt ha.follows _ _ _ _ _ _
  have h₂ : Listed own w t₂.account (c₁.addItem (own.item (t.build + 1))).2 := by
    rw [ht₂]
    exact ((h₁.rebuild rfl rfl (t.build + 1)).addItem rfl).congr rfl rfl rfl rfl
  rcases hl : t.line with _ | l
  · have hl₂ : t₂.line = none := hpin ▸ hl
    have hline : t.account.line = none := by rw [account, hl]; rfl
    simp only [hl₂] at hp
    obtain ⟨rfl, rfl⟩ := Prod.mk.inj (Except.ok.inj hp)
    rw [hline] at ht₂
    refine ⟨?_, h₂⟩
    rw [ht₂]
    exact ⟨rfl, rfl, rfl, rfl, rfl, nofun, nofun⟩
  · have hl₂ : t₂.line = some l := hpin ▸ hl
    simp only [hl₂] at hp
    obtain ⟨n, rfl, h₃⟩ := connect_ensures _ rfl rfl h₂ hp
    rw [account_line hl] at ht₂
    have haccount : Entered own w { Account.fresh c₁.nextId (t.build + 1)
        (some (l.color, l.deleted)) with
          subscription := some n, pen := some l.color, brush := some l.color } c' := by
      rw [ht₂] at h₃
      exact ⟨⟨rfl, rfl, rfl, rfl, rfl, fun _ => rfl, by
        rintro _ _ ⟨⟩
        exact ⟨ha.line_live hl, rfl, rfl⟩⟩, h₃.congr rfl rfl rfl rfl⟩
    convert haccount using 1
    exact congrArg (fun a : Account => { a with
      subscription := some n
      pen := some l.color
      brush := some l.color
      line := some (l.color, l.deleted) }) ht₂

theorem recordFill_keepsEntered (f : Fill) :
    KeepsEntered own t (t.recordFill f : ChartM Item Listener Tracker) := by
  rintro w c t' c' ⟨ha, h⟩ hp
  obtain ⟨_, c₁, hnote, hp⟩ := bind_eq_ok.mp hp
  obtain ⟨rfl, rfl⟩ := Prod.mk.inj (Except.ok.inj hp)
  exact ⟨ha, note_ensures _ _ _ h hnote⟩

theorem show_keepsEntered : KeepsEntered own t (liftM t.show) := by
  rintro w c t' c' h hp
  obtain ⟨hshow, rfl⟩ := lift_eq_ok.mp hp
  rwa [account_show hshow]

theorem rangeChanged_keepsEntered :
    KeepsEntered own t (t.rangeChanged : ChartM Item Listener Tracker) := by
  rintro w c t' c' ⟨ha, h⟩ hp
  obtain ⟨c₁, he, hc⟩ := t.rangeChanged_eq c
  obtain ⟨rfl, rfl⟩ := Prod.mk.inj (Except.ok.inj (he.symm.trans hp))
  rw [(t.heard_moved c.view).account]
  exact ⟨ha, h.noted hc⟩

theorem painted_keepsEntered : KeepsEntered own t (t.painted : ChartM Item Listener Tracker) := by
  rintro w c t' c' ⟨ha, h⟩ hp
  obtain ⟨c₁, he, hc⟩ := t.painted_eq c
  obtain ⟨rfl, rfl⟩ := Prod.mk.inj (Except.ok.inj (he.symm.trans hp))
  rw [(t.repainted_moved c.view).account]
  exact ⟨ha, h.noted hc⟩

/-- A tracker that is dropped leaves nothing of its own behind. -/
theorem drop_ensures (t : Tracker) :
    Ensures (Entered own w t.account) t.drop fun _ c =>
      c.Books w.taken w.others ∧ ∀ n ∈ w.reserved, n < c.nextId := by
  rintro c t' c' ⟨ha, h⟩ hp
  have hfree : ¬ t.marker.isHeld = true := by
    have hh : t.marker.holders = 0 := ha.free
    simp [Marker.isHeld, hh]
  have hvacant {a : Account} {c : Chart Item Listener} (hi : a.item = none)
      (hs : a.subscription = none) (hl : a.line = none) (h : Listed own w a c) :
      c.Books w.taken w.others ∧ ∀ n ∈ w.reserved, n < c.nextId := by
    have he : a.entries own = 0 := by
      simp only [entries, items, listeners, hi, hs, hl]
      rfl
    have hb := h.books
    rw [he, zero_add] at hb
    exact ⟨hb, fun n hn => (h.reserved n hn).1⟩
  unfold Tracker.drop at hp
  rw [if_neg hfree] at hp
  obtain ⟨t₁, c₁, hdelete, hp⟩ := bind_eq_ok.mp hp
  obtain ⟨rfl, h₁⟩ := deleteMarker_ensures t h hdelete
  rcases hl : t.line with _ | l
  · simp only [hl] at hp
    obtain ⟨-, rfl⟩ := Prod.mk.inj (Except.ok.inj hp)
    exact hvacant rfl rfl (by simp [account, hl]) h₁
  · simp only [hl] at hp
    obtain ⟨_, c₂, hdelete', hp⟩ := bind_eq_ok.mp hp
    obtain ⟨-, rfl⟩ := Prod.mk.inj (Except.ok.inj hdelete')
    obtain ⟨-, rfl⟩ := Prod.mk.inj (Except.ok.inj hp)
    exact hvacant rfl rfl rfl (h₁.deleteLine (by simp [account, hl]) (ha.line_live hl))

/-- A new tracker is entered. -/
theorem create_ensures (own : Entrance Item Listener) (w : Surroundings Item Listener)
    (symbol : String) (config : OverlayConfig) :
    Ensures (fun c => c.Books w.taken w.others ∧ ∀ n ∈ w.reserved, n < c.nextId)
      (create own symbol config) fun t c => Entered own w t.account c := by
  rintro c t c' ⟨hb, hr⟩ hp
  obtain ⟨rfl, text, rfl⟩ := create_eq hp
  have haccount : (initial symbol config c.nextId).account = .fresh c.nextId 0 none := rfl
  rw [haccount]
  refine ⟨⟨rfl, rfl, rfl, rfl, rfl, nofun, nofun⟩, ?_,
    fun n hn => ⟨Nat.lt_succ_of_lt (hr n hn), nofun⟩⟩
  exact (hb.addItem (own.item 0)).of_still rfl rfl rfl rfl rfl rfl

end PositionOverlay.Tracker
