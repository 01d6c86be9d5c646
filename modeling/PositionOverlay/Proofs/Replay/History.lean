import PositionOverlay.Proofs.Session.Runs
import PositionOverlay.Proofs.Tracker.Display

/-! # Histories of events

What the events of a replay say, read off the list of all events so far: the last report on the
position, the last range of the view, and the number of executions. A session that has taken the
events in knows this much and shows nothing else of its history.
-/
namespace PositionOverlay

namespace Event

def report? : Event → Option PositionUpdate
  | position u => some u
  | _ => none

def range? : Event → Option (Float × Float)
  | view yMin yMax => some (yMin, yMax)
  | _ => none

def isFill : Event → Bool
  | fill _ => true
  | _ => false

def isPaint : Event → Bool
  | paint => true
  | _ => false

/-- The last report on the position. -/
def lastReport (es : List Event) : Option PositionUpdate := es.reverse.findSome? report?

/-- A view with the last range that was set. -/
def lastView (v : View) (es : List Event) : View :=
  match es.reverse.findSome? range? with
  | some (yMin, yMax) => { v with yMin, yMax }
  | none => v

def fillCount (es : List Event) : Nat := es.countP isFill

/-- What an event asks of a session, besides a paint cycle. -/
def request : Event → Session.Request
  | position u => .update u
  | fill f => .fill (Session.fillOf f)
  | view yMin yMax => .range yMin yMax
  | paint => .paint

theorem lastReport_snoc (es : List Event) (e : Event) :
    lastReport (es ++ [e]) = e.report?.or (lastReport es) := by
  simp [lastReport, List.findSome?_cons]
  cases e.report? <;> rfl

theorem lastView_snoc (v : View) (es : List Event) (e : Event) :
    lastView v (es ++ [e]) = e.request.view (lastView v es) := by
  unfold lastView
  simp only [List.reverse_append, List.reverse_cons, List.reverse_nil, List.nil_append,
    List.singleton_append, List.findSome?_cons]
  cases e with
  | view yMin yMax =>
    simp only [range?, request, Session.Request.view]
    split <;> rfl
  | _ => rfl

theorem fillCount_snoc (es : List Event) (e : Event) :
    fillCount (es ++ [e]) = fillCount es + if e.isFill then 1 else 0 := by
  simp [fillCount, List.countP_append, List.countP_cons]

end Event

namespace Session

open Tracker Event

/-- What a session knows of the events it has taken in. -/
structure Follows (settings : Settings) (symbol : String) (es : List Event) (s : Session) :
    Prop where
  sound : s.Sound
  config : s.tracker.config = settings.overlay
  listed : ∃ n, (n, s.tracker.build) ∈ s.chart.items
  symbol : s.tracker.info.symbol = symbol
  fills : s.tracker.info.fills.size = fillCount es
  view : s.chart.view = lastView settings.view es
  report : ∀ u, lastReport es = some u →
    s.tracker.info.size = u.size ∧ s.tracker.info.avgPrice = u.avgPrice ∧
      ((u.size != 0.0) = true → s.tracker.Displayed)

variable {settings : Settings} {symbol : String} {es : List Event}
  {s s' : Session}

/-- What a snapshot shows if the position is open and has a direction. -/
def Tells (settings : Settings) (symbol : String) (es : List Event) (shot : Snapshot) : Prop :=
  ∀ u a, lastReport es = some u → (u.size != 0.0) = true → Arrow.ofSize? u.size = some a →
    shot = .ofOpen settings.overlay (lastView settings.view es) symbol u.size u.avgPrice
      (fillCount es) a

theorem follows_start (h : start settings.view settings.overlay symbol = .ok s) :
    s.Follows settings symbol [] := by
  rcases hc : create entrance symbol settings.overlay (.empty settings.view) with e | ⟨t, c⟩
  · rw [start, hc] at h
    exact nomatch h
  · rw [start, hc] at h
    obtain rfl := Except.ok.inj h
    have hsound := sound_of_create hc
    obtain ⟨rfl, text, rfl⟩ := create_eq hc
    exact ⟨hsound, rfl, ⟨_, List.mem_append_right _ (List.mem_singleton_self _)⟩, rfl, rfl, rfl,
      nofun⟩

/-- A session that has granted what an event asks knows of the event. -/
theorem Follows.granted {e : Event} (h : s.Follows settings symbol es)
    (hg : s.Granted e.request s') : s'.Follows settings symbol (es ++ [e]) where
  sound := hg.sound
  config := hg.config.trans h.config
  listed := by
    rw [hg.build, hg.items]
    exact h.listed
  symbol := by
    rw [hg.info, ← h.symbol]
    cases e <;> rfl
  fills := by
    rw [hg.info, fillCount_snoc, ← h.fills]
    cases e <;> simp [request, Request.info, isFill]
  view := by rw [hg.view, h.view, lastView_snoc]
  report u hu := by
    rw [lastReport_snoc] at hu
    cases e with
    | position u' =>
      obtain rfl : u' = u := Option.some.inj hu
      rw [hg.info]
      exact ⟨rfl, rfl, hg.displayed⟩
    | _ =>
      obtain ⟨hsize, hprice, hd⟩ := h.report u hu
      rw [hg.info]
      exact ⟨hsize, hprice, fun ho => hg.displayed (hd ho)⟩

theorem Follows.take (h : s.Follows settings symbol es) (e : Event) :
    ∃ s', s.take e = .ok s' ∧ s'.Follows settings symbol (es ++ [e]) := by
  cases e with
  | position u =>
    obtain ⟨s', hs, hg⟩ := h.sound.obey (.update u)
    exact ⟨s', hs, h.granted hg⟩
  | fill f =>
    obtain ⟨s', hs, hg⟩ := h.sound.obey (.fill (fillOf f))
    exact ⟨s', hs, h.granted hg⟩
  | view yMin yMax =>
    obtain ⟨s', hs, hg⟩ := h.sound.obey (.range yMin yMax)
    exact ⟨s', hs, h.granted hg⟩
  | paint => exact ⟨s, rfl, h.granted ⟨h.sound, rfl, rfl, rfl, rfl, rfl, id, fun _ => id⟩⟩

theorem Follows.of_paint (h : s.Follows settings symbol (es ++ [.paint])) :
    s.Follows settings symbol es :=
  { h with
    fills := by
      rw [h.fills, fillCount_snoc]
      rfl
    view := by
      rw [h.view, lastView_snoc]
      rfl
    report := by
      have hr := h.report
      rwa [lastReport_snoc] at hr }

/-- A paint cycle puts the marker in its place, from wherever the events before have left it. -/
theorem Follows.paint (h : s.Follows settings symbol es) :
    ∃ s', s.paint = .ok s' ∧ s'.Follows settings symbol es ∧
      Tells settings symbol es s'.tracker.snapshot := by
  obtain ⟨s', hs, hg⟩ := h.sound.paint
  refine ⟨s', hs, (h.granted (e := .paint) hg).of_paint, fun u a hu ho ha => ?_⟩
  obtain ⟨hsize, hprice, hd⟩ := h.report u hu
  obtain ⟨n, hn⟩ := h.listed
  have hp := paint_eq h.sound.assembled
  rw [names_of_mem hn, if_pos rfl, onPaint, if_pos (hd ho).marker, hs] at hp
  obtain rfl := Except.ok.inj hp
  rw [← hsize] at ho ha
  rw [snapshot_standAt h.sound.assembled h.sound.consistent (hd (hsize ▸ ho)) ho ha, h.config,
    h.symbol, h.fills, hsize, hprice, h.view]

/-- Taking an event in does not fault, and the snapshot after it tells of all events so far. -/
theorem Follows.apply (h : s.Follows settings symbol es) (e : Event) :
    ∃ s', s.apply e = .ok s' ∧ s'.Follows settings symbol (es ++ [e]) ∧
      Tells settings symbol (es ++ [e]) s'.tracker.snapshot := by
  obtain ⟨s₁, htake, h₁⟩ := h.take e
  obtain ⟨s', hpaint, h'⟩ := h₁.paint
  refine ⟨s', ?_, h'⟩
  rw [Session.apply, htake]
  exact hpaint

end Session

end PositionOverlay
