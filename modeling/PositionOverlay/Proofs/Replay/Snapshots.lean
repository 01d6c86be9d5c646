import PositionOverlay.Proofs.Replay.History
import PositionOverlay.Replay

/-! # Snapshots of replays

A replay that ends well has a snapshot for every event, and the snapshot of an open position is
told by the events up to there: by their last report, their last range and the number of their
executions. What came before the last report has left no trace.
-/
namespace PositionOverlay.Replay

open Event Session

variable {settings : Settings} {symbol : String} {es : List Event}

/-- The event that a verdict lets into the replay. -/
def Verdict.event? : Verdict → Option Event
  | .event e => some e
  | _ => none

/-- The events that lines let into the replay of a symbol. -/
def accepted (symbol : String) (lines : List (List UInt8)) : List Event :=
  lines.filterMap fun line => (Verdict.ofLine symbol line).event?

theorem accepted_cons (symbol : String) (line : List UInt8) (lines : List (List UInt8)) :
    accepted symbol (line :: lines) =
      (Verdict.ofLine symbol line).event?.toList ++ accepted symbol lines := by
  simp only [accepted, List.filterMap_cons]
  cases (Verdict.ofLine symbol line).event? <;> rfl

/-- A replay whose snapshots tell of the events so far. -/
structure Recorded (settings : Settings) (symbol : String) (es : List Event) (p : Progress) :
    Prop where
  follows : p.session.Follows settings symbol es
  count : p.snapshots.size = es.length
  tells : ∀ i shot, p.snapshots[i]? = some shot → Tells settings symbol (es.take (i + 1)) shot

theorem Recorded.advance {p : Progress} (h : Recorded settings symbol es p) (e : Event) :
    ∃ p', p.advance e = .ok p' ∧ Recorded settings symbol (es ++ [e]) p' := by
  obtain ⟨s, hs, hf, ht⟩ := h.follows.apply e
  refine ⟨⟨s, p.snapshots.push s.tracker.snapshot⟩, ?_, hf, ?_, fun i shot hi => ?_⟩
  · rw [Progress.advance, hs]
    rfl
  · rw [Array.size_push, h.count, List.length_append, List.length_singleton]
  · rw [Array.getElem?_push] at hi
    split_ifs at hi with hlast
    · obtain rfl := Option.some.inj hi
      rw [List.take_of_length_le (by simp [hlast, h.count])]
      exact ht
    · have hlt : i < p.snapshots.size := (Array.getElem?_eq_some_iff.mp hi).1
      rw [List.take_append_of_le_length (by rw [← h.count]; exact hlt)]
      exact h.tells i shot hi

/-- Notes of the replay concern nothing that a snapshot shows. -/
theorem Recorded.note {p : Progress} (h : Recorded settings symbol es p) (severity : Severity)
    (text : String) :
    Recorded settings symbol es { p with session := p.session.note severity text } :=
  { h with follows := { h.follows with sound := ⟨h.follows.sound.1, h.follows.sound.2⟩ } }

theorem Recorded.run {n : Nat} {lines : List (List UInt8)} {p p' : Progress}
    (h : Recorded settings symbol es p) (hr : Progress.run symbol n lines p = (none, p')) :
    Recorded settings symbol (es ++ accepted symbol lines) p' := by
  induction lines generalizing n es p with
  | nil =>
    obtain rfl := (Prod.mk.inj hr).2
    simpa [accepted] using h
  | cons line lines ih =>
    rw [Progress.run] at hr
    rw [accepted_cons]
    cases hv : Verdict.ofLine symbol line with
    | skipped =>
      rw [hv] at hr
      exact ih h hr
    | foreign other =>
      rw [hv] at hr
      exact ih (h.note _ _) hr
    | faulty cause =>
      rw [hv] at hr
      exact nomatch (Prod.mk.inj hr).1
    | event e =>
      obtain ⟨p₁, hp, h₁⟩ := h.advance e
      simp only [hv, hp] at hr
      have := ih h₁ hr
      rwa [List.append_assoc] at this

theorem recorded_start {s : Session}
    (h : Session.start settings.view settings.overlay symbol = .ok s) :
    Recorded settings symbol [] ⟨s, #[]⟩ := ⟨follows_start h, rfl, nofun⟩

/-- The parts of a replay that ends well. -/
theorem run_eq_ok {bytes : List UInt8} {shots : List Snapshot}
    (h : (run settings symbol (some bytes)).result = .ok shots) :
    ∃ s text p, Session.start settings.view settings.overlay symbol = .ok s ∧
      Progress.run symbol 1 (Text.byteLines bytes) ⟨s.note .info text, #[]⟩ = (none, p) ∧
      p.snapshots.toList = shots := by
  unfold run at h
  rcases hs : Session.start settings.view settings.overlay symbol with e | s
  · simp only [hs] at h
    exact nomatch h
  · simp only [hs] at h
    generalize hr : Progress.run symbol 1 (Text.byteLines bytes) _ = out at h
    obtain ⟨_ | failure, p⟩ := out
    · exact ⟨s, _, p, rfl, hr, Except.ok.inj h⟩
    · exact nomatch h

/-- Snapshots of an open position do not depend on how it came about. -/
theorem snapshot_of_open {bytes : List UInt8} {shots : List Snapshot}
    (h : (run settings symbol (some bytes)).result = .ok shots) :
    let es := accepted symbol (Text.byteLines bytes)
    shots.length = es.length ∧
      ∀ i shot u a, shots[i]? = some shot → lastReport (es.take (i + 1)) = some u →
        (u.size != 0.0) = true → Arrow.ofSize? u.size = some a →
          shot = .ofOpen settings.overlay (lastView settings.view (es.take (i + 1))) symbol u.size
            u.avgPrice (fillCount (es.take (i + 1))) a := by
  intro es
  obtain ⟨s, text, p, hs, hr, rfl⟩ := run_eq_ok h
  have hp := ((recorded_start hs).note .info text).run hr
  rw [List.nil_append] at hp
  refine ⟨?_, fun i shot u a hi => hp.tells i shot ?_ u a⟩
  · rw [Array.length_toList, hp.count]
  · rwa [Array.getElem?_toList] at hi

/-- A short position, a fill and a view, and then a long position. -/
theorem snapshot_of_open_long :
    let bytes := ("[\"position\",null,null,null,-1,30]\n[\"fill\",-1,30]\n[\"view\",0,80]\n" ++
      "[\"position\",null,null,null,2,50]").toUTF8.data.toList
    let es := accepted "BTC" (Text.byteLines bytes)
    ∃ shots shot u, (run .standard "BTC" (some bytes)).result = .ok shots ∧
      shots[3]? = some shot ∧ lastReport (es.take 4) = some u ∧ (u.size != 0.0) = true ∧
      Arrow.ofSize? u.size = some .up ∧ (lastView .standard (es.take 4)).yMax = 80.0 ∧
      fillCount (es.take 4) = 1 ∧
      shot = .ofOpen .standard (lastView .standard (es.take 4)) "BTC" u.size u.avgPrice
        (fillCount (es.take 4)) .up := by
  intro bytes es
  have hrun : (run .standard "BTC" (some bytes)).result.isOk = true := by decide +kernel
  have hcount : es.length = 4 := by decide +kernel
  have hview : (lastView .standard (es.take 4)).yMax = 80.0 := by decide +kernel
  have hfills : fillCount (es.take 4) = 1 := by decide +kernel
  have hreport : (lastReport (es.take 4)).any (fun u =>
      u.size != 0.0 && Arrow.ofSize? u.size == some .up) = true := by decide +kernel
  obtain ⟨u, hu, hopen⟩ := (Option.any_eq_true _ _).mp hreport
  obtain ⟨ho, ha⟩ := Bool.and_eq_true_iff.mp hopen
  rcases hr : (run .standard "BTC" (some bytes)).result with failure | shots
  · rw [hr] at hrun
    exact absurd hrun Bool.false_ne_true
  · obtain ⟨hlength, hshot⟩ := snapshot_of_open hr
    have hlt : 3 < shots.length := by rw [hlength]; exact hcount ▸ Nat.lt_add_one 3
    have hlast : shots[3]? = some shots[3] := List.getElem?_eq_getElem hlt
    have hup : Arrow.ofSize? u.size = some .up := eq_of_beq ha
    exact ⟨shots, shots[3], u, rfl, hlast, hu, ho, hup, hview, hfills,
      hshot 3 _ u .up hlast hu ho hup⟩

end PositionOverlay.Replay
