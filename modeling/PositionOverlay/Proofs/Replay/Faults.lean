import PositionOverlay.Proofs.Replay.Snapshots
import PositionOverlay.Proofs.Session.Journals

/-! # What decides a replay

Each line of a replay is skipped, at fault, or an event, whatever stands in the other lines. The
first line at fault decides how the replay ends. Without one there is a snapshot for each event, of
the tracker that has taken in the events so far, and the lines that are skipped leave no trace.
-/
namespace PositionOverlay.Replay

open Event Session

variable {settings : Settings} {symbol : String} {es : List Event} {line : List UInt8}
  {s₀ : Session}

/-! ## Kinds of lines -/

/-- The text of a line without the blanks at its ends, if the bytes are text. -/
def content (line : List UInt8) : Option (List Char) :=
  (String.fromUTF8? ⟨line.toArray⟩).map fun text => Text.trim text.toList

/-- A blank line or a comment. -/
def IsRemark (text : List Char) : Prop := text = [] ∨ text.head? = some '#'

/-- A line that is passed over: blank, a comment, or a report on another symbol. -/
def Skipped (symbol : String) (line : List UInt8) : Prop :=
  ∃ text, content line = some text ∧ (IsRemark text ∨
    ∃ u other, Event.parse (String.ofList text) = .ok (.position u) ∧ u.symbol = some other ∧
      other ≠ symbol)

/-- A line at fault: its bytes are not text, the text is no event, or it is a range without
extent. -/
inductive Faulty (line : List UInt8) : Cause → Prop where
  | notText (h : content line = none) : Faulty line .notText
  | json {text : List Char} {f : Json.Fault} (h : content line = some text) (hr : ¬ IsRemark text)
      (hp : Event.parse (String.ofList text) = .error f) : Faulty line (.json f)
  | emptyRange {text : List Char} {yMin yMax : Float} (h : content line = some text)
      (hr : ¬ IsRemark text) (hp : Event.parse (String.ofList text) = .ok (.view yMin yMax))
      (he : yMax ≤ yMin) : Faulty line (.emptyRange yMin yMax)

/-- A verdict by which a line is passed over. -/
def Verdict.skips : Verdict → Bool
  | .skipped => true
  | .foreign _ => true
  | _ => false

theorem ofLine_eq (symbol : String) (line : List UInt8) :
    Verdict.ofLine symbol line =
      (content line).elim (.faulty .notText) (Verdict.ofText symbol) := by
  unfold Verdict.ofLine content
  split
  · rename_i h
    rw [h]
    rfl
  · rename_i h
    rw [h]
    rfl

theorem ofText_of_remark {text : List Char} (h : IsRemark text) :
    Verdict.ofText symbol text = .skipped := by
  rcases h with rfl | h
  · rfl
  · obtain ⟨rest, rfl⟩ := List.head?_eq_some_iff.mp h
    rfl

theorem ofText_of_not_remark {text : List Char} (h : ¬ IsRemark text) :
    Verdict.ofText symbol text = match Event.parse (String.ofList text) with
      | .ok e => .ofEvent symbol e
      | .error f => .faulty (.json f) := by
  unfold Verdict.ofText
  split
  · exact absurd (.inl rfl) h
  · exact absurd (.inr rfl) h
  · rfl

theorem ofEvent_skips_iff {e : Event} :
    (Verdict.ofEvent symbol e).skips ↔
      ∃ u other, e = .position u ∧ u.symbol = some other ∧ other ≠ symbol := by
  cases e with
  | position u =>
    rcases hu : u.symbol with _ | other
    · simp [Verdict.ofEvent, Verdict.skips, hu]
    · by_cases ho : other = symbol <;> simp [Verdict.ofEvent, Verdict.skips, hu, ho]
  | view yMin yMax =>
    by_cases he : yMax ≤ yMin <;> simp [Verdict.ofEvent, Verdict.skips, he]
  | _ => simp [Verdict.ofEvent, Verdict.skips]

theorem ofEvent_eq_faulty_iff {e : Event} {cause : Cause} :
    Verdict.ofEvent symbol e = .faulty cause ↔
      ∃ yMin yMax, e = .view yMin yMax ∧ yMax ≤ yMin ∧ cause = .emptyRange yMin yMax := by
  cases e with
  | position u =>
    rcases hu : u.symbol with _ | other
    · simp [Verdict.ofEvent, hu]
    · by_cases ho : other = symbol <;> simp [Verdict.ofEvent, hu, ho]
  | view yMin yMax =>
    by_cases he : yMax ≤ yMin
    · rw [Verdict.ofEvent, if_pos he]
      constructor
      · rintro ⟨⟩
        exact ⟨_, _, rfl, he, rfl⟩
      · rintro ⟨_, _, ⟨⟩, -, rfl⟩
        rfl
    · simp [Verdict.ofEvent, he]
  | _ => simp [Verdict.ofEvent]

theorem ofLine_skips_iff : (Verdict.ofLine symbol line).skips ↔ Skipped symbol line := by
  rw [ofLine_eq]
  unfold Skipped
  rcases content line with _ | text
  · simp [Verdict.skips]
  · by_cases hr : IsRemark text
    · simp [ofText_of_remark hr, Verdict.skips, hr]
    · rcases hp : Event.parse (String.ofList text) with f | e
      · simp [ofText_of_not_remark hr, hp, Verdict.skips, hr]
      · simp [ofText_of_not_remark hr, hp, hr, ofEvent_skips_iff]

theorem ofLine_eq_faulty_iff (symbol : String) {cause : Cause} :
    Verdict.ofLine symbol line = .faulty cause ↔ Faulty line cause := by
  rw [ofLine_eq]
  constructor
  · intro h
    rcases hc : content line with _ | text
    · rw [hc] at h
      cases h
      exact .notText hc
    · rw [hc, Option.elim_some] at h
      by_cases hr : IsRemark text
      · rw [ofText_of_remark hr] at h
        exact nomatch h
      · rw [ofText_of_not_remark hr] at h
        rcases hp : Event.parse (String.ofList text) with f | e
        · rw [hp] at h
          cases h
          exact .json hc hr hp
        · rw [hp] at h
          obtain ⟨yMin, yMax, rfl, he, rfl⟩ := ofEvent_eq_faulty_iff.mp h
          exact .emptyRange hc hr hp he
  · rintro (h | ⟨h, hr, hp⟩ | ⟨h, hr, hp, he⟩)
    · rw [h]
      rfl
    · rw [h, Option.elim_some, ofText_of_not_remark hr, hp]
    · rw [h, Option.elim_some, ofText_of_not_remark hr, hp]
      exact ofEvent_eq_faulty_iff.mpr ⟨_, _, rfl, he, rfl⟩

theorem ofEvent_event {e e' : Event} (h : Verdict.ofEvent symbol e = .event e') : e' = e := by
  cases e with
  | position u =>
    rcases hu : u.symbol with _ | other
    · simp only [Verdict.ofEvent, hu] at h
      exact (Verdict.event.inj h).symm
    · by_cases ho : other = symbol
      · simp only [Verdict.ofEvent, hu, if_pos ho] at h
        exact (Verdict.event.inj h).symm
      · simp only [Verdict.ofEvent, hu, if_neg ho] at h
        exact nomatch h
  | view yMin yMax =>
    by_cases he : yMax ≤ yMin
    · rw [Verdict.ofEvent, if_pos he] at h
      exact nomatch h
    · rw [Verdict.ofEvent, if_neg he] at h
      exact (Verdict.event.inj h).symm
  | _ => exact (Verdict.event.inj h).symm

/-- The event of a line is what the line says. -/
theorem ofLine_event {e : Event} (h : Verdict.ofLine symbol line = .event e) :
    ∃ text, content line = some text ∧ Event.parse (String.ofList text) = .ok e := by
  rw [ofLine_eq] at h
  rcases hc : content line with _ | text
  · rw [hc] at h
    exact nomatch h
  · rw [hc, Option.elim_some] at h
    refine ⟨text, rfl, ?_⟩
    by_cases hr : IsRemark text
    · rw [ofText_of_remark hr] at h
      exact nomatch h
    · rw [ofText_of_not_remark hr] at h
      rcases hp : Event.parse (String.ofList text) with f | e'
      · rw [hp] at h
        exact nomatch h
      · rw [hp] at h
        rw [ofEvent_event h]

/-- A line is of one of three kinds, as it stands. -/
theorem line_kinds (symbol : String) (line : List UInt8) :
    let event? := (Verdict.ofLine symbol line).event?
    Skipped symbol line ∧ (∀ cause, ¬ Faulty line cause) ∧ event? = none ∨
      ¬ Skipped symbol line ∧ (∃ cause, Faulty line cause) ∧ event? = none ∨
      ¬ Skipped symbol line ∧ (∀ cause, ¬ Faulty line cause) ∧ ∃ text e,
        content line = some text ∧ Event.parse (String.ofList text) = .ok e ∧ event? = some e := by
  simp only [← ofLine_skips_iff, ← ofLine_eq_faulty_iff symbol]
  cases hv : Verdict.ofLine symbol line with
  | skipped => exact .inl ⟨rfl, nofun, rfl⟩
  | foreign other => exact .inl ⟨rfl, nofun, rfl⟩
  | faulty cause => exact .inr (.inl ⟨nofun, ⟨cause, rfl⟩, rfl⟩)
  | event e =>
    obtain ⟨text, hc, hp⟩ := ofLine_event hv
    exact .inr (.inr ⟨nofun, nofun, text, e, hc, hp, rfl⟩)

/-- Lines of which each is passed over or an event are free of faults. -/
theorem free_of_verdicts (symbol : String) {lines : List (List UInt8)}
    (h : lines.all (fun line => (Verdict.ofLine symbol line).skips ||
      (Verdict.ofLine symbol line).event?.isSome) = true) :
    ∀ line ∈ lines, ∀ cause, ¬ Faulty line cause := by
  intro line hmem cause hfault
  have hline := List.all_eq_true.mp h line hmem
  rw [(ofLine_eq_faulty_iff symbol).mpr hfault] at hline
  exact absurd hline Bool.false_ne_true

/-- Either no line is at fault, or there is a first one. -/
theorem free_or_faulty (lines : List (List UInt8)) :
    (∀ line ∈ lines, ∀ cause, ¬ Faulty line cause) ∨
      ∃ before line rest cause, lines = before ++ line :: rest ∧
        (∀ line ∈ before, ∀ cause, ¬ Faulty line cause) ∧ Faulty line cause := by
  induction lines with
  | nil => exact .inl nofun
  | cons line lines ih =>
    by_cases hline : ∃ cause, Faulty line cause
    · obtain ⟨cause, hcause⟩ := hline
      exact .inr ⟨[], line, lines, cause, rfl, nofun, hcause⟩
    · rcases ih with hfree | ⟨before, l, rest, cause, rfl, hfree, hcause⟩
      · exact .inl (List.forall_mem_cons.mpr ⟨not_exists.mp hline, hfree⟩)
      · exact .inr ⟨line :: before, l, rest, cause, rfl,
          List.forall_mem_cons.mpr ⟨not_exists.mp hline, hfree⟩, hcause⟩

/-! ## Runs -/

/-- The session that has taken in some events, one after the other. -/
def after (s₀ : Session) (es : List Event) : Except Fault Session := es.foldlM Session.apply s₀

/-- A replay that shows, after each event, the tracker that has taken in the events so far. -/
structure Shown (settings : Settings) (symbol : String) (s₀ : Session) (es : List Event)
    (p : Progress) : Prop where
  session : ∃ s, after s₀ es = .ok s ∧ s.Noted p.session ∧ s.Follows settings symbol es
  count : p.snapshots.size = es.length
  shots : ∀ i shot, p.snapshots[i]? = some shot →
    ∃ s, after s₀ (es.take (i + 1)) = .ok s ∧ shot = s.tracker.snapshot

theorem Shown.advance {p : Progress} (h : Shown settings symbol s₀ es p) (e : Event) :
    ∃ p', p.advance e = .ok p' ∧ Shown settings symbol s₀ (es ++ [e]) p' := by
  obtain ⟨s, hs, hn, hf⟩ := h.session
  obtain ⟨s₁, hs₁, hf₁, -⟩ := hf.apply e
  obtain ⟨s₁', hs₁', hn₁⟩ := hn.apply hf hs₁
  have hafter : after s₀ (es ++ [e]) = .ok s₁ := by
    rw [after, List.foldlM_append]
    exact Work.except_bind_eq_ok.mpr ⟨s, hs, Work.except_bind_eq_ok.mpr ⟨s₁, hs₁, rfl⟩⟩
  refine ⟨⟨s₁', p.snapshots.push s₁'.tracker.snapshot⟩, ?_, ⟨s₁, hafter, hn₁, hf₁⟩, ?_,
    fun i shot hi => ?_⟩
  · rw [Progress.advance, hs₁']
    rfl
  · rw [Array.size_push, h.count, List.length_append, List.length_singleton]
  · rw [Array.getElem?_push] at hi
    split_ifs at hi with hlast
    · obtain rfl := Option.some.inj hi
      rw [List.take_of_length_le (by simp [hlast, h.count])]
      exact ⟨s₁, hafter, by rw [hn₁.tracker]⟩
    · have hlt : i < p.snapshots.size := (Array.getElem?_eq_some_iff.mp hi).1
      rw [List.take_append_of_le_length (by rw [← h.count]; exact hlt)]
      exact h.shots i shot hi

theorem Shown.note {p : Progress} (h : Shown settings symbol s₀ es p) (severity : Severity)
    (text : String) :
    Shown settings symbol s₀ es { p with session := p.session.note severity text } := by
  obtain ⟨s, hs, hn, hf⟩ := h.session
  exact { h with session := ⟨s, hs, hn.trans (noted_note _ _ _), hf⟩ }

theorem shown_start (h : Session.start settings.view settings.overlay symbol = .ok s₀) :
    Shown settings symbol s₀ [] ⟨s₀, #[]⟩ :=
  ⟨⟨s₀, rfl, ⟨rfl, .refl _⟩, follows_start h⟩, rfl, nofun⟩

/-- Lines without a fault are left behind, and their events are taken in. -/
theorem Shown.run {lines : List (List UInt8)} {p : Progress}
    (h : Shown settings symbol s₀ es p) (hfree : ∀ line ∈ lines, ∀ cause, ¬ Faulty line cause)
    (n : Nat) (rest : List (List UInt8)) :
    ∃ p', Progress.run symbol n (lines ++ rest) p =
        Progress.run symbol (n + lines.length) rest p' ∧
      Shown settings symbol s₀ (es ++ accepted symbol lines) p' := by
  induction lines generalizing n es p with
  | nil => exact ⟨p, rfl, by simpa [accepted] using h⟩
  | cons line lines ih =>
    obtain ⟨hline, hfree⟩ := List.forall_mem_cons.mp hfree
    have hnumber : n + (line :: lines).length = n + 1 + lines.length := by
      rw [List.length_cons]
      omega
    rw [accepted_cons, hnumber, List.cons_append, Progress.run]
    cases hv : Verdict.ofLine symbol line with
    | skipped => exact ih h hfree (n + 1)
    | foreign other => exact ih (h.note _ _) hfree (n + 1)
    | faulty cause => exact absurd ((ofLine_eq_faulty_iff symbol).mp hv) (hline cause)
    | event e =>
      obtain ⟨p₁, hp, h₁⟩ := h.advance e
      simp only [hp]
      have := ih h₁ hfree (n + 1)
      rwa [List.append_assoc] at this

/-- The result of lines that have been taken in, or of the failure that has ended them. -/
def result : Option Failure × Progress → Except Failure (List Snapshot)
  | (some failure, _) => .error failure
  | (none, p) => .ok p.snapshots.toList

/-- Lines without a fault are left behind from the beginning of a replay. -/
theorem run_result (h : Session.start settings.view settings.overlay symbol = .ok s₀)
    {bytes : List UInt8} {lines rest : List (List UInt8)}
    (hbytes : Text.byteLines bytes = lines ++ rest)
    (hfree : ∀ line ∈ lines, ∀ cause, ¬ Faulty line cause) :
    ∃ p, Shown settings symbol s₀ (accepted symbol lines) p ∧
      (run settings symbol (some bytes)).result =
        result (Progress.run symbol (lines.length + 1) rest p) := by
  obtain ⟨p, hp, hshown⟩ :=
    ((shown_start h).note .info s!"Replaying events for {symbol}...").run hfree 1 rest
  refine ⟨p, hshown, ?_⟩
  rw [Nat.add_comm, ← hp, ← hbytes]
  unfold run
  simp only [h]
  generalize Progress.run symbol 1 (Text.byteLines bytes) _ = out
  obtain ⟨_ | failure, p⟩ := out
  · rfl
  · rfl

/-- The first line at fault ends a replay, and is told by its number. -/
theorem run_of_faulty (h : Session.start settings.view settings.overlay symbol = .ok s₀)
    {bytes : List UInt8} {before rest : List (List UInt8)} {cause : Cause}
    (hbytes : Text.byteLines bytes = before ++ line :: rest)
    (hfree : ∀ line ∈ before, ∀ cause, ¬ Faulty line cause) (hfault : Faulty line cause) :
    (run settings symbol (some bytes)).result = .error (.line (before.length + 1) cause) := by
  obtain ⟨p, -, hrun⟩ := run_result h hbytes hfree
  rw [hrun, Progress.run, (ofLine_eq_faulty_iff symbol).mpr hfault]
  rfl

/-- The snapshots of a replay without a fault. -/
theorem run_of_free (h : Session.start settings.view settings.overlay symbol = .ok s₀)
    {bytes : List UInt8}
    (hfree : ∀ line ∈ Text.byteLines bytes, ∀ cause, ¬ Faulty line cause) :
    let es := accepted symbol (Text.byteLines bytes)
    ∃ shots, (run settings symbol (some bytes)).result = .ok shots ∧ shots.length = es.length ∧
      ∀ i shot, shots[i]? = some shot →
        ∃ s, after s₀ (es.take (i + 1)) = .ok s ∧ shot = s.tracker.snapshot := by
  intro es
  obtain ⟨p, hp, hrun⟩ := run_result h (List.append_nil _).symm hfree
  refine ⟨p.snapshots.toList, hrun, ?_, fun i shot hi => hp.shots i shot ?_⟩
  · rw [Array.length_toList, hp.count]
  · rwa [Array.getElem?_toList] at hi

/-- What is skipped leaves no trace: only the events count. -/
theorem run_eq_of_accepted (h : Session.start settings.view settings.overlay symbol = .ok s₀)
    {bytes bytes' : List UInt8}
    (hfree : ∀ line ∈ Text.byteLines bytes, ∀ cause, ¬ Faulty line cause)
    (hfree' : ∀ line ∈ Text.byteLines bytes', ∀ cause, ¬ Faulty line cause)
    (hsame : accepted symbol (Text.byteLines bytes') = accepted symbol (Text.byteLines bytes)) :
    (run settings symbol (some bytes')).result = (run settings symbol (some bytes)).result := by
  obtain ⟨shots, hrun, hlength, hshots⟩ := run_of_free h hfree
  obtain ⟨shots', hrun', hlength', hshots'⟩ := run_of_free h hfree'
  rw [hsame] at hlength' hshots'
  rw [hrun, hrun']
  congr 1
  refine List.ext_getElem (hlength'.trans hlength.symm) fun i hi hi' => ?_
  obtain ⟨s, hs, he⟩ := hshots i _ (List.getElem?_eq_getElem hi')
  obtain ⟨s', hs', he'⟩ := hshots' i _ (List.getElem?_eq_getElem hi)
  rw [he, he', Except.ok.inj (hs'.symm.trans hs)]

theorem accepted_insert (hs : Skipped symbol line) (before rest : List (List UInt8)) :
    accepted symbol (before ++ line :: rest) = accepted symbol (before ++ rest) := by
  have hnone : (Verdict.ofLine symbol line).event? = none := by
    rcases line_kinds symbol line with ⟨-, -, h⟩ | ⟨hn, -⟩ | ⟨hn, -⟩
    · exact h
    · exact absurd hs hn
    · exact absurd hs hn
  have hrest : accepted symbol (line :: rest) = accepted symbol rest := by
    rw [accepted_cons, hnone]
    rfl
  rw [accepted, accepted, List.filterMap_append, List.filterMap_append]
  exact congrArg _ hrest

theorem not_faulty_of_skipped (hs : Skipped symbol line) (cause : Cause) : ¬ Faulty line cause := by
  rcases line_kinds symbol line with ⟨-, h, -⟩ | ⟨hn, -⟩ | ⟨hn, -⟩
  · exact h cause
  · exact absurd hs hn
  · exact absurd hs hn

/-- A replay is decided by its first line at fault. Each line is skipped, at fault or an event,
whatever stands in the others. If none is at fault, then there is a snapshot for each event, of the
tracker after the events so far, and lines that are skipped can be put in or left out. Else the
replay ends with the first fault, which is told by the number of its line. -/
theorem run_decided (h : Session.start settings.view settings.overlay symbol = .ok s₀)
    (bytes : List UInt8) :
    let lines := Text.byteLines bytes
    let es := accepted symbol lines
    (∀ line, Skipped symbol line ∧ (∀ cause, ¬ Faulty line cause) ∧
          (Verdict.ofLine symbol line).event? = none ∨
        ¬ Skipped symbol line ∧ (∃ cause, Faulty line cause) ∧
          (Verdict.ofLine symbol line).event? = none ∨
        ¬ Skipped symbol line ∧ (∀ cause, ¬ Faulty line cause) ∧ ∃ text e,
          content line = some text ∧ Event.parse (String.ofList text) = .ok e ∧
            (Verdict.ofLine symbol line).event? = some e) ∧
      ((∀ line ∈ lines, ∀ cause, ¬ Faulty line cause) →
        (∃ shots, (run settings symbol (some bytes)).result = .ok shots ∧
          shots.length = es.length ∧ ∀ i shot, shots[i]? = some shot →
            ∃ s, after s₀ (es.take (i + 1)) = .ok s ∧ shot = s.tracker.snapshot) ∧
        ∀ bytes' before line rest, Skipped symbol line →
          (lines = before ++ rest ∧ Text.byteLines bytes' = before ++ line :: rest ∨
            lines = before ++ line :: rest ∧ Text.byteLines bytes' = before ++ rest) →
          (run settings symbol (some bytes')).result = (run settings symbol (some bytes)).result) ∧
      ∀ before line rest cause, lines = before ++ line :: rest →
        (∀ line ∈ before, ∀ cause, ¬ Faulty line cause) → Faulty line cause →
          (run settings symbol (some bytes)).result = .error (.line (before.length + 1) cause) := by
  refine ⟨line_kinds symbol, fun hfree => ⟨run_of_free h hfree, ?_⟩,
    fun _ _ _ _ hlines hbefore hfault => run_of_faulty h hlines hbefore hfault⟩
  rintro bytes' before line rest hs (⟨hl, hl'⟩ | ⟨hl, hl'⟩)
  · refine run_eq_of_accepted h hfree (fun l hmem => ?_) ?_
    · rw [hl', List.mem_append, List.mem_cons] at hmem
      rw [hl] at hfree
      rcases hmem with hmem | rfl | hmem
      · exact hfree l (List.mem_append_left _ hmem)
      · exact not_faulty_of_skipped hs
      · exact hfree l (List.mem_append_right _ hmem)
    · rw [hl, hl', accepted_insert hs]
  · refine run_eq_of_accepted h hfree (fun l hmem => hfree l ?_) ?_
    · rw [hl', List.mem_append] at hmem
      rw [hl, List.mem_append, List.mem_cons]
      exact hmem.imp_right .inr
    · rw [hl, hl', accepted_insert hs]

/-- A report and a fill, with a comment and a report on another symbol between them. Without the
comment they are replayed alike, and a line behind them that is not text is told by its number. -/
theorem run_decided_notText :
    let report := "[\"position\",null,null,null,2,50]\n".toUTF8.data.toList
    let remark := "# ETH\n".toUTF8.data.toList
    let rest := "[\"position\",null,null,\"ETH\",1,9]\n[\"fill\",1,51]\n".toUTF8.data.toList
    ∃ s₀ shots, Session.start Settings.standard.view Settings.standard.overlay "BTC" = .ok s₀ ∧
      (run .standard "BTC" (some (report ++ remark ++ rest))).result = .ok shots ∧
      shots.length = 2 ∧
      (∀ i shot, shots[i]? = some shot → ∃ s, after s₀
        ((accepted "BTC" (Text.byteLines (report ++ remark ++ rest))).take (i + 1)) = .ok s ∧
          shot = s.tracker.snapshot) ∧
      (run .standard "BTC" (some (report ++ rest))).result = .ok shots ∧
      (run .standard "BTC" (some (report ++ remark ++ rest ++ [0xFF]))).result =
        .error (.line 5 .notText) := by
  intro report remark rest
  have hstart : (Session.start Settings.standard.view Settings.standard.overlay "BTC").isOk =
      true := by decide +kernel
  rcases h : Session.start Settings.standard.view Settings.standard.overlay "BTC" with e | s₀
  · rw [h] at hstart
    exact absurd hstart Bool.false_ne_true
  · have hfree : ∀ line ∈ Text.byteLines (report ++ remark ++ rest), ∀ cause,
        ¬ Faulty line cause := free_of_verdicts "BTC" (by decide +kernel)
    have hremark : Skipped "BTC" "# ETH".toUTF8.data.toList :=
      ofLine_skips_iff.mp (by decide +kernel)
    have hfault : Faulty [0xFF] .notText := .notText (by decide +kernel)
    have hcount : (accepted "BTC" (Text.byteLines (report ++ remark ++ rest))).length = 2 := by
      decide +kernel
    obtain ⟨-, hshown, -⟩ := run_decided h (report ++ remark ++ rest)
    obtain ⟨⟨shots, hshots, hlength, hsessions⟩, hleave⟩ := hshown hfree
    obtain ⟨-, -, hfirst⟩ := run_decided h (report ++ remark ++ rest ++ [0xFF])
    refine ⟨s₀, shots, rfl, hshots, hlength.trans hcount, hsessions, ?_, ?_⟩
    · rw [← hshots]
      exact hleave (report ++ rest) ((Text.byteLines report).take 1) "# ETH".toUTF8.data.toList
        (Text.byteLines rest) hremark (.inr ⟨by decide +kernel, by decide +kernel⟩)
    · have hnumber : (Text.byteLines (report ++ remark ++ rest)).length = 4 := by decide +kernel
      rw [hfirst (Text.byteLines (report ++ remark ++ rest)) [0xFF] [] .notText
        (by decide +kernel) hfree hfault, hnumber]

end PositionOverlay.Replay
