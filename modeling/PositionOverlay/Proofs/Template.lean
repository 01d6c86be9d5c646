import Mathlib.Data.List.Basic
import Mathlib.Data.List.TakeWhile
import Mathlib.Logic.ExistsUnique
import PositionOverlay.Template

/-! # The division of a template

A template is divided in one way only, from the left: text up to the next opening brace, a slot up
to the next closing brace, and at the end perhaps a brace that is never closed. What a template is
filled to follows from that division alone, and text behind a closed slot never bears on it.
-/
namespace PositionOverlay.Template

variable {values : Values} {ps : List Piece} {cs ds text name : List Char}

/-! ## Divisions -/

/-- A division of text into pieces: text that goes on to the next opening brace or to the end,
slots that end at the first closing brace, and a last brace that no closing brace follows. -/
inductive Divides : List Piece → List Char → Prop
  | nil : Divides [] []
  | literal {text cs : List Char} {ps : List Piece} : text ≠ [] → '\x7b' ∉ text →
      (∀ c ∈ cs.head?, c = '\x7b') → Divides ps cs → Divides (.literal text :: ps) (text ++ cs)
  | slot {name cs : List Char} {ps : List Piece} : '\x7d' ∉ name → Divides ps cs →
      Divides (.slot name :: ps) ('\x7b' :: name ++ '\x7d' :: cs)
  | unclosed {text : List Char} : '\x7d' ∉ text → Divides [.unclosed text] ('\x7b' :: text)

/-- The pieces of a division make up the text. -/
theorem Divides.source (h : Divides ps cs) : ps.flatMap Piece.source = cs := by
  induction h with
  | nil => rfl
  | literal _ _ _ _ ih => rw [List.flatMap_cons, ih, Piece.source]
  | slot _ _ ih => rw [List.flatMap_cons, ih, Piece.source, List.append_assoc]; rfl
  | unclosed _ => rw [List.flatMap_cons, List.flatMap_nil, List.append_nil, Piece.source]

theorem passes_of_notMem {b : Char} (h : b ∉ text) : ∀ c ∈ text, decide (c ≠ b) = true := by
  intro c hc
  exact decide_eq_true (ne_of_mem_of_not_mem hc h)

theorem takeWhile_of_head? {b : Char} (h : ∀ c ∈ cs.head?, c = b) :
    cs.takeWhile (· ≠ b) = [] := by
  cases cs with
  | nil => rfl
  | cons c cs =>
    obtain rfl := h c rfl
    exact List.takeWhile_cons_of_neg (by simp)

theorem dropWhile_of_head? {b : Char} (h : ∀ c ∈ cs.head?, c = b) :
    cs.dropWhile (· ≠ b) = cs := by
  cases cs with
  | nil => rfl
  | cons c cs =>
    obtain rfl := h c rfl
    exact List.dropWhile_cons_of_neg (by simp)

theorem head?_dropWhile (b : Char) (cs : List Char) :
    ∀ c ∈ (cs.dropWhile (· ≠ b)).head?, c = b := by
  intro c hc
  have hstop := List.head?_dropWhile_not (· ≠ b) cs
  rw [Option.mem_def.mp hc] at hstop
  simpa using hstop

theorem notMem_takeWhile (b : Char) (cs : List Char) : b ∉ cs.takeWhile (· ≠ b) := by
  intro h
  simpa using List.mem_takeWhile_imp h

/-! ## The pieces of a template -/

theorem pieces_literal {c : Char} (hc : c ≠ '\x7b') :
    pieces (c :: cs) =
      .literal (c :: cs.takeWhile (· ≠ '\x7b')) :: pieces (cs.dropWhile (· ≠ '\x7b')) := by
  rw [pieces, if_neg hc]

theorem pieces_slot (h : '\x7d' ∉ name) :
    pieces ('\x7b' :: name ++ '\x7d' :: cs) = .slot name :: pieces cs := by
  have hstop : ∀ c ∈ ('\x7d' :: cs).head?, c = '\x7d' := by simp
  have htake : (name ++ '\x7d' :: cs).takeWhile (· ≠ '\x7d') = name := by
    rw [List.takeWhile_append_of_pos (passes_of_notMem h), takeWhile_of_head? hstop,
      List.append_nil]
  have hdrop : (name ++ '\x7d' :: cs).dropWhile (· ≠ '\x7d') = '\x7d' :: cs := by
    rw [List.dropWhile_append_of_pos (passes_of_notMem h), dropWhile_of_head? hstop]
  rw [List.cons_append, pieces, if_pos rfl]
  split
  · next hnil => rw [hdrop] at hnil; cases hnil
  · next hcons =>
    rw [hdrop] at hcons
    cases hcons
    rw [htake]

theorem pieces_unclosed (h : '\x7d' ∉ text) : pieces ('\x7b' :: text) = [.unclosed text] := by
  have hdrop : text.dropWhile (· ≠ '\x7d') = [] :=
    List.dropWhile_eq_nil_iff.mpr (passes_of_notMem h)
  rw [pieces, if_pos rfl]
  split
  · rfl
  · next hcons => rw [hdrop] at hcons; cases hcons

theorem divides_pieces (cs : List Char) : Divides (pieces cs) cs := by
  induction cs using pieces.induct with
  | case1 => rw [pieces]; exact .nil
  | case2 cs hnil =>
    have hnot : '\x7d' ∉ cs := by
      intro hmem
      simpa using List.dropWhile_eq_nil_iff.mp hnil _ hmem
    rw [pieces_unclosed hnot]
    exact .unclosed hnot
  | case3 cs c rest hcons ih =>
    obtain rfl : c = '\x7d' := head?_dropWhile '\x7d' cs c (by rw [hcons]; rfl)
    have hsplit : cs = cs.takeWhile (· ≠ '\x7d') ++ '\x7d' :: rest := by
      rw [← hcons, List.takeWhile_append_dropWhile]
    rw [hsplit, ← List.cons_append, pieces_slot (notMem_takeWhile '\x7d' cs)]
    exact .slot (notMem_takeWhile '\x7d' cs) ih
  | case4 c cs hc ih =>
    have hbrace : '\x7b' ∉ c :: cs.takeWhile (· ≠ '\x7b') := by
      rw [List.mem_cons, not_or]
      exact ⟨Ne.symm hc, notMem_takeWhile '\x7b' cs⟩
    have hdivides := Divides.literal (List.cons_ne_nil _ _) hbrace (head?_dropWhile '\x7b' cs) ih
    rw [List.cons_append, List.takeWhile_append_dropWhile] at hdivides
    rwa [pieces_literal hc]

theorem Divides.pieces_eq (h : Divides ps cs) : pieces cs = ps := by
  induction h with
  | nil => rw [pieces]
  | @literal text cs ps hne hbrace hstop _ ih =>
    cases text with
    | nil => exact absurd rfl hne
    | cons c text =>
      rw [List.mem_cons, not_or] at hbrace
      rw [List.cons_append, pieces_literal (Ne.symm hbrace.1),
        List.takeWhile_append_of_pos (passes_of_notMem hbrace.2),
        List.dropWhile_append_of_pos (passes_of_notMem hbrace.2), takeWhile_of_head? hstop,
        dropWhile_of_head? hstop, List.append_nil, ih]
  | slot hname _ ih => rw [pieces_slot hname, ih]
  | unclosed htext => exact pieces_unclosed htext

/-! ## Filled text -/

/-- The characters that the pieces of a text are filled to. -/
def filled (values : Values) (cs : List Char) : List Char :=
  (pieces cs).flatMap (Piece.fill values)

theorem toList_fill (template : String) :
    (fill template values).toList = filled values template.toList := String.toList_ofList

theorem filled_nil : filled values [] = [] := by
  rw [filled, pieces, List.flatMap_nil]

theorem filled_cons {c : Char} (hc : c ≠ '\x7b') :
    filled values (c :: cs) =
      c :: cs.takeWhile (· ≠ '\x7b') ++ filled values (cs.dropWhile (· ≠ '\x7b')) := by
  rw [filled, pieces_literal hc, List.flatMap_cons]
  rfl

/-- Text up to the next opening brace stays, wherever it is cut. -/
theorem filled_span (cs : List Char) :
    filled values cs =
      cs.takeWhile (· ≠ '\x7b') ++ filled values (cs.dropWhile (· ≠ '\x7b')) := by
  cases cs with
  | nil => rfl
  | cons c cs =>
    by_cases hc : c = '\x7b'
    · rw [List.takeWhile_cons_of_neg (by simpa), List.dropWhile_cons_of_neg (by simpa),
        List.nil_append]
    · rw [List.takeWhile_cons_of_pos (by simpa), List.dropWhile_cons_of_pos (by simpa),
        filled_cons hc]

theorem filled_literal (h : '\x7b' ∉ text) :
    filled values (text ++ cs) = text ++ filled values cs := by
  rw [filled_span, List.takeWhile_append_of_pos (passes_of_notMem h),
    List.dropWhile_append_of_pos (passes_of_notMem h), List.append_assoc, ← filled_span]

theorem filled_slot (h : '\x7d' ∉ name) :
    filled values ('\x7b' :: name ++ '\x7d' :: cs) =
      (Piece.slot name).fill values ++ filled values cs := by
  rw [filled, pieces_slot h, List.flatMap_cons, filled]

/-- All braces that text opens are closed in it. -/
def Closed (cs : List Char) : Prop := ∀ text, .unclosed text ∉ pieces cs

/-- Text behind closed slots is filled on its own. The last text of the one and the first of the
other may be a single piece of the two together, so their pieces do not just follow each other. -/
theorem filled_append (h : Closed cs) (ds : List Char) :
    filled values (cs ++ ds) = filled values cs ++ filled values ds := by
  have hdivides := divides_pieces cs
  rw [Closed] at h
  generalize pieces cs = ps at h hdivides
  induction hdivides with
  | nil => rw [List.nil_append, filled_nil, List.nil_append]
  | literal _ hbrace _ _ ih =>
    rw [List.append_assoc, filled_literal hbrace, filled_literal hbrace, List.append_assoc,
      ih fun text hmem => h text (List.mem_cons_of_mem _ hmem)]
  | @slot name cs ps hname _ ih =>
    have happend : '\x7b' :: name ++ '\x7d' :: cs ++ ds = '\x7b' :: name ++ '\x7d' :: (cs ++ ds) :=
      List.append_assoc _ _ _
    rw [happend, filled_slot hname, filled_slot hname, List.append_assoc,
      ih fun text hmem => h text (List.mem_cons_of_mem _ hmem)]
  | unclosed _ => exact absurd List.mem_cons_self (h _)

theorem Piece.fill_of_lookup {v : Json} (h : values.lookup (String.ofList name) = some v) :
    (Piece.slot name).fill values = display v := by
  rw [Piece.fill, h]

/-- A piece that has no value stays as it is written. -/
theorem Piece.fill_eq_source {p : Piece}
    (h : ∀ name, p = .slot name → values.lookup (String.ofList name) = none) :
    p.fill values = p.source := by
  cases p with
  | slot name => rw [Piece.fill, h name rfl]
  | literal text => rfl
  | unclosed text => rfl

theorem filled_eq_self
    (h : ∀ name, .slot name ∈ pieces cs → values.lookup (String.ofList name) = none) :
    filled values cs = cs := by
  have hpieces : (pieces cs).flatMap (Piece.fill values) = (pieces cs).flatMap Piece.source := by
    refine List.flatMap_congr fun p hp => Piece.fill_eq_source ?_
    rintro name rfl
    exact h name hp
  rw [filled, hpieces, (divides_pieces cs).source]

/-- Filling a template. It has one division, and is filled piece by piece: text and what is never
closed stay, a slot with a value shows it, other slots stay. So closed text in front can be filled
apart, a template without a value stays, and the value of a slot is not looked at again, whatever
braces it holds. -/
theorem fill_divides (template : String) (values : Values) :
    (∃! ps, Divides ps template.toList) ∧
      (∀ ps, Divides ps template.toList →
        (fill template values).toList = ps.flatMap fun
          | .literal text => text
          | .slot name =>
            match values.lookup (String.ofList name) with
            | some v => display v
            | none => '\x7b' :: name ++ ['\x7d']
          | .unclosed text => '\x7b' :: text) ∧
      (∀ rest, Closed template.toList →
        fill (template ++ rest) values = fill template values ++ fill rest values) ∧
      ((∀ name, .slot name ∈ pieces template.toList →
          values.lookup (String.ofList name) = none) →
        fill template values = template) ∧
      ∀ name rest v, Closed template.toList → '\x7d' ∉ name →
        values.lookup (String.ofList name) = some v →
        fill (template ++ String.ofList ('\x7b' :: name ++ ['\x7d']) ++ rest) values =
          fill template values ++ String.ofList (display v) ++ fill rest values := by
  refine ⟨⟨pieces template.toList, divides_pieces _, fun ps hps => hps.pieces_eq.symm⟩,
    fun ps hps => ?_, fun rest hclosed => ?_, fun hnone => ?_,
    fun name rest v hclosed hname hvalue => ?_⟩
  · rw [toList_fill, filled, hps.pieces_eq]
    refine List.flatMap_congr fun p _ => ?_
    cases p <;> rfl
  · rw [← String.toList_inj, String.toList_append, toList_fill, toList_fill, toList_fill,
      String.toList_append, filled_append hclosed]
  · rw [← String.toList_inj, toList_fill, filled_eq_self hnone]
  · rw [← String.toList_inj]
    simp only [String.toList_append, toList_fill, String.toList_ofList, List.append_assoc]
    rw [filled_append hclosed, List.singleton_append, filled_slot hname,
      Piece.fill_of_lookup hvalue]

/-- A value with a slot of its own name, between a slot within a slot and a brace left open. -/
theorem fill_divides_nested :
    Closed "x\x7ba\x7bb\x7d".toList ∧ '\x7d' ∉ "size".toList ∧
      fill ("x\x7ba\x7bb\x7d" ++ "\x7bsize\x7d" ++ "\x7bsize") [("size", .str "\x7bsize\x7d")] =
        fill "x\x7ba\x7bb\x7d" [("size", .str "\x7bsize\x7d")] ++ "\x7bsize\x7d" ++
          fill "\x7bsize" [("size", .str "\x7bsize\x7d")] := by
  have hpieces : pieces "x\x7ba\x7bb\x7d".toList =
      [.literal ['x'], .slot ['a', '\x7b', 'b']] := by decide +kernel
  have hclosed : Closed "x\x7ba\x7bb\x7d".toList := by
    rw [Closed, hpieces]
    simp
  exact ⟨hclosed, by decide,
    (fill_divides "x\x7ba\x7bb\x7d" [("size", .str "\x7bsize\x7d")]).2.2.2.2
      "size".toList "\x7bsize" (.str "\x7bsize\x7d") hclosed (by decide) rfl⟩

end PositionOverlay.Template
