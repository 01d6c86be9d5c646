import Mathlib.Tactic.SplitIfs
import PositionOverlay.Json.Printer
import PositionOverlay.Json.Reader

/-! # Strings as they are written

What a string is escaped to is read back as the string, and it is passed over as a whole.
-/
namespace PositionOverlay.Json

/-- How a character stands in a string. -/
inductive Escaped (c : Char) : List Char → Prop where
  | letter {e : Char} (hu : e ≠ 'u') (h : simpleEscape? e = some c) : Escaped c ['\\', e]
  | code {a b d e : Char} (hc : c.toNat < 32) (h : unit? a b d e = some c.toNat) :
    Escaped c ['\\', 'u', a, b, d, e]
  | plain (hquote : c ≠ '"') (hslash : c ≠ '\\') (hc : ¬ c.toNat < 32) : Escaped c [c]

/-- The code that an escape of four digits stands for. -/
def escapedCode? : List Char → Option Nat
  | ['\\', 'u', a, b, d, e] => unit? a b d e
  | _ => none

theorem Escaped.of_escapedCode? {c : Char} {cs : List Char} (hc : c.toNat < 32)
    (h : escapedCode? cs = some c.toNat) : Escaped c cs := by
  unfold escapedCode? at h
  split at h
  next => exact .code hc h
  next => exact nomatch h

/-- A control character is escaped to four digits, which are its code. -/
theorem escaped_codeEscape {c : Char} (h : c.toNat < 32) : Escaped c (codeEscape c) := by
  have hall : ∀ n < 32, escapedCode? (codeEscape (Char.ofNat n)) = some n := by decide
  refine .of_escapedCode? h ?_
  rw [← hall c.toNat h, Char.ofNat_toNat]

theorem escaped_escapeChar (c : Char) : Escaped c (escapeChar c) := by
  unfold escapeChar
  split_ifs with hquote hslash hn hr ht hb hf hcontrol
  · exact .letter (by decide) (by rw [hquote]; rfl)
  · exact .letter (by decide) (by rw [hslash]; rfl)
  · exact .letter (by decide) (by rw [hn]; rfl)
  · exact .letter (by decide) (by rw [hr]; rfl)
  · exact .letter (by decide) (by rw [ht]; rfl)
  · exact .letter (by decide) (by rw [hb]; rfl)
  · exact .letter (by decide) (by rw [hf]; rfl)
  · exact escaped_codeEscape hcontrol
  · exact .plain hquote hslash hcontrol

variable {c : Char} {cs : List Char} (rest : List Char)

theorem Escaped.readString (h : Escaped c cs) (acc : List Char) :
    readString acc (cs ++ rest) = readString (c :: acc) rest := by
  cases h with
  | letter hu h =>
    simp only [List.cons_append, List.nil_append]
    rw [Json.readString, h]
    · exact fun _ _ _ _ _ he => absurd he hu
    · exact hu
  | code hc h =>
    have hlow : isLowSurrogate c.toNat = false := by
      simp [isLowSurrogate]
      omega
    have hhigh : isHighSurrogate c.toNat = false := by
      simp [isHighSurrogate]
      omega
    simp only [List.cons_append, List.nil_append]
    rw [Json.readString]
    simp only [h, hlow, hhigh, Bool.false_eq_true, if_false, Char.ofNat_toNat]
  | plain hquote hslash hc =>
    simp only [List.cons_append, List.nil_append]
    rw [Json.readString, if_neg hc]
    · exact hquote
    · exact fun hs => absurd hs hslash
    · exact fun _ _ _ _ _ hs => absurd hs hslash
    · exact fun _ hs => absurd hs hslash
    · exact fun _ _ hs => absurd hs hslash

theorem Escaped.skipString (h : Escaped c cs) : skipString (cs ++ rest) = skipString rest := by
  cases h with
  | letter hu h =>
    simp only [List.cons_append, List.nil_append]
    rw [Json.skipString, h, Option.isSome_some, if_pos rfl]
    · exact fun _ _ _ _ _ he => absurd he hu
    · exact hu
  | code hc h =>
    simp only [List.cons_append, List.nil_append]
    rw [Json.skipString, h, Option.isSome_some, if_pos rfl]
  | plain hquote hslash hc =>
    simp only [List.cons_append, List.nil_append]
    rw [Json.skipString, if_neg hc]
    · exact hquote
    · exact fun hs => absurd hs hslash
    · exact fun _ _ _ _ _ hs => absurd hs hslash
    · exact fun _ hs => absurd hs hslash
    · exact fun _ _ hs => absurd hs hslash

theorem readString_escaped (acc cs : List Char) :
    readString acc (cs.flatMap escapeChar ++ '"' :: rest) =
      .ok (String.ofList (acc.reverse ++ cs), rest) := by
  induction cs generalizing acc with
  | nil => simp [readString]
  | cons c cs ih =>
    rw [List.flatMap_cons, List.append_assoc, (escaped_escapeChar c).readString, ih]
    simp

theorem skipString_escaped (cs : List Char) :
    skipString (cs.flatMap escapeChar ++ '"' :: rest) = .ok rest := by
  induction cs with
  | nil => simp [skipString]
  | cons c cs ih => rw [List.flatMap_cons, List.append_assoc, (escaped_escapeChar c).skipString, ih]

/-- The text of a string behind its opening quote. -/
def stringTail (s : String) : List Char := s.toList.flatMap escapeChar ++ ['"']

theorem writeString_eq (s : String) : writeString s = '"' :: stringTail s := rfl

/-- A string is read back from its text. -/
theorem readString_stringTail (s : String) :
    readString [] (stringTail s ++ rest) = .ok (s, rest) := by
  rw [stringTail, List.append_assoc, List.singleton_append, readString_escaped]
  simp

theorem skipString_stringTail (s : String) : skipString (stringTail s ++ rest) = .ok rest := by
  rw [stringTail, List.append_assoc, List.singleton_append, skipString_escaped]

end PositionOverlay.Json
