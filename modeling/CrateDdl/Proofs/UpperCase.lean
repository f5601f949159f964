import CrateDdl.Proofs.LowerCase
import CrateDdl.Text.DecimalDigit

/-!
# Upper case

Upper-casing goes character by character. The letters of ASCII can be given in any case
(`upper_toLower`), and the digits of all scripts stay as they are (`upperChar_of_digit`).
-/

set_option autoImplicit false

namespace CrateDdl.Text

/-! ## Letters of ASCII in any case -/

theorem upperChar_toLower_capital : ∀ k : Fin 26,
    upperChar (Char.ofNat (65 + k)).toLower = upperChar (Char.ofNat (65 + k)) := by
  decide +kernel

theorem upperChar_toLower (c : Char) : upperChar c.toLower = upperChar c := by
  by_cases h : 65 ≤ c.toNat ∧ c.toNat ≤ 90
  · have hk := upperChar_toLower_capital ⟨c.toNat - 65, by omega⟩
    rw [Nat.add_sub_cancel' h.1, Char.ofNat_toNat] at hk
    exact hk
  · have hc : c.toLower = c := dif_neg h
    rw [hc]

theorem upperChars_map_toLower (s : List Char) :
    upperChars (s.map Char.toLower) = upperChars s := by
  simp [upperChars, List.flatMap_map, upperChar_toLower]

theorem upper_toLower (s : String) : upper s.toLower = upper s := by
  rw [upper, upper, toList_toLower, upperChars_map_toLower]

/-! ## Digits -/

/-- The code points that change in upper case. -/
def upperSources : List Nat := upperRuns.flatMap (·.points) ++ upperExpansions.map (·.1)

theorem upperChar_eq_self {c : Char} (h : c.toNat ∉ upperSources) : upperChar c = [c] :=
  counterpart_eq_self (fun hr => h (List.mem_append_left _ hr))
    fun he => h (List.mem_append_right _ he)

/-- The decimal digits of all scripts. -/
def digitRanges : List CodeRange := zeroDigits.map fun first => ⟨first, first + 9⟩

theorem inRanges_digitRanges {c : Char} :
    inRanges digitRanges c = true ↔ (digitValue? c).isSome = true := by
  simp only [inRanges_iff, digitRanges, List.mem_map, digitValue?, Option.isSome_map,
    List.find?_isSome, Bool.and_eq_true, decide_eq_true_eq, exists_exists_and_eq_and]
  refine exists_congr fun first => ?_
  constructor <;> (rintro ⟨hmem, hle, hlt⟩; exact ⟨hmem, hle, by omega⟩)

/-- Digits are no letters and no blanks. -/
theorem digit_tables :
    rangeBits digitRanges &&& pointBits upperSources = 0 ∧
    rangeBits digitRanges &&& (rangeBits blankRanges ||| rangeBits asciiLetters) = 0 := by
  decide +kernel

section
variable {c : Char}

theorem upperChar_of_digit (h : (digitValue? c).isSome = true) : upperChar c = [c] := by
  apply upperChar_eq_self
  rw [← inRanges_digitRanges, ← testBit_rangeBits] at h
  rw [← testBit_pointBits, Bool.not_eq_true]
  exact testBit_of_disjoint digit_tables.1 h

theorem not_blank_of_digit (h : (digitValue? c).isSome = true) :
    isBlank c = false ∧ inRanges asciiLetters c = false := by
  rw [← inRanges_digitRanges, ← testBit_rangeBits] at h
  have hneither := testBit_of_disjoint digit_tables.2 h
  rwa [Nat.testBit_or, testBit_rangeBits, testBit_rangeBits, Bool.or_eq_false_iff] at hneither

theorem mem_upper_of_digit {s : String} (h : (digitValue? c).isSome = true) (hc : c ∈ s.toList) :
    c ∈ (upper s).toList := by
  rw [toList_upper, upperChars, List.mem_flatMap]
  exact ⟨c, hc, by rw [upperChar_of_digit h]; exact List.mem_cons_self⟩

end

end CrateDdl.Text
