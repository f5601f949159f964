import CrateDdl.Proofs.OuterBlanks
import CrateDdl.Text.Case

/-!
# Lower case

What full lower-casing keeps, whatever the context of a sigma and however long the forms are.

* `lower_lower`: a text in lower case stays as it is.
* `strip_lower`: outer blanks can be dropped before or after.
* `lower_toLower`: the letters of ASCII can be given in any case.
* `lower_eq_iff_of_plain`: most letters of ASCII come from no others.

The tables of code points are compared as sets of bits, all at once (`lower_tables`). From that
comes what one character becomes (`lowerChar_cases`), and what one step over a text writes
(`lowerFrom_cons`); the rest is by induction on the text.
-/

set_option autoImplicit false

namespace CrateDdl.Text

/-! ## Sets of code points as bits -/

/-- The code points of a range, as the bits of a number. -/
def CodeRange.bits (r : CodeRange) : Nat := (1 <<< (r.last + 1 - r.first) - 1) <<< r.first

def rangeBits (ranges : List CodeRange) : Nat := ranges.foldr (fun r set => r.bits ||| set) 0

def pointBits (points : List Nat) : Nat := points.foldr (fun n set => 1 <<< n ||| set) 0

theorem CodeRange.testBit_bits (r : CodeRange) (c : Char) : r.bits.testBit c.toNat = r.has c := by
  unfold bits has
  rw [Nat.testBit_shiftLeft, Nat.one_shiftLeft, Nat.testBit_two_pow_sub_one, Bool.eq_iff_iff]
  simp only [Bool.and_eq_true, decide_eq_true_eq]
  omega

theorem testBit_rangeBits (ranges : List CodeRange) (c : Char) :
    (rangeBits ranges).testBit c.toNat = inRanges ranges c := by
  induction ranges with
  | nil => simp [rangeBits, inRanges]
  | cons r ranges ih =>
    have hcons : rangeBits (r :: ranges) = r.bits ||| rangeBits ranges := rfl
    rw [hcons, Nat.testBit_or, r.testBit_bits, ih]
    rfl

theorem testBit_pointBits {points : List Nat} {n : Nat} :
    (pointBits points).testBit n = true ↔ n ∈ points := by
  induction points with
  | nil => simp [pointBits]
  | cons m points ih =>
    have hcons : pointBits (m :: points) = 1 <<< m ||| pointBits points := rfl
    rw [hcons, Nat.testBit_or, Nat.one_shiftLeft, Nat.testBit_two_pow, Bool.or_eq_true, ih,
      List.mem_cons, decide_eq_true_eq, eq_comm]

theorem testBit_of_disjoint {x y n : Nat} (h : x &&& y = 0) (hx : x.testBit n = true) :
    y.testBit n = false := by
  have hn := congrArg (Nat.testBit · n) h
  simpa [hx] using hn

/-! ## The tables -/

/-- The code points of a run. -/
def ShiftRun.points (r : ShiftRun) : List Nat :=
  (List.range ((r.last - r.first) / r.step + 1)).map fun i => r.first + r.step * i

theorem ShiftRun.mem_points {r : ShiftRun} {n : Nat} (h : r.has n = true) : n ∈ r.points := by
  simp only [has, Bool.and_eq_true, decide_eq_true_eq, beq_iff_eq] at h
  obtain ⟨⟨hfirst, hlast⟩, hstep⟩ := h
  refine List.mem_map.2 ⟨(n - r.first) / r.step, List.mem_range.2 ?_, ?_⟩
  · exact Nat.lt_succ_of_le (Nat.div_le_div_right (by omega))
  · have := Nat.div_add_mod (n - r.first) r.step
    omega

theorem counterpart_eq_self {runs : List ShiftRun} {expansions : List (Nat × List Nat)} {c : Char}
    (hruns : c.toNat ∉ runs.flatMap (·.points)) (hexpansions : c.toNat ∉ expansions.map (·.1)) :
    counterpart runs expansions c = [c] := by
  have hnone : runs.find? (fun r => r.has c.toNat) = none := by
    rw [List.find?_eq_none]
    intro r hr hhas
    exact hruns (List.mem_flatMap.2 ⟨r, hr, ShiftRun.mem_points hhas⟩)
  have hlookup : expansions.lookup c.toNat = none := by
    rw [List.lookup_eq_none_iff]
    intro entry hentry
    exact bne_iff_ne.2 fun he => hexpansions (List.mem_map.2 ⟨entry, hentry, he.symm⟩)
  rw [counterpart, hnone, hlookup]

/-- The code points that change in lower case: the dotted capital I, and those of the runs. -/
def lowerSources : List Nat := 304 :: lowerRuns.flatMap (·.points)

/-- What the code points of the runs become. -/
def lowerTargets : List Nat := lowerRuns.flatMap fun r => r.points.map r.apply

/-- The small letters of ASCII and their capitals. -/
def asciiLetters : List CodeRange := [⟨65, 90⟩, ⟨97, 122⟩]

/-- No target is a source, neither is blank, and all targets are characters. -/
theorem lower_tables :
    pointBits lowerTargets &&& pointBits lowerSources = 0 ∧
    (pointBits lowerTargets ||| pointBits lowerSources) &&& rangeBits blankRanges = 0 ∧
    ∀ n ∈ lowerTargets, n.isValidChar := by
  decide +kernel

theorem context_tables :
    rangeBits blankRanges &&& (rangeBits casedRanges ||| rangeBits ignorableRanges) = 0 ∧
    rangeBits asciiLetters &&& rangeBits ignorableRanges = 0 := by
  decide +kernel

theorem toNat_of_target {n : Nat} (h : n ∈ lowerTargets) : (Char.ofNat n).toNat = n := by
  rw [Char.ofNat, dif_pos (lower_tables.2.2 n h)]
  rfl

theorem isBlank_of_letter {c : Char} (h : c.toNat ∈ lowerTargets ∨ c.toNat ∈ lowerSources) :
    isBlank c = false := by
  rw [isBlank, ← testBit_rangeBits]
  refine testBit_of_disjoint lower_tables.2.1 ?_
  rw [Nat.testBit_or, Bool.or_eq_true, testBit_pointBits, testBit_pointBits]
  exact h

theorem caseless_of_isBlank {c : Char} (h : isBlank c = true) :
    isCased c = false ∧ isCaseIgnorable c = false := by
  rw [isBlank, ← testBit_rangeBits] at h
  have hneither := testBit_of_disjoint context_tables.1 h
  rw [Nat.testBit_or, testBit_rangeBits, testBit_rangeBits, Bool.or_eq_false_iff] at hneither
  exact hneither

theorem isCaseIgnorable_of_ascii {c : Char} (h : inRanges asciiLetters c = true) :
    isCaseIgnorable c = false := by
  rw [← testBit_rangeBits] at h
  rw [isCaseIgnorable, ← testBit_rangeBits]
  exact testBit_of_disjoint context_tables.2 h

/-! ## One character -/

theorem lowerChar_i : lowerChar 'i' = ['i'] := by decide +kernel

theorem lowerChar_dot : lowerChar '\u0307' = ['\u0307'] := by decide +kernel

theorem lowerChar_sigma : lowerChar 'Σ' = ['σ'] := by decide +kernel

theorem lowerChar_final : lowerChar 'ς' = ['ς'] := by decide +kernel

theorem lowerChar_eq_self {c : Char} (h : c.toNat ∉ lowerSources) : lowerChar c = [c] := by
  obtain ⟨hdotted, hruns⟩ := List.ne_and_not_mem_of_not_mem_cons h
  exact counterpart_eq_self hruns (by simpa [lowerExpansions] using hdotted)

/-- A character stays as it is, or it lies in a run, or it is the dotted capital I. -/
theorem lowerChar_forms (c : Char) :
    lowerChar c = [c] ∨
      (∃ r ∈ lowerRuns, r.has c.toNat = true ∧ lowerChar c = [Char.ofNat (r.apply c.toNat)]) ∨
      c.toNat = 304 ∧ lowerChar c = ['i', '\u0307'] := by
  unfold lowerChar counterpart
  cases hfind : lowerRuns.find? (fun r => r.has c.toNat) with
  | some r =>
    have hhas : r.has c.toNat = true := by simpa using List.find?_some hfind
    exact .inr (.inl ⟨r, List.mem_of_find?_eq_some hfind, hhas, rfl⟩)
  | none =>
    by_cases hdotted : c.toNat = 304
    · rw [hdotted]
      exact .inr (.inr ⟨rfl, rfl⟩)
    · rw [lowerExpansions, List.lookup_cons, beq_false_of_ne hdotted]
      exact .inl rfl

/-- A character stays as it is, or it is a source and becomes a target or an i with a dot. -/
theorem lowerChar_cases (c : Char) :
    lowerChar c = [c] ∨ c.toNat ∈ lowerSources ∧
      ((∃ n ∈ lowerTargets, lowerChar c = [Char.ofNat n]) ∨ lowerChar c = ['i', '\u0307']) := by
  rcases lowerChar_forms c with hself | ⟨r, hr, hhas, hform⟩ | ⟨hdotted, hform⟩
  · exact .inl hself
  · have hpoint := ShiftRun.mem_points hhas
    refine .inr ⟨List.mem_cons_of_mem _ (List.mem_flatMap.2 ⟨r, hr, hpoint⟩), .inl ?_⟩
    exact ⟨_, List.mem_flatMap.2 ⟨r, hr, List.mem_map_of_mem hpoint⟩, hform⟩
  · rw [hdotted]
    exact .inr ⟨List.mem_cons_self, .inr hform⟩

theorem lowerChar_ne_nil (c : Char) : lowerChar c ≠ [] := by
  rcases lowerChar_cases c with hself | ⟨-, ⟨n, -, htarget⟩ | hdotted⟩
  · simp [hself]
  · simp [htarget]
  · simp [hdotted]

/-- What a character becomes stays as it is. -/
theorem lowerChar_of_mem {c d : Char} (h : d ∈ lowerChar c) : lowerChar d = [d] := by
  rcases lowerChar_cases c with hself | ⟨-, ⟨n, hn, htarget⟩ | hdotted⟩
  · rw [hself, List.mem_singleton] at h
    rw [h, hself]
  · rw [htarget, List.mem_singleton] at h
    subst h
    apply lowerChar_eq_self
    rw [toNat_of_target hn, ← testBit_pointBits, Bool.not_eq_true]
    exact testBit_of_disjoint lower_tables.1 (testBit_pointBits.2 hn)
  · rw [hdotted] at h
    rcases List.mem_pair.1 h with rfl | rfl
    · exact lowerChar_i
    · exact lowerChar_dot

theorem isBlank_of_mem_lowerChar {c d : Char} (h : d ∈ lowerChar c) : isBlank d = isBlank c := by
  rcases lowerChar_cases c with hself | ⟨hsource, hform⟩
  · rw [hself, List.mem_singleton] at h
    rw [h]
  · rw [isBlank_of_letter (.inr hsource)]
    rcases hform with ⟨n, hn, htarget⟩ | hdotted
    · rw [htarget, List.mem_singleton] at h
      rw [h]
      exact isBlank_of_letter (.inl (by rwa [toNat_of_target hn]))
    · rw [hdotted] at h
      rcases List.mem_pair.1 h with rfl | rfl <;> decide

theorem lowerChar_of_isBlank {c : Char} (h : isBlank c = true) : lowerChar c = [c] := by
  rcases lowerChar_cases c with hself | ⟨hsource, -⟩
  · exact hself
  · rw [isBlank_of_letter (.inr hsource)] at h
    cases h

/-! ## Texts in lower case -/

/-- What is written for one character of a text: its lower-case form, or a final sigma. -/
theorem lowerFrom_cons (cased : Bool) (c : Char) (rest : List Char) :
    ∃ form, lowerFrom cased (c :: rest) = form ++ lowerFrom (afterCased cased c) rest ∧
      form ≠ [] ∧ ∀ d ∈ form, lowerChar d = [d] ∧ isBlank d = isBlank c := by
  refine ⟨_, rfl, ?_⟩
  split
  · next hfinal =>
    simp only [Bool.and_eq_true, decide_eq_true_eq] at hfinal
    obtain ⟨⟨rfl, -⟩, -⟩ := hfinal
    refine ⟨by simp, fun d hd => ?_⟩
    rw [List.mem_singleton.1 hd]
    exact ⟨lowerChar_final, by decide⟩
  · exact ⟨lowerChar_ne_nil c, fun d hd => ⟨lowerChar_of_mem hd, isBlank_of_mem_lowerChar hd⟩⟩

theorem lowerFrom_ne_nil {s : List Char} (h : s ≠ []) (cased : Bool) : lowerFrom cased s ≠ [] := by
  obtain ⟨c, rest, rfl⟩ := List.exists_cons_of_ne_nil h
  obtain ⟨form, hcons, hne, -⟩ := lowerFrom_cons cased c rest
  simp [hcons, hne]

theorem lowerChar_of_mem_lowerFrom : ∀ (s : List Char) (cased : Bool),
    ∀ d ∈ lowerFrom cased s, lowerChar d = [d]
  | [], _, d, hd => by cases hd
  | c :: rest, cased, d, hd => by
    obtain ⟨form, hcons, -, hform⟩ := lowerFrom_cons cased c rest
    rw [hcons] at hd
    rcases List.mem_append.1 hd with hd | hd
    · exact (hform d hd).1
    · exact lowerChar_of_mem_lowerFrom rest _ d hd

/-- A text of characters that stay as they are stays as it is: there is no capital sigma in it. -/
theorem lowerFrom_eq_self : ∀ {s : List Char} (cased : Bool),
    (∀ d ∈ s, lowerChar d = [d]) → lowerFrom cased s = s
  | [], _, _ => rfl
  | c :: rest, cased, h => by
    obtain ⟨hc, hrest⟩ := List.forall_mem_cons.1 h
    have hsigma : c ≠ 'Σ' := by
      rintro rfl
      rw [lowerChar_sigma] at hc
      exact absurd hc (by decide)
    simp [lowerFrom, hsigma, hc, lowerFrom_eq_self _ hrest]

theorem lower_lower (s : String) : lower (lower s) = lower s := by
  rw [lower, toList_lower]
  exact congrArg String.ofList (lowerFrom_eq_self false (lowerChar_of_mem_lowerFrom s.toList false))

/-! ## Blanks around a text in lower case -/

/-- A blank stays, and what comes behind it begins a word. -/
theorem lowerFrom_cons_blank {c : Char} (h : isBlank c = true) (cased : Bool)
    (rest : List Char) : lowerFrom cased (c :: rest) = c :: lowerFrom false rest := by
  obtain ⟨hcased, hignorable⟩ := caseless_of_isBlank h
  have hsigma : c ≠ 'Σ' := by
    rintro rfl
    exact absurd h (by decide)
  simp [lowerFrom, hsigma, lowerChar_of_isBlank h, afterCased, hcased, hignorable]

theorem lowerFrom_blank_append {before : List Char} (h : Blank before) (s : List Char) :
    lowerFrom false (before ++ s) = before ++ lowerFrom false s := by
  induction before with
  | nil => rfl
  | cons c before ih =>
    obtain ⟨hc, hbefore⟩ := List.forall_mem_cons.1 h
    rw [List.cons_append, lowerFrom_cons_blank hc, ih hbefore, List.cons_append]

theorem beforeCased_append_blank {after : List Char} (h : Blank after) :
    ∀ s : List Char, beforeCased (s ++ after) = beforeCased s
  | [] => by
    cases after with
    | nil => rfl
    | cons c after =>
      obtain ⟨hcased, hignorable⟩ := caseless_of_isBlank (h c List.mem_cons_self)
      simp [beforeCased, hcased, hignorable]
  | c :: s => by simp only [List.cons_append, beforeCased, beforeCased_append_blank h s]

theorem lowerFrom_append_blank {after : List Char} (h : Blank after) :
    ∀ (s : List Char) (cased : Bool), lowerFrom cased (s ++ after) = lowerFrom cased s ++ after
  | [], cased => by
    cases after with
    | nil => rfl
    | cons c after =>
      obtain ⟨hc, hafter⟩ := List.forall_mem_cons.1 h
      have hrest : lowerFrom false after = after := by
        simpa [lowerFrom] using lowerFrom_blank_append hafter []
      rw [List.nil_append, lowerFrom_cons_blank hc, hrest]
      rfl
  | c :: s, cased => by
    -- blanks behind a sigma are no letters: it is final if it was before
    simp only [List.cons_append, lowerFrom, beforeCased_append_blank h,
      lowerFrom_append_blank h s, List.append_assoc]

theorem lowerChars_padded {before after : List Char} (hb : Blank before) (ha : Blank after)
    (s : List Char) : lowerChars (before ++ s ++ after) = before ++ lowerChars s ++ after := by
  rw [lowerChars, lowerFrom_append_blank ha, lowerFrom_blank_append hb]
  rfl

/-- The last character in lower case is blank if the last one of the text is. -/
theorem isBlank_getLast?_lowerFrom : ∀ (s : List Char) (cased : Bool),
    ∀ d ∈ (lowerFrom cased s).getLast?, ∃ c ∈ s.getLast?, isBlank d = isBlank c
  | [], _, d, hd => by cases hd
  | c :: rest, cased, d, hd => by
    obtain ⟨form, hcons, -, hform⟩ := lowerFrom_cons cased c rest
    rw [hcons, List.getLast?_append, Option.mem_def] at hd
    by_cases hrest : rest = []
    · subst hrest
      simp only [lowerFrom, List.getLast?_nil, Option.none_or] at hd
      exact ⟨c, rfl, (hform d (List.mem_of_getLast? hd)).2⟩
    · have hlast := List.getLast?_eq_some_getLast (lowerFrom_ne_nil hrest (afterCased cased c))
      obtain ⟨c', hc', hblank⟩ := isBlank_getLast?_lowerFrom rest _ _ hlast
      rw [hlast, Option.some_or] at hd
      cases hd
      refine ⟨c', ?_, hblank⟩
      rw [List.getLast?_cons, Option.mem_def.1 hc']
      rfl

theorem Trimmed.lowerChars {s : List Char} (h : Trimmed s) : Trimmed (lowerChars s) := by
  refine ⟨fun d hd => ?_, fun d hd => ?_⟩
  · cases s with
    | nil => cases hd
    | cons c rest =>
      obtain ⟨form, hcons, hne, hform⟩ := lowerFrom_cons false c rest
      obtain ⟨e, form, rfl⟩ := List.exists_cons_of_ne_nil hne
      rw [Text.lowerChars, hcons] at hd
      cases hd
      rw [(hform d List.mem_cons_self).2, h.head c rfl]
  · obtain ⟨c, hc, hblank⟩ := isBlank_getLast?_lowerFrom s false d hd
    rw [hblank, h.last c hc]

/-- A text in lower case is what is left of the text in lower case, between the same blanks. -/
theorem lowerChars_split (s : List Char) :
    ∃ before after, Blank before ∧ Blank after ∧ s = before ++ stripChars s ++ after ∧
      lowerChars s = before ++ lowerChars (stripChars s) ++ after := by
  obtain ⟨before, after, hs, hb, ha⟩ := trimChars_split isBlank s
  refine ⟨before, after, hb, ha, hs, ?_⟩
  rw [← lowerChars_padded hb ha]
  exact congrArg lowerChars hs

theorem strip_lower (s : String) : strip (lower s) = lower (strip s) := by
  obtain ⟨before, after, hb, ha, -, hlower⟩ := lowerChars_split s.toList
  have htrimmed := (trimmed_stripChars s.toList).lowerChars.stripChars_eq
  rw [strip, toList_lower, lower, toList_strip, hlower, stripChars, trimChars_padded hb ha]
  exact congrArg String.ofList htrimmed

/-- A text with outer blanks differs from what is left of it in more than case. -/
theorem lower_strip_eq_iff (s : String) : lower (strip s) = lower s ↔ strip s = s := by
  refine ⟨fun h => ?_, fun h => by rw [h]⟩
  obtain ⟨before, after, -, -, hs, hlower⟩ := lowerChars_split s.toList
  -- lower-casing changes lengths, but not those of the outer blanks: there is no room for any
  have hlength := congrArg (fun t => t.toList.length) h
  simp only [toList_lower, toList_strip, hlower, List.length_append] at hlength
  obtain rfl : before = [] := List.eq_nil_of_length_eq_zero (by omega)
  obtain rfl : after = [] := List.eq_nil_of_length_eq_zero (by omega)
  rw [← String.toList_inj, toList_strip]
  simpa using hs.symm

/-! ## Letters of ASCII in any case -/

theorem capital_forms : ∀ k : Fin 26,
    let c := Char.ofNat (65 + k)
    lowerChar c = [c.toLower] ∧ isCased c = true ∧ isCased c.toLower = true ∧
      inRanges asciiLetters c = true ∧ inRanges asciiLetters c.toLower = true := by
  decide +kernel

theorem capital_form {c : Char} (h : 65 ≤ c.toNat ∧ c.toNat ≤ 90) :
    lowerChar c = [c.toLower] ∧ isCased c = true ∧ isCased c.toLower = true ∧
      inRanges asciiLetters c = true ∧ inRanges asciiLetters c.toLower = true := by
  have hforms := capital_forms ⟨c.toNat - 65, by omega⟩
  simpa only [Nat.add_sub_cancel' h.1, Char.ofNat_toNat] using hforms

theorem toLower_cases (c : Char) :
    c.toLower = c ∨ lowerChar c = [c.toLower] ∧ isCased c = true ∧ isCased c.toLower = true ∧
      inRanges asciiLetters c = true ∧ inRanges asciiLetters c.toLower = true := by
  by_cases h : 65 ≤ c.toNat ∧ c.toNat ≤ 90
  · exact .inr (capital_form h)
  · exact .inl (dif_neg h)

/-- A letter of ASCII counts for the same in both cases. -/
theorem toLower_alike (c : Char) :
    lowerChar c.toLower = lowerChar c ∧ isCased c.toLower = isCased c ∧
      isCaseIgnorable c.toLower = isCaseIgnorable c ∧ isBlank c.toLower = isBlank c := by
  rcases toLower_cases c with hself | ⟨hlower, hcased, hcased', hascii, hascii'⟩
  · simp [hself]
  · have hmem : c.toLower ∈ lowerChar c := by rw [hlower, List.mem_singleton]
    refine ⟨?_, ?_, ?_, isBlank_of_mem_lowerChar hmem⟩
    · rw [lowerChar_of_mem hmem, hlower]
    · rw [hcased, hcased']
    · rw [isCaseIgnorable_of_ascii hascii, isCaseIgnorable_of_ascii hascii']

theorem toLower_eq_sigma_iff (c : Char) : c.toLower = 'Σ' ↔ c = 'Σ' := by
  refine ⟨fun h => ?_, fun h => by rw [h]; decide⟩
  rcases toLower_cases c with hself | ⟨hlower, -⟩
  · rw [← hself, h]
  · have hsigma := lowerChar_of_mem (c := c) (d := 'Σ') (by rw [hlower, h, List.mem_singleton])
    rw [lowerChar_sigma] at hsigma
    exact absurd hsigma (by decide)

theorem beforeCased_map_toLower : ∀ s : List Char,
    beforeCased (s.map Char.toLower) = beforeCased s
  | [] => rfl
  | c :: s => by
    obtain ⟨-, hcased, hignorable, -⟩ := toLower_alike c
    simp only [List.map_cons, beforeCased, hcased, hignorable, beforeCased_map_toLower s]

theorem lowerFrom_map_toLower : ∀ (s : List Char) (cased : Bool),
    lowerFrom cased (s.map Char.toLower) = lowerFrom cased s
  | [], _ => rfl
  | c :: s, cased => by
    obtain ⟨hlower, hcased, hignorable, -⟩ := toLower_alike c
    simp only [List.map_cons, lowerFrom, afterCased, toLower_eq_sigma_iff, hlower, hcased,
      hignorable, beforeCased_map_toLower, lowerFrom_map_toLower s]

theorem toList_toLower (s : String) : s.toLower.toList = s.toList.map Char.toLower :=
  String.toList_map

/-- Capitals of ASCII can be made small before a text is put in lower case. -/
theorem lower_toLower (s : String) : lower s.toLower = lower s := by
  rw [lower, lower, toList_toLower, lowerChars, lowerChars, lowerFrom_map_toLower]

theorem strip_toLower (s : String) : strip s.toLower = (strip s).toLower := by
  rw [← String.toList_inj, toList_strip, toList_toLower, toList_toLower, toList_strip]
  exact trimChars_map (fun c => (toLower_alike c).2.2.2) s.toList

/-! ## Plain characters -/

/-- Of the other runs, only that of the sign for kelvin leads to ASCII. -/
theorem ascii_forms : ∀ r ∈ lowerRuns, r = ⟨65, 90, 1, 32⟩ ∨
    ∀ n ∈ r.points, 127 < r.apply n ∨ r.apply n = 107 := by
  decide +kernel

/-- A character of ASCII that has itself and its capital for its only other form: no capital, and
none of the letters i and k, which the dotted capital I and the sign for kelvin become. -/
def isPlain (d : Char) : Bool := d.toNat < 128 && d.toLower == d && d != 'i' && d != 'k'

theorem plain_forms : ∀ k : Fin 128, isPlain (Char.ofNat k) = true →
    lowerChar (Char.ofNat k) = [Char.ofNat k] := by
  decide +kernel

section
variable {c d : Char}

theorem isPlain_iff :
    isPlain d = true ↔ d.toNat < 128 ∧ d.toLower = d ∧ d ≠ 'i' ∧ d ≠ 'k' := by
  simp [isPlain, and_assoc]

theorem lowerChar_of_isPlain (hd : isPlain d = true) : lowerChar d = [d] := by
  have hform := plain_forms ⟨d.toNat, (isPlain_iff.1 hd).1⟩
  simp only [Char.ofNat_toNat] at hform
  exact hform hd

/-- A plain character is the form of nothing but itself and its capital. -/
theorem toLower_of_mem_lowerChar (hd : isPlain d = true) (h : d ∈ lowerChar c) :
    c.toLower = d := by
  obtain ⟨hascii, -, hi, hk⟩ := isPlain_iff.1 hd
  by_cases hc : 65 ≤ c.toNat ∧ c.toNat ≤ 90
  · rw [(capital_form hc).1, List.mem_singleton] at h
    exact h.symm
  · have hself : c.toLower = c := dif_neg hc
    rw [hself]
    rcases lowerChar_forms c with hform | ⟨r, hr, hhas, hform⟩ | ⟨-, hform⟩ <;> rw [hform] at h
    · exact (List.mem_singleton.1 h).symm
    · have hpoint := ShiftRun.mem_points hhas
      have htarget : r.apply c.toNat ∈ lowerTargets :=
        List.mem_flatMap.2 ⟨r, hr, List.mem_map_of_mem hpoint⟩
      have hnat : d.toNat = r.apply c.toNat := by
        rw [List.mem_singleton.1 h, toNat_of_target htarget]
      rcases ascii_forms r hr with rfl | hforms
      · simp only [ShiftRun.has, Bool.and_eq_true, decide_eq_true_eq] at hhas
        exact absurd hhas.1 hc
      · rcases hforms _ hpoint with hbeyond | hkelvin
        · omega
        · rw [← Char.ofNat_toNat d, hnat, hkelvin] at hk
          exact absurd rfl hk
    · rcases List.mem_pair.1 h with rfl | rfl
      · exact absurd rfl hi
      · exact absurd hascii (by decide)

/-- What a text in lower case begins with, if that is a plain character. -/
theorem toLower_of_lowerFrom_cons {s t : List Char} {cased : Bool} (hd : isPlain d = true)
    (h : lowerFrom cased (c :: s) = d :: t) : c.toLower = d := by
  rw [lowerFrom] at h
  split at h
  · -- a final sigma is no character of ASCII
    obtain rfl : 'ς' = d := (List.cons.inj h).1
    exact absurd hd (by decide)
  · obtain ⟨e, form, hform⟩ := List.exists_cons_of_ne_nil (lowerChar_ne_nil c)
    rw [hform] at h
    obtain rfl : e = d := (List.cons.inj h).1
    exact toLower_of_mem_lowerChar hd (by rw [hform]; exact List.mem_cons_self)

theorem lowerFrom_cons_of_plain (hd : isPlain d = true) (h : c.toLower = d) (cased : Bool)
    (s : List Char) : lowerFrom cased (c :: s) = d :: lowerFrom (afterCased cased c) s := by
  have hlower : lowerChar c = [d] := by
    rw [← (toLower_alike c).1, h, lowerChar_of_isPlain hd]
  have hsigma : c ≠ 'Σ' := by
    rintro rfl
    rw [← h] at hd
    exact absurd hd (by decide)
  simp [lowerFrom, hsigma, hlower]

end

theorem lowerFrom_eq_iff_of_plain : ∀ {t : List Char}, (∀ d ∈ t, isPlain d = true) →
    ∀ (s : List Char) (cased : Bool), lowerFrom cased s = t ↔ s.map Char.toLower = t
  | _, _, [], _ => Iff.rfl
  | [], _, c :: s, cased => by simp [lowerFrom_ne_nil]
  | d :: t, h, c :: s, cased => by
    obtain ⟨hd, ht⟩ := List.forall_mem_cons.1 h
    have ih := lowerFrom_eq_iff_of_plain ht s (afterCased cased c)
    rw [List.map_cons, List.cons.injEq]
    constructor
    · intro heq
      have hc := toLower_of_lowerFrom_cons hd heq
      rw [lowerFrom_cons_of_plain hd hc] at heq
      exact ⟨hc, ih.1 (List.cons.inj heq).2⟩
    · rintro ⟨hc, hs⟩
      rw [lowerFrom_cons_of_plain hd hc, ih.2 hs]

/-- A text is one of plain characters in lower case if and only if it is with the capitals of ASCII
made small. -/
theorem lower_eq_iff_of_plain {t : String} (h : ∀ d ∈ t.toList, isPlain d = true) (s : String) :
    lower s = t ↔ s.toLower = t := by
  rw [← String.toList_inj, ← String.toList_inj, toList_lower, toList_toLower]
  exact lowerFrom_eq_iff_of_plain h s.toList false

end CrateDdl.Text
