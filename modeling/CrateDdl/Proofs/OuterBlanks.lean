import CrateDdl.Text.Blank
import Mathlib.Data.List.DropRight

/-!
# Outer blanks

A text is what its outer blanks leave of it, between blanks (`trimChars_split`). Blanks put around a
text change nothing of what is left (`strip_padded`), and what is left has no blanks at its ends any
more (`trimmed_stripChars`), so that nothing is taken away from it a second time.
-/

set_option autoImplicit false

namespace CrateDdl.Text

/-! ## Trimming -/

section
variable {p : Char → Bool} {before after : List Char}

theorem trimChars_eq (p : Char → Bool) (s : List Char) :
    trimChars p s = (s.dropWhile p).rdropWhile p := rfl

/-- What is left of a text stands between characters that are dropped. -/
theorem trimChars_split (p : Char → Bool) (s : List Char) :
    ∃ before after, s = before ++ trimChars p s ++ after ∧ (∀ c ∈ before, p c = true) ∧
      ∀ c ∈ after, p c = true := by
  refine ⟨s.takeWhile p, (s.dropWhile p).rtakeWhile p, ?_, fun c hc => ?_, fun c hc => ?_⟩
  · rw [List.append_assoc, trimChars_eq, List.rdropWhile_append_rtakeWhile,
      List.takeWhile_append_dropWhile]
  · exact List.mem_takeWhile_imp hc
  · exact List.mem_rtakeWhile_imp hc

theorem rdropWhile_append_of_pos (h : ∀ c ∈ after, p c = true) (s : List Char) :
    (s ++ after).rdropWhile p = s.rdropWhile p := by
  rw [List.rdropWhile, List.reverse_append, List.dropWhile_append_of_pos, ← List.rdropWhile]
  simpa using h

theorem trimChars_padded (hb : ∀ c ∈ before, p c = true) (ha : ∀ c ∈ after, p c = true)
    (s : List Char) : trimChars p (before ++ s ++ after) = trimChars p s := by
  rw [trimChars_eq, trimChars_eq, List.append_assoc, List.dropWhile_append_of_pos hb,
    List.dropWhile_append]
  split
  · next hs => rw [List.isEmpty_iff.1 hs, List.dropWhile_eq_nil_iff.2 ha]
  · exact rdropWhile_append_of_pos ha _

/-- A change of characters that keeps those to be dropped apart from the others. -/
theorem trimChars_map {f : Char → Char} (h : ∀ c, p (f c) = p c) (s : List Char) :
    trimChars p (s.map f) = (trimChars p s).map f := by
  have hp : p ∘ f = p := funext h
  rw [trimChars, trimChars, List.dropWhile_map, hp, ← List.map_reverse, List.dropWhile_map, hp,
    List.map_reverse]

/-- Nothing is dropped beyond a character that is kept. -/
theorem dropWhile_append_cons {c : Char} (hc : p c = false) (s rest : List Char) :
    (s ++ c :: rest).dropWhile p = s.dropWhile p ++ c :: rest := by
  rw [List.dropWhile_append, List.dropWhile_cons_of_neg (by simp [hc])]
  split
  · next hs => rw [List.isEmpty_iff.1 hs, List.nil_append]
  · rfl

theorem trimChars_append_cons {c : Char} (hc : p c = false) (s rest : List Char) :
    trimChars p (s ++ c :: rest) = s.dropWhile p ++ c :: rest.rdropWhile p := by
  rw [trimChars, dropWhile_append_cons hc, List.reverse_append, List.reverse_cons,
    List.append_assoc, List.singleton_append, dropWhile_append_cons hc, List.reverse_append,
    List.reverse_cons, List.reverse_reverse, List.rdropWhile, List.append_assoc,
    List.singleton_append]

theorem getLast?_dropWhile {s : List Char} (h : s.dropWhile p ≠ []) :
    (s.dropWhile p).getLast? = s.getLast? := by
  have hlast := (List.dropWhile_suffix p (l := s)).getLast h
  rw [List.getLast?_eq_some_getLast h, hlast, ← List.getLast?_eq_some_getLast]

/-- Where the last character is kept, only those in front are dropped. -/
theorem trimChars_of_last {s : List Char} (h : ∀ c ∈ s.getLast?, p c = false) :
    trimChars p s = s.dropWhile p := by
  rw [trimChars_eq, List.rdropWhile_eq_self_iff]
  intro hne
  have hlast := h ((s.dropWhile p).getLast hne)
  rw [← getLast?_dropWhile hne, List.getLast?_eq_some_getLast hne] at hlast
  simp [hlast rfl]

end

/-! ## Blanks -/

/-- Every character is blank. -/
def Blank (s : List Char) : Prop := ∀ c ∈ s, isBlank c = true

instance (s : List Char) : Decidable (Blank s) := List.decidableBAll _ s

/-- There is no blank at the ends. -/
structure Trimmed (s : List Char) : Prop where
  head : ∀ c ∈ s.head?, isBlank c = false
  last : ∀ c ∈ s.getLast?, isBlank c = false

theorem Trimmed.stripChars_eq {s : List Char} (h : Trimmed s) : stripChars s = s := by
  have hhead : s.dropWhile isBlank = s := by
    cases s with
    | nil => rfl
    | cons c rest => exact List.dropWhile_cons_of_neg (by simp [h.head c rfl])
  rw [stripChars, trimChars_eq, hhead, List.rdropWhile_eq_self_iff]
  intro hne
  simp [h.last _ (List.getLast?_eq_some_getLast hne)]

theorem trimmed_stripChars (s : List Char) : Trimmed (stripChars s) := by
  rw [stripChars, trimChars_eq]
  refine ⟨fun c hc => ?_, fun c hc => ?_⟩
  · obtain ⟨after, hsplit⟩ := List.rdropWhile_prefix isBlank (l := s.dropWhile isBlank)
    have hhead : (s.dropWhile isBlank).head? = some c := by
      rw [← hsplit, List.head?_append, Option.mem_def.1 hc, Option.some_or]
    simpa [hhead] using List.head?_dropWhile_not isBlank s
  · obtain ⟨hne, rfl⟩ := List.mem_getLast?_eq_getLast hc
    simpa using List.rdropWhile_last_not isBlank _ hne

theorem strip_strip (s : String) : strip (strip s) = strip s := by
  rw [← String.toList_inj, toList_strip, toList_strip]
  exact (trimmed_stripChars s.toList).stripChars_eq

theorem strip_padded {before after : String} (hb : Blank before.toList)
    (ha : Blank after.toList) (s : String) : strip (before ++ s ++ after) = strip s := by
  rw [strip, String.toList_append, String.toList_append, stripChars, trimChars_padded hb ha]
  rfl

theorem mem_of_mem_strip {s : String} {c : Char} (h : c ∈ (strip s).toList) : c ∈ s.toList := by
  obtain ⟨before, after, hsplit, -, -⟩ := trimChars_split isBlank s.toList
  rw [toList_strip] at h
  rw [hsplit]
  exact List.mem_append_left after (List.mem_append_right before h)

/-- What is no blank is not taken away. -/
theorem mem_strip_of_not_blank {s : String} {c : Char} (h : c ∈ s.toList)
    (hc : isBlank c = false) : c ∈ (strip s).toList := by
  obtain ⟨before, after, hsplit, hb, ha⟩ := trimChars_split isBlank s.toList
  rw [hsplit, List.mem_append, List.mem_append] at h
  rw [toList_strip]
  rcases h with (hbefore | hkept) | hafter
  · simp [hb c hbefore] at hc
  · exact hkept
  · simp [ha c hafter] at hc

theorem strip_eq_empty_iff (s : String) : strip s = "" ↔ Blank s.toList := by
  rw [← String.toList_inj, toList_strip, stripChars]
  constructor
  · intro h
    obtain ⟨before, after, hs, hb, ha⟩ := trimChars_split isBlank s.toList
    rw [hs, h]
    intro c hc
    simp only [List.append_nil, String.toList_empty, List.mem_append] at hc
    exact hc.elim (hb c) (ha c)
  · intro h
    rw [trimChars, List.dropWhile_eq_nil_iff.2 h]
    rfl

end CrateDdl.Text
