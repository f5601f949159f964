/-!
# Quoted tokens

An SQL identifier stands between double quotes and a string literal between single ones; the
quote itself is written twice inside. `scan` reads one such token off the front of a text, and
`scan_eq_some_iff` says that it reads just what `encode` writes, whatever follows.
-/

set_option autoImplicit false

namespace CrateDdl.Text.Quoted

/-- The text with every `q` written twice. -/
def double (q : Char) : List Char → List Char
  | [] => []
  | c :: rest => if c = q then q :: q :: double q rest else c :: double q rest

/-- The token that stands for a text. -/
def encode (q : Char) (s : List Char) : List Char := q :: (double q s ++ [q])

/-- Reads up to the closing quote: two quotes are one of the text, a single one ends it. -/
def scanBody (q : Char) : List Char → Option (List Char × List Char)
  | [] => none
  | [c] => if c = q then some ([], []) else none
  | c :: d :: rest =>
    if c = q then
      if d = q then (scanBody q rest).map fun (s, r) => (q :: s, r) else some ([], d :: rest)
    else (scanBody q (d :: rest)).map fun (s, r) => (c :: s, r)

/-- Reads one token: the text it stands for, and what follows it. -/
def scan (q : Char) : List Char → Option (List Char × List Char)
  | [] => none
  | c :: rest => if c = q then scanBody q rest else none

@[simp] theorem double_nil (q : Char) : double q [] = [] := rfl

theorem double_cons_self (q : Char) (s : List Char) : double q (q :: s) = q :: q :: double q s := by
  simp [double]

theorem double_cons_ne {q c : Char} (h : c ≠ q) (s : List Char) :
    double q (c :: s) = c :: double q s := by
  simp [double, h]

theorem length_double (q : Char) : ∀ s : List Char, (double q s).length = s.length + s.count q
  | [] => rfl
  | c :: s => by
    have ih := length_double q s
    by_cases h : c = q
    · subst h
      simp only [double_cons_self, List.length_cons, List.count_cons_self, ih]
      omega
    · simp only [double_cons_ne h, List.length_cons, List.count_cons_of_ne h, ih]
      omega

/-- Texts without quotes, and no others, are written as they are. -/
theorem double_eq_self_iff {q : Char} {s : List Char} : double q s = s ↔ q ∉ s := by
  refine ⟨fun h => ?_, fun h => ?_⟩
  · have hlength := length_double q s
    rw [h] at hlength
    exact List.count_eq_zero.1 (by omega)
  · induction s with
    | nil => rfl
    | cons c s ih =>
      obtain ⟨hc, hs⟩ := List.ne_and_not_mem_of_not_mem_cons h
      rw [double_cons_ne (Ne.symm hc), ih hs]

theorem scanBody_cons_ne {q c : Char} (h : c ≠ q) {s : List Char} (hs : s ≠ []) :
    scanBody q (c :: s) = (scanBody q s).map fun (t, r) => (c :: t, r) := by
  cases s with
  | nil => exact absurd rfl hs
  | cons d s => simp [scanBody, h]

theorem scanBody_double (q : Char) (s r : List Char) (hr : r.head? ≠ some q) :
    scanBody q (double q s ++ q :: r) = some (s, r) := by
  induction s with
  | nil =>
    cases r with
    | nil => simp [scanBody]
    | cons d r =>
      have hd : d ≠ q := by simpa using hr
      simp [scanBody, hd]
  | cons c s ih =>
    by_cases h : c = q
    · subst h
      simp [double_cons_self, scanBody, ih]
    · rw [double_cons_ne h, List.cons_append, scanBody_cons_ne h (by simp), ih]
      rfl

/-- A token reads back as its text, and the scan stops right behind it. -/
theorem scan_encode (q : Char) (s r : List Char) (hr : r.head? ≠ some q) :
    scan q (encode q s ++ r) = some (s, r) := by
  simpa [scan, encode] using scanBody_double q s r hr

theorem encode_inj {q : Char} {s t : List Char} : encode q s = encode q t ↔ s = t := by
  refine ⟨fun h => ?_, congrArg (encode q)⟩
  have hs := scan_encode q s [] (by simp)
  rw [h, scan_encode q t [] (by simp), Option.some.injEq, Prod.mk.injEq] at hs
  exact hs.1.symm

theorem eq_double_of_scanBody {q : Char} {s t r : List Char} (h : scanBody q s = some (t, r)) :
    s = double q t ++ q :: r ∧ r.head? ≠ some q := by
  induction s using scanBody.induct q generalizing t r with
  | case1 => cases h
  | case2 =>
    simp only [scanBody, ↓reduceIte, Option.some.injEq, Prod.mk.injEq] at h
    obtain ⟨rfl, rfl⟩ := h
    exact ⟨rfl, by simp⟩
  | case3 c hc => simp [scanBody, hc] at h
  | case4 rest ih =>
    simp only [scanBody, ↓reduceIte, Option.map_eq_some_iff, Prod.exists, Prod.mk.injEq] at h
    obtain ⟨t, r, h, rfl, rfl⟩ := h
    obtain ⟨rfl, hr⟩ := ih h
    exact ⟨by rw [double_cons_self]; rfl, hr⟩
  | case5 d rest hd =>
    simp only [scanBody, ↓reduceIte, hd, Option.some.injEq, Prod.mk.injEq] at h
    obtain ⟨rfl, rfl⟩ := h
    exact ⟨rfl, by simpa using hd⟩
  | case6 c d rest hc ih =>
    simp only [scanBody, hc, ↓reduceIte, Option.map_eq_some_iff, Prod.exists, Prod.mk.injEq] at h
    obtain ⟨t, r, h, rfl, rfl⟩ := h
    obtain ⟨htext, hr⟩ := ih h
    exact ⟨by rw [htext, double_cons_ne hc]; rfl, hr⟩

/-- A token is read if and only if a text comes first as it is written, and then no quote. -/
theorem scan_eq_some_iff {q : Char} {s t r : List Char} :
    scan q s = some (t, r) ↔ s = encode q t ++ r ∧ r.head? ≠ some q := by
  refine ⟨fun h => ?_, fun ⟨hs, hr⟩ => hs ▸ scan_encode q t r hr⟩
  cases s with
  | nil => cases h
  | cons c s =>
    by_cases hc : c = q
    · rw [scan, if_pos hc] at h
      obtain ⟨rfl, hr⟩ := eq_double_of_scanBody h
      exact ⟨by simp [encode, hc], hr⟩
    · rw [scan, if_neg hc] at h
      cases h

end CrateDdl.Text.Quoted

namespace CrateDdl.Text

/-- The text as a double-quoted identifier. -/
def identifier (s : String) : String := String.ofList (Quoted.encode '"' s.toList)

/-- The text as a single-quoted string literal. -/
def stringLiteral (s : String) : String := String.ofList (Quoted.encode '\x27' s.toList)

end CrateDdl.Text
