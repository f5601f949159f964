import CrateDdl.Platform.Selection
import CrateDdl.Proofs.LowerCase

/-!
# Names of platforms

Which names choose a platform (`names_accepted`), and when a name may be qualified
(`qualified_accepted_iff`). What decides is the part of a name before the first plus sign. A plus
sign is no letter, so that part can be cut off before the name is put in lower case or after
(`beforePlus_lowerFrom`), and its letters come from no others (`Text.lower_eq_iff_of_plain`).

The blanks around a name are dropped before it is cut: those behind its base are dropped only where
nothing follows.
-/

set_option autoImplicit false

namespace CrateDdl

namespace Text

/-! ## Up to a plus sign -/

theorem plus_mem_lowerChar {c : Char} (h : '+' ∈ lowerChar c) : c = '+' := by
  have hplus := toLower_of_mem_lowerChar (d := '+') (by decide) h
  rcases toLower_cases c with hself | ⟨-, -, -, -, hascii⟩
  · rw [← hself, hplus]
  · rw [hplus] at hascii
    exact absurd hascii (by decide)

theorem caseless_plus : isCaseIgnorable '+' = false ∧ isCased '+' = false := by decide +kernel

/-- The characters before the first plus sign. -/
def beforePlus (s : List Char) : List Char := s.takeWhile (· ≠ '+')

section
variable {c : Char} {s : List Char}

@[simp] theorem beforePlus_nil : beforePlus [] = [] := rfl

@[simp] theorem beforePlus_plus (s : List Char) : beforePlus ('+' :: s) = [] := rfl

theorem beforePlus_cons (hc : c ≠ '+') (s : List Char) :
    beforePlus (c :: s) = c :: beforePlus s :=
  List.takeWhile_cons_of_pos (by simpa using hc)

theorem beforePlus_append (h : '+' ∉ s) (rest : List Char) :
    beforePlus (s ++ rest) = s ++ beforePlus rest :=
  List.takeWhile_append_of_pos fun c hc => by
    simp only [decide_eq_true_eq]
    rintro rfl
    exact h hc

theorem beforePlus_eq_self (h : '+' ∉ s) : beforePlus s = s := by
  simpa using beforePlus_append h []

theorem beforePlus_append_plus : ∀ s rest : List Char,
    beforePlus (s ++ '+' :: rest) = beforePlus s
  | [], _ => rfl
  | c :: s, rest => by
    by_cases hc : c = '+'
    · subst hc
      rfl
    · rw [List.cons_append, beforePlus_cons hc, beforePlus_cons hc, beforePlus_append_plus s rest]

/-- A text has no plus sign, or the first one behind what stands before it. -/
theorem beforePlus_split : ∀ s : List Char,
    '+' ∉ s ∨ ∃ rest, s = beforePlus s ++ '+' :: rest
  | [] => .inl List.not_mem_nil
  | c :: s => by
    by_cases hc : c = '+'
    · subst hc
      exact .inr ⟨s, rfl⟩
    · rw [beforePlus_cons hc]
      rcases beforePlus_split s with hnone | ⟨rest, hsplit⟩
      · exact .inl (List.not_mem_cons_of_ne_of_not_mem (Ne.symm hc) hnone)
      · exact .inr ⟨rest, congrArg (c :: ·) hsplit⟩

theorem beforeCased_beforePlus : ∀ s : List Char, beforeCased (beforePlus s) = beforeCased s
  | [] => rfl
  | c :: s => by
    by_cases hc : c = '+'
    · subst hc
      simp [beforeCased, caseless_plus]
    · rw [beforePlus_cons hc, beforeCased, beforeCased, beforeCased_beforePlus s]

/-- A plus sign ends a word, so what stands before it can be put in lower case by itself. -/
theorem beforePlus_lowerFrom : ∀ (s : List Char) (cased : Bool),
    beforePlus (lowerFrom cased s) = lowerFrom cased (beforePlus s)
  | [], _ => rfl
  | c :: s, cased => by
    by_cases hc : c = '+'
    · subst hc
      rw [lowerFrom_cons_of_plain (d := '+') (by decide) (by decide), beforePlus_plus,
        beforePlus_plus, lowerFrom]
    · rw [beforePlus_cons hc, lowerFrom, lowerFrom, beforeCased_beforePlus, beforePlus_append,
        beforePlus_lowerFrom s]
      split
      · decide
      · exact fun h => hc (plus_mem_lowerChar h)

end

end Text

namespace Platform

/-! ## Names -/

/-- A name of the database, with each letter of ASCII in any case. -/
def IsBase (base : String) : Prop := base.toLower = "crate" ∨ base.toLower = "cratedb"

/-- A name of the database, alone or with a plus sign and any text behind it. -/
inductive Names : String → Prop
  | alone {base : String} : IsBase base → Names base
  | qualified {base : String} : IsBase base → ∀ driver, Names (base ++ "+" ++ driver)

/-- The part of a name before the first plus sign. -/
def baseOf (name : String) : String := String.ofList (Text.beforePlus name.toList)

@[simp] theorem toList_baseOf (name : String) :
    (baseOf name).toList = Text.beforePlus name.toList := by
  simp [baseOf]

section
variable {base name : String}

theorem IsBase.toLower_mem (h : IsBase base) {c : Char} (hc : c ∈ base.toList) :
    c.toLower ∈ "cratedb".toList := by
  have hmem : c.toLower ∈ base.toLower.toList := by
    rw [Text.toList_toLower]
    exact List.mem_map_of_mem hc
  rcases h with h | h <;> rw [h] at hmem
  · exact List.mem_append_left ['d', 'b'] hmem
  · exact hmem

theorem IsBase.plus_not_mem (h : IsBase base) : '+' ∉ base.toList := fun hc =>
  absurd (h.toLower_mem hc) (by decide)

theorem IsBase.not_blank (h : IsBase base) {c : Char} (hc : c ∈ base.toList) :
    Text.isBlank c = false := by
  have hletters : "cratedb".toList.any Text.isBlank = false := by decide
  rw [← (Text.toLower_alike c).2.2.2]
  exact Bool.eq_false_iff.2 (List.any_eq_false.1 hletters _ (h.toLower_mem hc))

theorem IsBase.ascii (h : IsBase base) {c : Char} (hc : c ∈ base.toList) : c.toNat < 128 := by
  have hletters : "cratedb".toList.all (·.toNat < 128) = true := by decide
  rcases Text.toLower_cases c with hself | ⟨-, -, -, hascii, -⟩
  · rw [← hself]
    exact of_decide_eq_true (List.all_eq_true.1 hletters _ (h.toLower_mem hc))
  · obtain ⟨r, hr, -, hlast⟩ := Text.inRanges_iff.1 hascii
    have hbound : ∀ r ∈ Text.asciiLetters, r.last < 128 := by decide
    exact Nat.lt_of_le_of_lt hlast (hbound r hr)

theorem IsBase.ne_nil (h : IsBase base) : base.toList ≠ [] := by
  intro hnil
  have hlower : base.toLower.toList = [] := by rw [Text.toList_toLower, hnil, List.map_nil]
  rcases h with h | h <;> rw [h] at hlower <;> exact absurd hlower (by decide)

theorem toList_qualified (base driver : String) :
    (base ++ "+" ++ driver).toList = base.toList ++ '+' :: driver.toList := by
  simp [String.toList_append]

theorem baseOf_qualified (base driver : String) :
    baseOf (base ++ "+" ++ driver) = baseOf base := by
  rw [baseOf, toList_qualified, Text.beforePlus_append_plus, baseOf]

theorem baseOf_eq_self (h : '+' ∉ base.toList) : baseOf base = base := by
  rw [← String.toList_inj, toList_baseOf, Text.beforePlus_eq_self h]

/-- A text has no plus sign, or it is qualified by what is behind the first one. -/
theorem baseOf_split (name : String) :
    '+' ∉ name.toList ∨ ∃ driver, name = baseOf name ++ "+" ++ driver := by
  refine (Text.beforePlus_split name.toList).imp_right fun ⟨rest, hsplit⟩ => ?_
  refine ⟨String.ofList rest, ?_⟩
  rw [← String.toList_inj, toList_qualified, toList_baseOf, String.toList_ofList]
  exact hsplit

theorem names_iff : Names name ↔ IsBase (baseOf name) := by
  constructor
  · intro h
    cases h with
    | alone h => rwa [baseOf_eq_self h.plus_not_mem]
    | qualified h driver => rwa [baseOf_qualified, baseOf_eq_self h.plus_not_mem]
  · intro h
    rcases baseOf_split name with hnone | ⟨driver, hqualified⟩
    · rw [baseOf_eq_self hnone] at h
      exact .alone h
    · rw [hqualified]
      exact .qualified h driver

/-! ## Choosing by name -/

/-- The fault of a name that is not known. -/
def unknownName (name : String) : Fault :=
  .configuration (.text ("Unknown platform '" ++ name ++ "'; expected one of crate, cratedb"))

theorem baseName_eq (name : String) : baseName name = Text.lower (baseOf (Text.strip name)) := by
  rw [← String.toList_inj, Text.toList_lower, toList_baseOf, Text.lowerChars,
    ← Text.beforePlus_lowerFrom, baseName, String.toList_ofList, Text.toList_lower]
  rfl

theorem available_iff (name : String) :
    available.contains (baseName name) = true ↔ Names (Text.strip name) := by
  have hcrate : "crate".toList.all Text.isPlain = true := by decide
  have hcratedb : "cratedb".toList.all Text.isPlain = true := by decide
  rw [names_iff, IsBase, ← Text.lower_eq_iff_of_plain (List.all_eq_true.1 hcrate),
    ← Text.lower_eq_iff_of_plain (List.all_eq_true.1 hcratedb), baseName_eq,
    List.contains_iff_mem, available, List.mem_pair]

theorem ofName_of_names (h : Names (Text.strip name)) : ofName name = .ok {} := by
  rw [ofName, if_pos ((available_iff name).2 h)]

theorem ofName_of_not_names (h : ¬ Names (Text.strip name)) :
    ofName name = .error (unknownName name) := by
  rw [ofName, if_neg (mt (available_iff name).1 h), unknownName, String.append_assoc,
    String.append_assoc]
  rfl

theorem ofName_eq_ok_iff : ofName name = .ok {} ↔ Names (Text.strip name) := by
  refine ⟨fun h => ?_, ofName_of_names⟩
  by_contra hnot
  rw [ofName_of_not_names hnot] at h
  cases h

theorem ofName_eq_error_iff {fault : Fault} :
    ofName name = .error fault ↔ ¬ Names (Text.strip name) ∧ fault = unknownName name := by
  by_cases h : Names (Text.strip name)
  · simp [ofName_of_names h, h]
  · simp [ofName_of_not_names h, h, eq_comm]

/-! ## Choosing by the environment -/

/-- The environment names nothing: the variable is not set, or set to nothing but blanks. -/
def NamesNothing (setting : Option String) : Prop := ∀ value ∈ setting, Text.Blank value.toList

/-- The fault of a variable that is needed and names nothing. -/
def notSet (source : String) : Fault :=
  .configuration (.text ("Environment variable " ++ source ++ " is not set"))

variable {source value : String} {setting default : Option String}

theorem strip_getD_eq_empty_iff : Text.strip (setting.getD "") = "" ↔ NamesNothing setting := by
  cases setting with
  | none => simp [NamesNothing, Text.strip_eq_empty_iff, Text.Blank]
  | some value => simp [NamesNothing, Text.strip_eq_empty_iff]

theorem ofEnvironment_of_value (h : ¬ Text.Blank value.toList) :
    ofEnvironment source (some value) default = ofName (Text.strip value) := by
  have hne : Text.strip value ≠ "" := mt (Text.strip_eq_empty_iff value).1 h
  simp [ofEnvironment, hne]

theorem ofEnvironment_of_namesNothing (h : NamesNothing setting) :
    ofEnvironment source setting default =
      if default.getD "" = "" then .error (notSet source) else ofName (default.getD "") := by
  simp [ofEnvironment, strip_getD_eq_empty_iff.2 h, notSet]

theorem ofName_strip_eq_ok_iff : ofName (Text.strip name) = .ok {} ↔ ofName name = .ok {} := by
  rw [ofName_eq_ok_iff, ofName_eq_ok_iff, Text.strip_strip]

theorem unknownName_ne_notSet (name source : String) : unknownName name ≠ notSet source := by
  intro h
  have htext := congrArg String.toList (Value.text.inj (Fault.configuration.inj h))
  have hhead := congrArg List.head? htext
  simp only [String.toList_append] at hhead
  exact absurd hhead (by simp)

theorem ofName_ne_notSet (name source : String) : ofName name ≠ .error (notSet source) := fun h =>
  unknownName_ne_notSet name source (ofName_eq_error_iff.1 h).2.symm

theorem exists_of_not_namesNothing (h : ¬ NamesNothing setting) :
    ∃ value, setting = some value ∧ ¬ Text.Blank value.toList := by
  unfold NamesNothing at h
  push Not at h
  exact h

theorem ofEnvironment_eq_ok_iff :
    ofEnvironment source setting default = .ok {} ↔
      (∃ value, setting = some value ∧ ¬ Text.Blank value.toList ∧ ofName value = .ok {}) ∨
        NamesNothing setting ∧ ∃ name, default = some name ∧ name ≠ "" ∧ ofName name = .ok {} := by
  by_cases h : NamesNothing setting
  · have hno : ¬ ∃ value, setting = some value ∧ ¬ Text.Blank value.toList ∧
        ofName value = .ok {} := fun ⟨value, hs, hb, _⟩ => hb (h value hs)
    rw [ofEnvironment_of_namesNothing h]
    cases default with
    | none => simp [hno]
    | some name => by_cases hname : name = "" <;> simp [hno, h, hname]
  · obtain ⟨value, rfl, hvalue⟩ := exists_of_not_namesNothing h
    simp [ofEnvironment_of_value hvalue, ofName_strip_eq_ok_iff, h, hvalue]

theorem ofEnvironment_eq_notSet_iff :
    ofEnvironment source setting default = .error (notSet source) ↔
      NamesNothing setting ∧ (default = none ∨ default = some "") := by
  by_cases h : NamesNothing setting
  · rw [ofEnvironment_of_namesNothing h]
    cases default with
    | none => simp [h]
    | some name => by_cases hname : name = "" <;> simp [h, hname, ofName_ne_notSet]
  · obtain ⟨value, rfl, hvalue⟩ := exists_of_not_namesNothing h
    simp [ofEnvironment_of_value hvalue, ofName_ne_notSet, h]

/-- **Which names are accepted.** A name is accepted if and only if it is, without its outer blanks,
a name of the database with each letter of ASCII in any case, alone or with a plus sign and any text
behind it; there is nothing beyond ASCII in front of the plus sign of an accepted name. The fault of
any other name shows the name as it was given. The environment is followed if it names something,
and otherwise the default, if that is not empty; if neither names anything, the fault is that the
variable is not set. -/
theorem names_accepted (name : String) :
    (ofName name = .ok {} ↔ Names (Text.strip name)) ∧
    (∀ fault, ofName name = .error fault ↔
      ¬ Names (Text.strip name) ∧ fault = .configuration (.text
        ("Unknown platform '" ++ name ++ "'; expected one of crate, cratedb"))) ∧
    (ofName name = .ok {} → ∀ c ∈ (baseOf (Text.strip name)).toList, c.toNat < 128) ∧
    ∀ source setting default,
      (ofEnvironment source setting default = .ok {} ↔
        (∃ value, setting = some value ∧ ¬ Text.Blank value.toList ∧ ofName value = .ok {}) ∨
          NamesNothing setting ∧
            ∃ other, default = some other ∧ other ≠ "" ∧ ofName other = .ok {}) ∧
      (ofEnvironment source setting default = .error (.configuration (.text
          ("Environment variable " ++ source ++ " is not set"))) ↔
        NamesNothing setting ∧ (default = none ∨ default = some "")) := by
  refine ⟨ofName_eq_ok_iff, fun _ => ofName_eq_error_iff, fun h c hc => ?_, fun _ _ _ => ?_⟩
  · exact (names_iff.1 (ofName_eq_ok_iff.1 h)).ascii hc
  · exact ⟨ofEnvironment_eq_ok_iff, ofEnvironment_eq_notSet_iff⟩

/-! ## Qualified names -/

/-- A text without the blanks in front of it. -/
def trimStart (s : String) : String := String.ofList (s.toList.dropWhile Text.isBlank)

theorem baseOf_strip_qualified (base driver : String) :
    baseOf (Text.strip (base ++ "+" ++ driver)) = baseOf (trimStart base) := by
  have hplus : Text.isBlank '+' = false := by decide
  rw [baseOf, Text.toList_strip, toList_qualified, Text.stripChars,
    Text.trimChars_append_cons hplus, Text.beforePlus_append_plus, baseOf, trimStart,
    String.toList_ofList]

theorem baseOf_trimStart_qualified (base driver : String) :
    baseOf (trimStart (base ++ "+" ++ driver)) = baseOf (trimStart base) := by
  have hplus : Text.isBlank '+' = false := by decide
  rw [baseOf, trimStart, String.toList_ofList, toList_qualified, Text.dropWhile_append_cons hplus,
    Text.beforePlus_append_plus, baseOf, trimStart, String.toList_ofList]

/-- Blanks behind the first plus sign make no difference to what stands before it. -/
theorem baseOf_strip_of_plus (h : '+' ∈ base.toList) :
    baseOf (Text.strip base) = baseOf (trimStart base) := by
  obtain ⟨driver, hqualified⟩ := (baseOf_split base).resolve_left (not_not_intro h)
  rw [hqualified, baseOf_strip_qualified, baseOf_trimStart_qualified]

theorem strip_of_last (h : ∀ c ∈ base.toList.getLast?, Text.isBlank c = false) :
    Text.strip base = trimStart base := by
  rw [Text.strip, Text.stripChars, Text.trimChars_of_last h, trimStart]

/-- Blanks behind a name of the database are a part of it, if only those in front are dropped. -/
theorem isBase_trimStart_iff (base : String) :
    IsBase (trimStart base) ↔
      IsBase (Text.strip base) ∧ ∀ c ∈ base.toList.getLast?, Text.isBlank c = false := by
  constructor
  · intro h
    have hlast : ∀ c ∈ base.toList.getLast?, Text.isBlank c = false := by
      intro c hc
      have hne : base.toList.dropWhile Text.isBlank ≠ [] := by simpa [trimStart] using h.ne_nil
      rw [← Text.getLast?_dropWhile hne] at hc
      exact h.not_blank (by simpa [trimStart] using List.mem_of_getLast? hc)
    rw [strip_of_last hlast]
    exact ⟨h, hlast⟩
  · rintro ⟨h, hlast⟩
    rwa [← strip_of_last hlast]

theorem plus_not_mem_trimStart (h : '+' ∉ base.toList) : '+' ∉ (trimStart base).toList := by
  rw [trimStart, String.toList_ofList]
  exact fun hmem => h ((List.dropWhile_sublist _).mem hmem)

theorem plus_not_mem_strip (h : '+' ∉ base.toList) : '+' ∉ (Text.strip base).toList :=
  mt Text.mem_of_mem_strip h

/-- **Qualified names.** A qualified name is accepted if and only if its base is accepted and either
has a plus sign itself or no blank at its end. -/
theorem qualified_accepted_iff (base driver : String) :
    (ofName (base ++ "+" ++ driver) = .ok {} ↔
      ofName base = .ok {} ∧
        ('+' ∈ base.toList ∨ ∀ c ∈ base.toList.getLast?, Text.isBlank c = false)) ∧
    ((ofName (base ++ "+" ++ driver) = .ok {} ↔ ofName base = .ok {}) ↔
      (ofName base = .ok {} →
        '+' ∈ base.toList ∨ ∀ c ∈ base.toList.getLast?, Text.isBlank c = false)) := by
  have hiff : ofName (base ++ "+" ++ driver) = .ok {} ↔ ofName base = .ok {} ∧
      ('+' ∈ base.toList ∨ ∀ c ∈ base.toList.getLast?, Text.isBlank c = false) := by
    rw [ofName_eq_ok_iff, ofName_eq_ok_iff, names_iff, names_iff, baseOf_strip_qualified]
    by_cases hplus : '+' ∈ base.toList
    · simp [baseOf_strip_of_plus hplus, hplus]
    · rw [baseOf_eq_self (plus_not_mem_trimStart hplus), baseOf_eq_self (plus_not_mem_strip hplus),
        isBase_trimStart_iff]
      simp [hplus]
  exact ⟨hiff, by rw [hiff, and_iff_left_iff_imp]⟩

/-- A base with a blank at its end is accepted alone, and not with a driver. -/
theorem padded_base_not_qualified :
    ofName "crate " = .ok {} ∧
      ofName ("crate " ++ "+" ++ "http") = .error (.configuration (.text
        "Unknown platform 'crate +http'; expected one of crate, cratedb")) := by
  constructor
  · rfl
  · rfl

end

end Platform

end CrateDdl
