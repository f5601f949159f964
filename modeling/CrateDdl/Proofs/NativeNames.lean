import CrateDdl.Platform.TypeMapping
import CrateDdl.Proofs.LowerCase
import Mathlib.Data.List.Induction

/-!
# Native names

What a type mapping made of entries answers. The entries are put one after the other, under their
names in lower case: so a name has the place of the first entry and the type of the last one among
those whose names differ only in case (`lookups_exact`).

A name is looked up without its outer blanks, but entered with them. So every name without outer
blanks finds an entry of its own, and no look-up ever reaches the others (`own_names_found`).
-/

set_option autoImplicit false

namespace CrateDdl

namespace OrderedMap

variable {α : Type}

theorem ofEntries_concat (entries : List (String × α)) (entry : String × α) :
    ofEntries (entries ++ [entry]) = put entry.1 entry.2 (ofEntries entries) := by
  rw [ofEntries, List.foldl_append]
  rfl

/-- The last entry of a name gives the value. -/
theorem get?_ofEntries (name : String) (entries : List (String × α)) :
    get? name (ofEntries entries) =
      ((entries.filter fun entry => entry.1 = name).getLast?).map (·.2) := by
  -- from the right, as the entry put last decides
  induction entries using List.reverseRecOn with
  | nil => rfl
  | append_singleton entries entry ih =>
    rw [ofEntries_concat, get?_put, List.filter_append, List.getLast?_append]
    by_cases h : entry.1 = name
    · simp [h]
    · simp [h, ih]

/-- The first entry of a name gives the place. -/
theorem names_ofEntries (entries : List (String × α)) :
    names (ofEntries entries) = (entries.map (·.1)).eraseDups := by
  induction entries using List.reverseRecOn with
  | nil => rfl
  | append_singleton entries entry ih =>
    have hmem : entry.1 ∈ (entries.map (·.1)).eraseDups ↔ entry.1 ∈ entries.map (·.1) :=
      List.mem_eraseDups
    rw [ofEntries_concat, names_put, ih, List.map_append, List.eraseDups_append]
    by_cases h : entry.1 ∈ entries.map (·.1)
    · simp [List.removeAll, hmem.2 h, h]
    · simp [List.removeAll, h, List.eraseDups_cons]

theorem put_of_not_mem {name : String} {map : OrderedMap α} (h : name ∉ names map) (value : α) :
    put name value map = map ++ [(name, value)] := by
  induction map with
  | nil => rfl
  | cons entry rest ih =>
    obtain ⟨hne, hrest⟩ := List.ne_and_not_mem_of_not_mem_cons h
    rw [put, if_neg (Ne.symm hne), ih hrest, List.cons_append]

/-- Entries of different names are a map already. -/
theorem ofEntries_of_nodup {entries : List (String × α)} (h : (names entries).Nodup) :
    ofEntries entries = entries := by
  induction entries using List.reverseRecOn with
  | nil => rfl
  | append_singleton entries entry ih =>
    rw [names, List.map_append] at h
    obtain ⟨hentries, -, hne⟩ := List.nodup_append.1 h
    have hnew : entry.1 ∉ names entries := fun hmem => hne _ hmem _ List.mem_cons_self rfl
    rw [ofEntries_concat, ih hentries, put_of_not_mem hnew]

theorem isSome_get?_iff (name : String) (map : OrderedMap α) :
    (get? name map).isSome = true ↔ name ∈ names map := by
  induction map with
  | nil => simp [get?, names]
  | cons entry rest ih =>
    have hcons : names (entry :: rest) = entry.1 :: names rest := rfl
    by_cases h : entry.1 = name
    · simp [get?, hcons, h]
    · simp [get?, hcons, h, Ne.symm h, ih]

end OrderedMap

namespace Platform.TypeMapping

/-- The entries whose name is the given one in lower case. -/
def named (entries : List (String × LogicalType)) (name : String) : List (String × LogicalType) :=
  entries.filter fun entry => Text.lower entry.1 = name

/-- The entries whose name has no outer blanks. -/
def plain (entries : List (String × LogicalType)) : List (String × LogicalType) :=
  entries.filter fun entry => Text.strip entry.1 = entry.1

variable {entries others : List (String × LogicalType)}

/-! ## What a mapping answers -/

theorem logicalTypeFor_eq (mapping : TypeMapping) (native : String) (default : Value) :
    mapping.logicalTypeFor native default =
      ((mapping.find? native).map Value.logical).getD default := by
  unfold logicalTypeFor
  cases mapping.find? native <;> rfl

/-- The answers about a name depend on nothing but the entry that is found. -/
theorem answers_congr {mapping mapping' : TypeMapping} {native native' : String}
    (h : mapping.find? native = mapping'.find? native') :
    mapping.has native = mapping'.has native' ∧
      ∀ default, mapping.logicalTypeFor native default =
        mapping'.logicalTypeFor native' default := by
  simp [has, logicalTypeFor_eq, h]

theorem answers_of_some {mapping : TypeMapping} {native : String} {t : LogicalType}
    (h : mapping.find? native = some t) :
    mapping.has native = true ∧ ∀ default, mapping.logicalTypeFor native default = .logical t := by
  simp [has, logicalTypeFor_eq, h]

theorem answers_of_none {mapping : TypeMapping} {native : String}
    (h : mapping.find? native = none) :
    mapping.has native = false ∧ ∀ default, mapping.logicalTypeFor native default = default := by
  simp [has, logicalTypeFor_eq, h]

theorem has_iff_mem_nativeTypes (mapping : TypeMapping) (native : String) :
    mapping.has native = true ↔ lookupName native ∈ mapping.nativeTypes :=
  OrderedMap.isSome_get?_iff _ _

/-! ## A mapping of entries -/

theorem entries_ofEntries (h : (OrderedMap.names entries).Nodup) :
    (ofEntries entries).entries =
      OrderedMap.ofEntries (entries.map fun entry => (Text.lower entry.1, entry.2)) := by
  rw [ofEntries, OrderedMap.ofEntries_of_nodup h]

theorem nativeTypes_ofEntries (h : (OrderedMap.names entries).Nodup) :
    (ofEntries entries).nativeTypes =
      (entries.map fun entry => Text.lower entry.1).eraseDups := by
  rw [nativeTypes, entries_ofEntries h, OrderedMap.names_ofEntries, List.map_map]
  rfl

theorem filter_lowered (entries : List (String × LogicalType)) (name : String) :
    (entries.map fun entry => (Text.lower entry.1, entry.2)).filter (fun entry => entry.1 = name) =
      (named entries name).map fun entry => (Text.lower entry.1, entry.2) := by
  rw [List.filter_map, named]
  rfl

theorem find?_ofEntries (h : (OrderedMap.names entries).Nodup) (native : String) :
    (ofEntries entries).find? native =
      ((named entries (lookupName native)).getLast?).map (·.2) := by
  rw [find?, entries_ofEntries h, OrderedMap.get?_ofEntries, filter_lowered, List.getLast?_map,
    Option.map_map, Function.comp_def]

theorem mem_named {entry : String × LogicalType} {name : String} :
    entry ∈ named entries name ↔ entry ∈ entries ∧ Text.lower entry.1 = name := by
  simp [named]

theorem has_ofEntries_iff (h : (OrderedMap.names entries).Nodup) (native : String) :
    (ofEntries entries).has native = true ↔
      ∃ entry ∈ entries, Text.lower entry.1 = lookupName native := by
  rw [has_iff_mem_nativeTypes, nativeTypes_ofEntries h, List.mem_eraseDups, List.mem_map]

/-- A name that some entry has is found, with the type of the last such entry. -/
theorem answers_of_named (h : (OrderedMap.names entries).Nodup) {native : String}
    (hnamed : ∃ entry ∈ entries, Text.lower entry.1 = lookupName native) :
    (ofEntries entries).has native = true ∧
      ∃ last, (named entries (lookupName native)).getLast? = some last ∧
        ∀ default, (ofEntries entries).logicalTypeFor native default = .logical last.2 := by
  obtain ⟨entry, hmem, hname⟩ := hnamed
  have hne : named entries (lookupName native) ≠ [] :=
    List.ne_nil_of_mem (mem_named.2 ⟨hmem, hname⟩)
  have hlast := List.getLast?_eq_some_getLast hne
  have hfind := find?_ofEntries h native
  rw [hlast, Option.map_some] at hfind
  obtain ⟨hhas, htype⟩ := answers_of_some hfind
  exact ⟨hhas, _, hlast, htype⟩

theorem answers_of_unnamed (h : (OrderedMap.names entries).Nodup) {native : String}
    (hnamed : ¬ ∃ entry ∈ entries, Text.lower entry.1 = lookupName native) :
    (ofEntries entries).has native = false ∧
      ∀ default, (ofEntries entries).logicalTypeFor native default = default := by
  have hnil : named entries (lookupName native) = [] :=
    List.eq_nil_iff_forall_not_mem.2 fun entry hmem => hnamed ⟨entry, mem_named.1 hmem⟩
  apply answers_of_none
  rw [find?_ofEntries h, hnil, List.getLast?_nil, Option.map_none]

theorem logicalTypeFor_mem (h : (OrderedMap.names entries).Nodup) (native : String)
    (default : Value) :
    (ofEntries entries).logicalTypeFor native default = default ∨
      ∃ entry ∈ entries,
        (ofEntries entries).logicalTypeFor native default = .logical entry.2 := by
  by_cases hnamed : ∃ entry ∈ entries, Text.lower entry.1 = lookupName native
  · obtain ⟨-, last, hlast, htype⟩ := answers_of_named h hnamed
    exact .inr ⟨last, (mem_named.1 (List.mem_of_getLast? hlast)).1, htype default⟩
  · exact .inl ((answers_of_unnamed h hnamed).2 default)

/-! ## Names in another form -/

theorem lookupName_padded {before after : String} (hb : Text.Blank before.toList)
    (ha : Text.Blank after.toList) (name : String) :
    lookupName (before ++ name ++ after) = lookupName name := by
  rw [lookupName, Text.strip_padded hb ha, lookupName]

theorem lookupName_toLower (native : String) : lookupName native.toLower = lookupName native := by
  rw [lookupName, Text.strip_toLower, Text.lower_toLower, lookupName]

theorem lookupName_eq_of_toLower {native other : String} (h : native.toLower = other.toLower) :
    lookupName native = lookupName other := by
  rw [← lookupName_toLower, h, lookupName_toLower]

/-- Names that differ only in the case of ASCII letters make the same mapping. -/
theorem ofEntries_eq_of_toLower (h : (OrderedMap.names entries).Nodup)
    (ho : (OrderedMap.names others).Nodup)
    (hcase : others.map (fun entry => (entry.1.toLower, entry.2)) =
      entries.map fun entry => (entry.1.toLower, entry.2)) :
    ofEntries others = ofEntries entries := by
  have hlower := congrArg (List.map fun entry => (Text.lower entry.1, entry.2)) hcase
  simp only [List.map_map, Function.comp_def, Text.lower_toLower] at hlower
  rw [ofEntries, ofEntries, OrderedMap.ofEntries_of_nodup h, OrderedMap.ofEntries_of_nodup ho,
    hlower]

/-- **Look-ups, exactly.** A mapping of entries has their names in lower case, each once and in the
order of first appearance. A name that some entry has is found, with the type of the last such
entry; for any other the answer is the default. Outer blanks and the case of ASCII letters change no
answer. -/
theorem lookups_exact (h : (OrderedMap.names entries).Nodup) :
    (ofEntries entries).nativeTypes =
        (entries.map fun entry => Text.lower entry.1).eraseDups ∧
    (ofEntries entries).size = (ofEntries entries).nativeTypes.length ∧
    (∀ native,
      ((∃ entry ∈ entries, Text.lower entry.1 = Text.lower (Text.strip native)) →
        (ofEntries entries).has native = true ∧
        ∃ last, (named entries (Text.lower (Text.strip native))).getLast? = some last ∧
          ∀ default, (ofEntries entries).logicalTypeFor native default = .logical last.2) ∧
      ((¬ ∃ entry ∈ entries, Text.lower entry.1 = Text.lower (Text.strip native)) →
        (ofEntries entries).has native = false ∧
        ∀ default, (ofEntries entries).logicalTypeFor native default = default) ∧
      ∀ default, (ofEntries entries).logicalTypeFor native default = default ∨
        ∃ entry ∈ entries,
          (ofEntries entries).logicalTypeFor native default = .logical entry.2) ∧
    (∀ before name after : String, Text.Blank before.toList → Text.Blank after.toList →
      (ofEntries entries).has (before ++ name ++ after) = (ofEntries entries).has name ∧
      ∀ default, (ofEntries entries).logicalTypeFor (before ++ name ++ after) default =
        (ofEntries entries).logicalTypeFor name default) ∧
    (∀ others : List (String × LogicalType), (OrderedMap.names others).Nodup →
      others.map (fun entry => (entry.1.toLower, entry.2)) =
        entries.map (fun entry => (entry.1.toLower, entry.2)) →
      (ofEntries others).nativeTypes = (ofEntries entries).nativeTypes ∧
      ∀ native other : String, native.toLower = other.toLower →
        (ofEntries others).has native = (ofEntries entries).has other ∧
        ∀ default, (ofEntries others).logicalTypeFor native default =
          (ofEntries entries).logicalTypeFor other default) := by
  refine ⟨nativeTypes_ofEntries h, ?_, fun native => ?_, ?_, ?_⟩
  · exact (List.length_map _).symm
  · exact ⟨answers_of_named h, answers_of_unnamed h, logicalTypeFor_mem h native⟩
  · intro before name after hb ha
    apply answers_congr
    rw [find?, find?, lookupName_padded hb ha]
  · intro others ho hcase
    rw [ofEntries_eq_of_toLower h ho hcase]
    refine ⟨rfl, fun native other hname => answers_congr ?_⟩
    rw [find?, find?, lookupName_eq_of_toLower hname]

/-- Two names that differ in case, with a sigma that is final in both, and one with an outer
blank. -/
theorem lookups_exact_of_collision :
    let entries : List (String × LogicalType) :=
      [("ΟΔΟΣ", .integer), ("int", .integer), ("οδος", .text), (" bool", .boolean)]
    let others : List (String × LogicalType) :=
      [("ΟΔΟΣ", .integer), ("INT", .integer), ("οδος", .text), (" bool", .boolean)]
    (OrderedMap.names entries).Nodup ∧ (OrderedMap.names others).Nodup ∧
    (ofEntries entries).nativeTypes = ["οδος", "int", " bool"] ∧
    (ofEntries entries).size = 3 ∧
    (ofEntries entries).has "ΟΔΟΣ" = true ∧
    (ofEntries entries).logicalTypeFor "ΟΔΟΣ" .null = .logical .text ∧
    (ofEntries entries).logicalTypeFor "bool" (.logical .date) = .logical .date ∧
    (ofEntries entries).has ("\t" ++ "ΟΔΟΣ" ++ "\u00a0") = (ofEntries entries).has "ΟΔΟΣ" ∧
    (ofEntries others).has "INT" = (ofEntries entries).has "int" := by
  intro entries others
  have hentries : (OrderedMap.names entries).Nodup := by decide
  have hothers : (OrderedMap.names others).Nodup := by decide
  obtain ⟨hnames, hsize, hnative, hpadded, hcase⟩ := lookups_exact hentries
  have hthree : (ofEntries entries).nativeTypes = ["οδος", "int", " bool"] :=
    hnames.trans (by decide +kernel)
  have hlast : (named entries (Text.lower (Text.strip "ΟΔΟΣ"))).getLast? =
      some ("οδος", .text) := by decide +kernel
  obtain ⟨hfound, last, hlast', htype⟩ := (hnative "ΟΔΟΣ").1 (by decide +kernel)
  cases hlast.symm.trans hlast'
  obtain ⟨-, hmissing⟩ := (hnative "bool").2.1 (by decide +kernel)
  have hblank := hpadded "\t" "ΟΔΟΣ" "\u00a0" (by decide +kernel) (by decide +kernel)
  have hint : "INT".toLower = "int".toLower := by
    rw [← String.toList_inj, Text.toList_toLower, Text.toList_toLower]
    decide
  have hother := (hcase others hothers (by simp [entries, others, hint])).2 "INT" "int" hint
  refine ⟨hentries, hothers, hthree, ?_, hfound, htype .null, hmissing _, hblank.1, hother.1⟩
  rw [hsize, hthree]
  rfl

/-! ## The names of the entries -/

/-- A name that is looked up has no outer blanks, so an entry that has it has none either. -/
theorem strip_eq_of_lookupName {name native : String}
    (h : Text.lower name = lookupName native) : Text.strip name = name := by
  rw [← Text.lower_strip_eq_iff]
  calc Text.lower (Text.strip name) = Text.strip (Text.lower name) := (Text.strip_lower name).symm
    _ = Text.strip (Text.lower (Text.strip native)) := by rw [h, lookupName]
    _ = Text.lower (Text.strip native) := by rw [Text.strip_lower, Text.strip_strip]
    _ = Text.lower name := h.symm

theorem nodup_names_plain (h : (OrderedMap.names entries).Nodup) :
    (OrderedMap.names (plain entries)).Nodup :=
  h.sublist (List.filter_sublist.map _)

theorem named_plain (entries : List (String × LogicalType)) (native : String) :
    named (plain entries) (lookupName native) = named entries (lookupName native) := by
  rw [named, plain, List.filter_filter, named]
  refine List.filter_congr fun entry _ => ?_
  by_cases h : Text.lower entry.1 = lookupName native
  · simp [h, strip_eq_of_lookupName h]
  · simp [h]

/-- A name that the mapping has is looked up without its outer blanks, and otherwise as it is. -/
theorem lookupName_of_mem_nativeTypes (h : (OrderedMap.names entries).Nodup) {native : String}
    (hmem : native ∈ (ofEntries entries).nativeTypes) : lookupName native = Text.strip native := by
  rw [nativeTypes_ofEntries h, List.mem_eraseDups, List.mem_map] at hmem
  obtain ⟨entry, -, rfl⟩ := hmem
  rw [lookupName, ← Text.strip_lower, Text.lower_lower]

/-- **Which names are found again.** An entry whose name has no outer blanks is found under that
name, with the type of the last entry of that name up to case. Entries with outer blanks in their
names are never found: the answers are those of the other entries. A name among the native types is
found if and only if it is there without its outer blanks. -/
theorem own_names_found (h : (OrderedMap.names entries).Nodup) :
    (∀ entry ∈ plain entries, (ofEntries entries).has entry.1 = true ∧
      ∃ last, (named entries (Text.lower entry.1)).getLast? = some last ∧
        ∀ default, (ofEntries entries).logicalTypeFor entry.1 default = .logical last.2) ∧
    (∀ native, (ofEntries entries).has native = true ↔
      ∃ entry ∈ plain entries, Text.lower entry.1 = Text.lower (Text.strip native)) ∧
    (∀ native, (ofEntries entries).has native = (ofEntries (plain entries)).has native ∧
      ∀ default, (ofEntries entries).logicalTypeFor native default =
        (ofEntries (plain entries)).logicalTypeFor native default) ∧
    ∀ native ∈ (ofEntries entries).nativeTypes,
      (ofEntries entries).has native = true ↔
        Text.strip native ∈ (ofEntries entries).nativeTypes := by
  have hplain := nodup_names_plain h
  -- only entries without outer blanks can have a name in the form in which names are looked up
  have hfind (native : String) :
      (ofEntries entries).find? native = (ofEntries (plain entries)).find? native := by
    rw [find?_ofEntries h, find?_ofEntries hplain, named_plain]
  refine ⟨fun entry hentry => ?_, fun native => ?_, fun native => answers_congr (hfind native),
    fun native hnative => ?_⟩
  · obtain ⟨hmem, hstrip⟩ := List.mem_filter.1 hentry
    have hname : lookupName entry.1 = Text.lower entry.1 :=
      congrArg Text.lower (of_decide_eq_true hstrip)
    rw [← hname]
    exact answers_of_named h ⟨entry, hmem, hname.symm⟩
  · rw [(answers_congr (hfind native)).1, has_ofEntries_iff hplain, lookupName]
  · rw [has_iff_mem_nativeTypes, lookupName_of_mem_nativeTypes h hnative]

/-- A name with an outer blank is found through another entry, or not at all. -/
theorem own_names_found_of_mixed :
    let entries : List (String × LogicalType) :=
      [("Int", .integer), (" int", .text), ("INT", .bigint), ("bool\u2003", .boolean)]
    (OrderedMap.names entries).Nodup ∧
    (ofEntries entries).has "Int" = true ∧
    (ofEntries entries).logicalTypeFor "Int" .null = .logical .bigint ∧
    (ofEntries entries).has " int" = true ∧
    (ofEntries entries).has "bool\u2003" = false := by
  intro entries
  have hentries : (OrderedMap.names entries).Nodup := by decide
  obtain ⟨hown, hfound, -, hnative⟩ := own_names_found hentries
  obtain ⟨hint, last, hlast, htype⟩ := hown ("Int", .integer) (by decide +kernel)
  have hbigint : (named entries (Text.lower "Int")).getLast? = some ("INT", .bigint) := by
    decide +kernel
  cases hbigint.symm.trans hlast
  have hpadded := (hfound " int").2 ⟨("Int", .integer), by decide +kernel, by decide +kernel⟩
  have hlost : ¬ (ofEntries entries).has "bool\u2003" = true := by
    rw [hnative "bool\u2003" (by decide +kernel)]
    decide +kernel
  exact ⟨hentries, hint, htype .null, hpadded, Bool.eq_false_iff.2 hlost⟩

/-- A name with an outer blank, alone: it is among the native types and is not found. -/
theorem padded_name_not_found :
    (OrderedMap.names [(" int", LogicalType.integer)]).Nodup ∧
    " int" ∈ (ofEntries [(" int", .integer)]).nativeTypes ∧
    (ofEntries [(" int", .integer)]).has " int" = false ∧
    (ofEntries [(" int", .integer)]).logicalTypeFor " int" .null = .null := by
  have hnone : (ofEntries [(" int", .integer)]).find? " int" = none := by decide +kernel
  obtain ⟨hmissing, hdefault⟩ := answers_of_none hnone
  exact ⟨by decide, by decide +kernel, hmissing, hdefault .null⟩

end Platform.TypeMapping

end CrateDdl
