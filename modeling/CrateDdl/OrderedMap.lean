/-!
# Ordered maps

A map from names as a list of entries, each name at most once. Putting a value under a name that
is there already replaces the value and leaves the entry in its place; a new name goes to the end.
-/

set_option autoImplicit false

namespace CrateDdl

abbrev OrderedMap (α : Type) := List (String × α)

namespace OrderedMap

variable {α : Type}

def put (name : String) (value : α) : OrderedMap α → OrderedMap α
  | [] => [(name, value)]
  | entry :: rest =>
    if entry.1 = name then (name, value) :: rest else entry :: put name value rest

/-- The map of entries put one after the other. -/
def ofEntries (entries : List (String × α)) : OrderedMap α :=
  entries.foldl (fun map entry => put entry.1 entry.2 map) []

def get? (name : String) : OrderedMap α → Option α
  | [] => none
  | entry :: rest => if entry.1 = name then some entry.2 else get? name rest

/-- The names in the order of their entries. -/
def names (map : OrderedMap α) : List String := map.map (·.1)

theorem get?_put (name other : String) (value : α) (map : OrderedMap α) :
    get? other (put name value map) = if name = other then some value else get? other map := by
  induction map with
  | nil => simp [put, get?]
  | cons entry rest ih =>
    by_cases h : entry.1 = name
    · by_cases ho : name = other <;> simp [put, get?, h, ho]
    · by_cases ho : entry.1 = other
      · subst ho
        simp [put, get?, h, Ne.symm h]
      · simp [put, get?, h, ho, ih]

theorem names_put (name : String) (value : α) (map : OrderedMap α) :
    names (put name value map) = if name ∈ names map then names map else names map ++ [name] := by
  induction map with
  | nil => simp [put, names]
  | cons entry rest ih =>
    by_cases h : entry.1 = name
    · simp [put, names, h]
    · have hn : name ≠ entry.1 := Ne.symm h
      unfold names at ih ⊢
      by_cases hm : name ∈ rest.map (·.1)
      · simp_all [put]
      · simp_all [put]

theorem nodup_names_put (name : String) (value : α) {map : OrderedMap α}
    (h : (names map).Nodup) : (names (put name value map)).Nodup := by
  rw [names_put]
  split
  · exact h
  · next hn =>
    refine List.nodup_append.2 ⟨h, by simp, fun a ha b hb e => hn ?_⟩
    rw [List.mem_singleton.1 hb] at e
    exact e ▸ ha

end OrderedMap

end CrateDdl
