import Mathlib

/-!
# Fields by their names

What stands under a name in a list of fields, and which fields are options.  The order of the fields
does not matter if no two have the same name (`AreOptions.lookup_eq`).
-/

namespace SecretScan.Toml

variable {α β : Type}

/-! ## 1. Names -/

/-- What stands under a name. -/
def lookup (fields : List (String × α)) (name : String) : Option α :=
  (fields.find? (·.1 == name)).map (·.2)

theorem lookup_append (fields fields' : List (String × α)) (name : String) :
    lookup (fields ++ fields') name = (lookup fields name).or (lookup fields' name) := by
  rw [lookup, List.find?_append, Option.map_or]
  rfl

theorem lookup_map (f : α → β) (fields : List (String × α)) (name : String) :
    lookup (fields.map fun field => (field.1, f field.2)) name = (lookup fields name).map f := by
  rw [lookup, List.find?_map, lookup, Option.map_map, Option.map_map]
  rfl

theorem lookup_eq_none {fields : List (String × α)} {name : String}
    (h : name ∉ fields.map Prod.fst) : lookup fields name = none := by
  simp only [List.mem_map, not_exists, not_and] at h
  simpa [lookup] using h

theorem lookup_eq_some_iff {fields : List (String × α)} (h : (fields.map Prod.fst).Nodup)
    {name : String} {v : α} : lookup fields name = some v ↔ (name, v) ∈ fields := by
  constructor
  · intro hlookup
    obtain ⟨⟨key, _⟩, hfind, rfl⟩ := Option.map_eq_some_iff.mp hlookup
    have hkey : key = name := by simpa using List.find?_some hfind
    exact hkey ▸ List.mem_of_find?_eq_some hfind
  · intro hmem
    obtain ⟨field, hfind⟩ : ∃ field, fields.find? (·.1 == name) = some field := by
      apply Option.isSome_iff_exists.mp
      exact List.find?_isSome.mpr ⟨_, hmem, beq_self_eq_true name⟩
    have hkey : field.1 = name := by simpa using List.find?_some hfind
    -- there is only one field with this name
    have hfield : field = (name, v) :=
      List.inj_on_of_nodup_map h (List.mem_of_find?_eq_some hfind) hmem hkey
    rw [lookup, hfind, hfield]
    rfl

/-! ## 2. Options -/

/-- The options that have values. -/
def present (options : List (String × Option α)) : List (String × α) :=
  options.filterMap fun option => option.2.map (option.1, ·)

theorem mem_present_iff {options : List (String × Option α)} (h : (options.map Prod.fst).Nodup)
    {option : String × Option α} (hoption : option ∈ options) {v : α} :
    (option.1, v) ∈ present options ↔ option.2 = some v := by
  simp only [present, List.mem_filterMap, Option.map_eq_some_iff, Prod.mk.injEq]
  constructor
  · rintro ⟨other, hother, _, hvalue, hname, rfl⟩
    exact List.inj_on_of_nodup_map h hother hoption hname ▸ hvalue
  · intro hvalue
    exact ⟨option, hoption, v, hvalue, rfl, rfl⟩

/-- The fields that are named like options are the options that have values, in any order. -/
def AreOptions (options : List (String × Option α)) (fields : List (String × α)) : Prop :=
  (fields.filter (·.1 ∈ options.map Prod.fst)).Perm (present options)

instance [DecidableEq α] (options : List (String × Option α)) (fields : List (String × α)) :
    Decidable (AreOptions options fields) :=
  inferInstanceAs (Decidable (List.Perm _ _))

theorem AreOptions.lookup_eq {options : List (String × Option α)} {fields : List (String × α)}
    (h : AreOptions options fields) (hnames : (options.map Prod.fst).Nodup)
    (hkeys : (fields.map Prod.fst).Nodup) {option : String × Option α} (hoption : option ∈ options) :
    lookup fields option.1 = option.2 := by
  apply Option.ext
  intro v
  rw [lookup_eq_some_iff hkeys, ← mem_present_iff hnames hoption, ← h.mem_iff, List.mem_filter]
  have hname : option.1 ∈ options.map Prod.fst := List.mem_map_of_mem hoption
  simp [hname]

end SecretScan.Toml
