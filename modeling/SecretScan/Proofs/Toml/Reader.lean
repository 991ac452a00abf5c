import SecretScan.Proofs.Toml.Fields
import SecretScan.Proofs.Toml.Values

/-!
# Reading plain documents

The reader gives the contents of every plain document whose keys are distinct: its fields, and after
them its tables (`Document.IsText.read_eq`).
-/

namespace SecretScan.Toml

open Json (dropWhile_word takeWhile_word)

/-! ## 1. Lines -/

theorem IsBare.head {key : String} (h : IsBare key) (t : List Char) :
    ∀ c ∈ (key.toList ++ t).head?, isKeyChar c = true := by
  obtain ⟨first, cs, hcs⟩ := List.exists_cons_of_ne_nil h.1
  rw [hcs]
  intro c hc
  exact Option.some.inj hc ▸ h.2 first (hcs ▸ List.mem_cons_self)

theorem readKey_eq {key : String} (h : IsBare key) {rest : List Char}
    (hrest : ∀ c ∈ rest.head?, isKeyChar c = false) :
    readKey (key.toList ++ rest) = .ok (key, rest) := by
  rw [readKey]
  · rw [takeWhile_word h.2 hrest, dropWhile_word h.2 hrest, if_neg (by simpa using h.1),
      String.ofList_toList]
  · exact ne_cons_of_head (h.head rest) rfl
  · exact ne_cons_of_head (h.head rest) rfl

theorem Spaces.not_isKeyChar {t rest : List Char} {c : Char} (h : Spaces t (c :: rest))
    (hc : isKeyChar c = false) : ∀ d ∈ t.head?, isKeyChar d = false := by
  intro d hd
  rcases h.head d hd with hspace | hd
  · rcases Bool.or_eq_true_iff.mp hspace with h | h <;> rw [beq_iff_eq.mp h] <;> rfl
  · exact Option.some.inj hd ▸ hc

theorem readPath_eq {key : String} (h : IsBare key) {t rest : List Char} {c : Char}
    (hspaces : Spaces t (c :: rest)) (hspace : isSpace c = false) (hkey : isKeyChar c = false)
    (hdot : c ≠ '.') (fuel : Nat) :
    readPath (fuel + 1) (key.toList ++ t) = .ok ([key], c :: rest) := by
  rw [readPath, readKey_eq h (hspaces.not_isKeyChar hkey)]
  simp only [bind, Except.bind, hspaces.skipSpaces_eq_cons hspace]
  split
  next heq => cases heq; exact absurd rfl hdot
  next => rfl

theorem Spells.head {t rest : List Char} {v : Plain} (h : Spells t v rest) :
    ∀ c ∈ t.head?, isSpace c = false := by
  intro c hc
  cases h with
  | trueName | falseName | string | strings => exact Option.some.inj hc ▸ rfl
  | integer h => exact not_isSpace (isSolid_of_isScalarChar (h.head c hc))

theorem Assignment.readAssignment_eq {t rest : List Char} {field : String × Plain}
    (h : Assignment t field rest) :
    ∃ t', readAssignment t = .ok (.assign [field.1] field.2.value, t') ∧
      skipLineEnd t' = .ok rest := by
  obtain ⟨hkey, hbefore, hafter, h, hend⟩ := h
  refine ⟨_, ?_, hend.skipLineEnd_eq⟩
  rw [readAssignment, readPath_eq hkey hbefore rfl rfl (by decide)]
  simp only [bind, Except.bind]
  rw [hafter.skipSpaces_eq h.head, h.readValue_eq hend.closes (Nat.lt_succ_self _)]
  rfl

theorem Header.readHeader_eq {t rest : List Char} {key : String} (h : Header ('[' :: t) key rest) :
    ∃ t', readHeader t = .ok (.header [key] false, t') ∧ skipLineEnd t' = .ok rest := by
  obtain ⟨hkey, hopen, hclose, hend⟩ := h
  have hskip := hopen.skipSpaces_eq fun c hc =>
    not_isSpace (isSolid_of_isKeyChar (hkey.head _ c hc))
  refine ⟨_, ?_, hend.skipLineEnd_eq⟩
  rw [readHeader, hskip, readPath_eq hkey hclose rfl rfl (by decide)]
  · rfl
  · rintro t' rfl
    rcases hopen.head '[' rfl with hc | hc
    · cases hc
    · exact absurd (hkey.head _ '[' hc) (by decide)

theorem Assignment.length_lt {t rest : List Char} {field : String × Plain}
    (h : Assignment t field rest) : rest.length < t.length := by
  obtain ⟨hkey, hbefore, hafter, h, hend⟩ := h
  have := hbefore.length_le
  have := hafter.length_le
  have := h.length_lt
  have := hend.length_le
  simp only [List.length_cons, List.length_append] at *
  omega

theorem Header.length_lt {t rest : List Char} {key : String} (h : Header t key rest) :
    rest.length < t.length := by
  obtain ⟨hkey, hopen, hclose, hend⟩ := h
  have := hopen.length_le
  have := hclose.length_le
  have := hend.length_le
  simp only [List.length_cons, List.length_append] at *
  omega

/-! ## 2. Statements -/

def Statement.ofField (field : String × Plain) : Statement := .assign [field.1] field.2.value

def Document.statements (d : Document) : List Statement :=
  d.top.map .ofField ++
    d.tables.flatMap fun table => .header [table.1] false :: table.2.map .ofField

theorem Assignment.head {t rest : List Char} {field : String × Plain}
    (h : Assignment t field rest) : ∀ c ∈ t.head?, isKeyChar c = true := by
  obtain ⟨hkey, _⟩ := h
  exact hkey.head _

theorem Body.readStatements_eq {t rest : List Char} {fields : List (String × Plain)}
    (h : Body t fields rest) {statements : List Statement}
    (hrest : ∀ fuel, rest.length < fuel → readStatements fuel rest = .ok statements) {fuel : Nat}
    (hfuel : t.length < fuel) :
    readStatements fuel t = .ok (fields.map .ofField ++ statements) := by
  -- each line takes a character, so what is left of the fuel is enough for what is left of the text
  induction h generalizing fuel with
  | done t => exact hrest fuel hfuel
  | @line t t₁ t₂ rest field fields hgap h _ ih =>
    obtain ⟨fuel, rfl⟩ := Nat.exists_eq_add_one.mpr (Nat.zero_lt_of_lt hfuel)
    have hlength := hgap.length_le
    have hless := h.length_lt
    have hstatements := ih hrest (show t₂.length < fuel by omega)
    obtain ⟨t', hread, hend⟩ := h.readAssignment_eq
    have hwithin : within .badLine t = .ok t₁ := by
      obtain ⟨c, cs, rfl⟩ := List.exists_cons_of_length_pos (show 0 < t₁.length by omega)
      exact hgap.within_eq (isSolid_of_isKeyChar (h.head c rfl)) _
    rw [readStatements, hwithin]
    simp only [bind, Except.bind]
    -- the line starts with a key, so it is neither the end nor a header
    split
    next => exact absurd hless (Nat.not_lt_zero _)
    next => exact absurd (h.head '[' rfl) (by decide)
    next =>
      simp only [hread, hend, hstatements]
      rfl

theorem Tables.readStatements_eq {t : List Char} {tables : List (String × List (String × Plain))}
    (h : Tables t tables) {fuel : Nat} (hfuel : t.length < fuel) :
    readStatements fuel t = .ok (tables.flatMap fun table =>
      .header [table.1] false :: table.2.map .ofField) := by
  induction h generalizing fuel with
  | done h =>
    obtain ⟨fuel, rfl⟩ := Nat.exists_eq_add_one.mpr (Nat.zero_lt_of_lt hfuel)
    rw [readStatements, h.within_nil]
    rfl
  | @table t t₁ t₂ t₃ key fields tables hgap hheader hbody hrest ih =>
    obtain ⟨fuel, rfl⟩ := Nat.exists_eq_add_one.mpr (Nat.zero_lt_of_lt hfuel)
    have hlength := hgap.length_le
    have hless := hheader.length_lt
    have hstatements := hbody.readStatements_eq (fun _ => ih) (show t₂.length < fuel by omega)
    -- a header begins with a bracket, which no field does
    obtain ⟨t₁, rfl⟩ : ∃ t, t₁ = '[' :: t := by
      cases hheader
      exact ⟨_, rfl⟩
    obtain ⟨t', hread, hend⟩ := hheader.readHeader_eq
    rw [readStatements, hgap.within_eq rfl]
    simp only [bind, Except.bind, hread, hend, hstatements]
    rfl

/-! ## 3. Tables -/

/-- The assignments of some fields. -/
def assigned (fields : List (String × Plain)) : List (List String × Value) :=
  fields.map fun field => ([field.1], field.2.value)

def Section.ofTable (table : String × List (String × Plain)) : Section :=
  ⟨[table.1], false, assigned table.2⟩

theorem sections_eq (d : Document) :
    sections d.statements = (assigned d.top, d.tables.map .ofTable) := by
  -- statements that assign stand before the first header
  have hfields (fields : List (String × Plain)) (statements : List Statement) :
      sections (fields.map .ofField ++ statements) =
        (assigned fields ++ (sections statements).1, (sections statements).2) := by
    induction fields with
    | nil => rfl
    | cons field fields ih =>
      rw [List.map_cons, List.cons_append, Statement.ofField, sections, ih]
      rfl
  have htables (tables : List (String × List (String × Plain))) :
      sections (tables.flatMap fun table => .header [table.1] false :: table.2.map .ofField) =
        ([], tables.map .ofTable) := by
    induction tables with
    | nil => rfl
    | cons table tables ih =>
      rw [List.flatMap_cons, List.cons_append, sections, hfields, ih]
      simp [Section.ofTable]
  rw [Document.statements, hfields, htables, List.append_nil]

/-- A table under construction that has these values. -/
def entries (fields : List (String × Plain)) : Fields := fields.map fun f => (f.1, .value f.2.value)

def headerEntries (tables : List (String × List (String × Plain))) : Fields :=
  tables.map fun table => (table.1, .table .header (entries table.2))

theorem assignAll_eq (fields : Fields) {new : List (String × Plain)}
    (h : (fields.map Prod.fst ++ new.map Prod.fst).Nodup) :
    assignAll fields (assigned new) = .ok (fields ++ entries new) := by
  induction new generalizing fields with
  | nil => exact congrArg _ (List.append_nil fields).symm
  | cons f new ih =>
    -- a new key stands for nothing yet, so its field is added at the end
    have hget : fields.get? f.1 = none :=
      lookup_eq_none fun hmem => List.disjoint_of_nodup_append h hmem List.mem_cons_self
    have hrest := ih (fields ++ [(f.1, .value f.2.value)]) (by simpa using h)
    rw [assigned, List.map_cons, assignAll, Fields.assign, hget]
    rw [List.append_assoc] at hrest
    exact hrest

theorem fillSections_eq (fields : Fields) {tables : List (String × List (String × Plain))}
    (h : (fields.map Prod.fst ++ tables.map Prod.fst).Nodup)
    (hkeys : ∀ table ∈ tables, (table.2.map Prod.fst).Nodup) :
    fillSections fields (tables.map .ofTable) = .ok (fields ++ headerEntries tables) := by
  induction tables generalizing fields with
  | nil => exact congrArg _ (List.append_nil fields).symm
  | cons table tables ih =>
    obtain ⟨hown, hkeys⟩ := List.forall_mem_cons.mp hkeys
    -- the name of the table is new, so a table is opened and nothing is filled in twice
    have hget : fields.get? table.1 = none :=
      lookup_eq_none fun hmem => List.disjoint_of_nodup_append h hmem List.mem_cons_self
    have hassign : assignAll [] (assigned table.2) = .ok (entries table.2) :=
      assignAll_eq [] hown
    have hrest := ih (fields ++ [(table.1, .table .header (entries table.2))])
      (by simpa using h) hkeys
    rw [List.append_assoc] at hrest
    rw [List.map_cons, fillSections, Section.ofTable, Fields.openTable]
    · dsimp only
      rw [hassign]
      exact hrest
    · exact hget

theorem fieldValues_append (fields fields' : Fields) :
    fieldValues (fields ++ fields') = fieldValues fields ++ fieldValues fields' := by
  induction fields with
  | nil => rfl
  | cons f fields ih => rw [List.cons_append, fieldValues, fieldValues, ih, List.cons_append]

theorem fieldValues_entries (fields : List (String × Plain)) :
    fieldValues (entries fields) = values fields := by
  induction fields with
  | nil => rfl
  | cons field fields ih =>
    rw [entries, List.map_cons, fieldValues, Entry.toValue]
    exact congrArg _ ih

theorem fieldValues_headerEntries (tables : List (String × List (String × Plain))) :
    fieldValues (headerEntries tables) =
      tables.map fun table => (table.1, .table (values table.2)) := by
  induction tables with
  | nil => rfl
  | cons table tables ih =>
    rw [headerEntries, List.map_cons, fieldValues, Entry.toValue, fieldValues_entries]
    exact congrArg _ ih

/-- No document starts with the mark that the reader would pass over. -/
theorem Document.IsText.head {d : Document} {text : List Char} (h : d.IsText text) :
    ∀ c ∈ text.head?, c ≠ '\ufeff' := by
  rintro _ hc rfl
  obtain ⟨top, tables⟩ := d
  obtain ⟨t, hbody, htables⟩ := h
  dsimp only at hbody htables
  have hmark : ¬ isSolid '\ufeff' = false := by decide
  -- the first character is one of the gap, the header or the field that comes first
  cases hbody with
  | line hgap h =>
    rcases hgap.head _ hc with hc | hc
    · exact hmark hc
    · exact absurd (h.head _ hc) (by decide)
  | done =>
    cases htables with
    | done h =>
      rcases h.head _ hc with hc | hc
      · exact hmark hc
      · cases hc
    | table hgap h =>
      rcases hgap.head _ hc with hc | hc
      · exact hmark hc
      · obtain ⟨⟩ := h
        cases hc

/-- The reader gives the fields of every document. -/
theorem Document.IsText.read_eq {d : Document} {text : List Char} (h : d.IsText text)
    (hdistinct : d.Distinct) : read text = .ok d.fields := by
  have hmark : ∀ rest, text ≠ '\ufeff' :: rest := by
    rintro rest rfl
    exact h.head '\ufeff' rfl rfl
  obtain ⟨t, hbody, htables⟩ := h
  -- first the statements, then what is assigned before and after the first header
  have hstatements : readStatements (text.length + 1) text = .ok d.statements :=
    hbody.readStatements_eq (fun _ => htables.readStatements_eq) (Nat.lt_succ_self _)
  have htop : assignAll [] (assigned d.top) = .ok (entries d.top) :=
    assignAll_eq [] hdistinct.keys.of_append_left
  have hfill : fillSections (entries d.top) (d.tables.map .ofTable) =
      .ok (entries d.top ++ headerEntries d.tables) := by
    apply fillSections_eq _ _ hdistinct.inner
    rw [entries, List.map_map]
    exact hdistinct.keys
  rw [read]
  · simp only [hstatements, bind, Except.bind, sections_eq, htop, hfill, fieldValues_append,
      fieldValues_entries, fieldValues_headerEntries]
    rfl
  · exact hmark

end SecretScan.Toml
