import SecretScan.Files.Path
import SecretScan.Proofs.Text.Line

/-!
# The order of paths

Paths are ordered as the lists of the keys of their parts, which is a linear order up to spelling.
The path of the names of files has exactly these names as its parts, and a name that is put behind a
path is the last of its pieces.
-/

namespace SecretScan.Path

/-! ## 1. Comparison -/

theorem numbersBefore_iff {ms ns : List Nat} : numbersBefore ms ns = true ↔ ms < ns := by
  rw [numbersBefore, List.lex_eq_true_iff_lex]
  simp only [decide_eq_true_eq]
  rfl

theorem lt_iff {p q : Path} : p.lt q = true ↔ p.key < q.key := by
  rw [lt, List.lex_eq_true_iff_lex]
  simp only [numbersBefore_iff]
  rfl

theorem le_iff {p q : Path} : p.le q = true ↔ p.key ≤ q.key := by
  rw [le, Bool.not_eq_true', ← Bool.not_eq_true, lt_iff, not_lt]

theorem same_iff {p q : Path} : p.same q = true ↔ p.key = q.key := beq_iff_eq

theorem Part.key_injective : Function.Injective Part.key := by
  intro a b h
  have hchars : Function.Injective Char.toNat := fun c d hcd => Char.toNat_inj.mp hcd
  -- the kinds of parts have different first numbers
  cases a <;> cases b <;> simp [Part.key] at h ⊢
  case name.name m n => exact List.map_injective_iff.mpr hchars h

theorem key_eq_iff {p q : Path} : p.key = q.key ↔ p.parts = q.parts :=
  (List.map_injective_iff.mpr Part.key_injective).eq_iff

/-- Two spellings are the same path if they have the same parts. -/
theorem same_iff_parts {p q : Path} : p.same q = true ↔ p.parts = q.parts :=
  same_iff.trans key_eq_iff

theorem trans (p q r : Path) (hpq : p.le q = true) (hqr : q.le r = true) : p.le r = true :=
  le_iff.mpr ((le_iff.mp hpq).trans (le_iff.mp hqr))

theorem total (p q : Path) : (p.le q || q.le p) = true := by
  rw [Bool.or_eq_true, le_iff, le_iff]
  exact le_total p.key q.key

/-! ## 2. Paths of names -/

/-- What can be the name of a file in a directory. -/
structure IsName (name : String) : Prop where
  ne_empty : name.toList ≠ []
  no_slash : '/' ∉ name.toList
  ne_current : name.toList ≠ ['.']
  ne_parent : name.toList ≠ ['.', '.']

instance (name : String) : Decidable (IsName name) :=
  decidable_of_iff (name.toList ≠ [] ∧ '/' ∉ name.toList ∧ name.toList ≠ ['.'] ∧
      name.toList ≠ ['.', '.'])
    ⟨fun ⟨h₁, h₂, h₃, h₄⟩ => ⟨h₁, h₂, h₃, h₄⟩, fun ⟨h₁, h₂, h₃, h₄⟩ => ⟨h₁, h₂, h₃, h₄⟩⟩

theorem IsName.inner? {name : String} (h : IsName name) :
    inner? name.toList = some (.name name.toList) := by
  rw [Path.inner?, if_neg (not_or.mpr ⟨h.ne_empty, h.ne_current⟩), if_neg h.ne_parent]

theorem split_intercalate {names : List String} (hne : names ≠ [])
    (h : ∀ name ∈ names, IsName name) :
    Line.split '/' (String.intercalate "/" names).toList = names.map String.toList := by
  rw [String.toList_intercalate]
  apply Line.split_intercalate_of_notMem
  · exact fun hnil => hne (List.map_eq_nil_iff.mp hnil)
  · intro piece hpiece
    obtain ⟨name, hname, rfl⟩ := List.mem_map.mp hpiece
    exact (h name hname).no_slash

/-- The parts of a path of names are the names. -/
theorem parts_ofNames {names : List String} (h : ∀ name ∈ names, IsName name) :
    (ofNames names).parts = names.map fun name => .name name.toList := by
  cases names with
  | nil => rfl
  | cons name names =>
    have hname := h name List.mem_cons_self
    -- names are kept wherever they stand; only the first piece could mean more
    have hrest : (names.map String.toList).filterMap Path.inner? =
        names.map fun name => .name name.toList := by
      rw [List.filterMap_map]
      exact (List.filterMap_congr fun n hn => (h n (List.mem_cons_of_mem _ hn)).inner?).trans
        (congrFun List.filterMap_eq_map names)
    have hpieces : (ofNames (name :: names)).pieces = name.toList :: names.map String.toList :=
      split_intercalate (by simp) h
    rw [parts, hpieces]
    simp only [if_neg hname.ne_empty, if_neg hname.ne_current, hname.inner?, hrest]
    rfl

/-- Different names make different paths. -/
theorem ofNames_key_inj {ms ns : List String} (hm : ∀ name ∈ ms, IsName name)
    (hn : ∀ name ∈ ns, IsName name) (h : (ofNames ms).key = (ofNames ns).key) : ms = ns := by
  rw [key_eq_iff, parts_ofNames hm, parts_ofNames hn] at h
  refine List.map_injective_iff.mpr (fun a b hab => ?_) h
  exact String.toList_inj.mp (Part.name.inj hab)

/-! ## 3. Names behind a path -/

variable {p : Path} {name : String}

/-- The path of what names lead to from a path. -/
def below (p : Path) (names : List String) : Path := names.foldl (fun q name => q.join ⟨name⟩) p

theorem below_concat (p : Path) (names : List String) (name : String) :
    p.below (names ++ [name]) = (p.below names).join ⟨name⟩ := List.foldl_concat ..

theorem IsName.isAbsolute_eq_false (h : IsName name) : isAbsolute ⟨name⟩ = false :=
  Bool.eq_false_iff.mpr fun habsolute => h.no_slash (List.mem_of_head? (beq_iff_eq.mp habsolute))

/-- A name is put behind a slash, which is added unless the path has one there. -/
theorem toList_join (h : IsName name) :
    ((p.text.toList = [] ∨ ∃ front, p.text.toList = front ++ ['/']) ∧
      (p.join ⟨name⟩).text.toList = p.text.toList ++ name.toList) ∨
    (p.join ⟨name⟩).text.toList = p.text.toList ++ '/' :: name.toList := by
  rw [join, h.isAbsolute_eq_false, if_neg Bool.false_ne_true]
  split_ifs with hlast
  · refine .inl ⟨?_, String.toList_append⟩
    cases hgiven : p.text.toList.getLast? with
    | none => exact .inl (List.getLast?_eq_none_iff.mp hgiven)
    | some c =>
      rw [hgiven, Option.getD_some] at hlast
      obtain ⟨front, hfront⟩ := List.getLast?_eq_some_iff.mp hgiven
      exact .inr ⟨front, hlast ▸ hfront⟩
  · refine .inr ?_
    rw [String.toList_append, String.toList_append, List.append_assoc]
    rfl

theorem IsName.split_eq (h : IsName name) : Line.split '/' name.toList = [name.toList] := by
  simpa using split_intercalate (List.cons_ne_nil name []) (List.forall_mem_singleton.mpr h)

/-- The name is the last piece of its path. An empty piece before it, which stands for a slash at the
end of the path, is gone. -/
theorem pieces_join (h : IsName name) :
    (∃ front, p.pieces = front ++ [[]] ∧ (p.join ⟨name⟩).pieces = front ++ [name.toList]) ∨
    (p.join ⟨name⟩).pieces = p.pieces ++ [name.toList] := by
  have hname := h.split_eq
  unfold pieces
  rcases toList_join (p := p) h with ⟨hempty | ⟨front, hfront⟩, htext⟩ | htext
  · exact .inl ⟨[], by rw [hempty]; rfl, by rw [htext, hempty]; exact hname⟩
  · refine .inl ⟨Line.split '/' front, ?_, ?_⟩
    · rw [hfront, Line.split_append]
      rfl
    · rw [htext, hfront, List.append_assoc, List.singleton_append, Line.split_append, hname]
  · rw [htext, Line.split_append, hname]
    exact .inr rfl

end SecretScan.Path
