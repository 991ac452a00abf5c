import SecretScan.Command.Options
import SecretScan.Proofs.Text.Blank
import SecretScan.Proofs.Text.Line

/-!
# Extensions from arguments and from a configuration

Extensions may be given as one argument, between commas, or as a list in a configuration.  Both ways
amount to the same options: one extension for each element that is not blank, with a dot, in order;
the default ones if there is none (`ScanOptions.resolve_extensions`).
-/

namespace SecretScan

/-! ## 1. Blank texts -/

namespace Blank

/-- Whether a text has only blanks. -/
def isBlankText (s : String) : Bool := s.toList.all isBlank

theorem toList_trim (s : String) :
    (trim s).toList = trimEnd (trimStart s.toList) := String.toList_ofList

theorem toList_trim_eq_nil_iff {s : String} :
    (trim s).toList = [] ↔ isBlankText s = true := by
  rw [toList_trim, isBlankText, List.all_eq_true]
  constructor
  · intro h
    -- what is left after the start is trimmed would begin with a solid character
    have hstart : trimStart s.toList = [] := by
      by_contra hne
      obtain ⟨c, rest, hcons⟩ := List.exists_cons_of_ne_nil hne
      have hhead : (trimStart s.toList).head? = some c := by rw [hcons]; rfl
      have hc : isBlank c = false := not_isBlank_of_head?_trimStart hhead
      rw [trimEnd_eq, List.reverse_eq_nil_iff] at h
      have hblank := List.dropWhile_eq_nil_iff.mp h c (by simp [hcons])
      rw [hc] at hblank
      cases hblank
    exact List.dropWhile_eq_nil_iff.mp hstart
  · intro h
    have hstart : trimStart s.toList = [] := List.dropWhile_eq_nil_iff.mpr h
    rw [hstart]
    rfl

end Blank

/-! ## 2. Normalized extensions -/

namespace Config

/-- The extension that an element of a list stands for: its text without the blanks around it, and
with a dot at the start. -/
structure StandsFor (e x : String) : Prop where
  text : x = Blank.trim e ∨ (Blank.trim e).toList.head? ≠ some '.' ∧ x = "." ++ Blank.trim e
  dotted : x.toList.head? = some '.'
  trimmed : Blank.IsTrimmed x.toList
  settled : normalizeExtension x = some x

theorem normalizeExtension_of_cons {e : String} {c : Char} {rest : List Char}
    (h : (Blank.trim e).toList = c :: rest) :
    normalizeExtension e = some (if c = '.' then Blank.trim e else "." ++ Blank.trim e) := by
  rw [normalizeExtension, h]
  by_cases hc : c = '.'
  · subst hc
    rfl
  · rw [if_neg hc]
    split
    next hnil => cases hnil
    next hdot => exact absurd (List.cons.inj hdot).1 hc
    next => rfl

/-- A trimmed text with a dot at its start is left as it is. -/
theorem normalizeExtension_of_dotted {x : String} (hdot : x.toList.head? = some '.')
    (htrimmed : Blank.IsTrimmed x.toList) : normalizeExtension x = some x := by
  have htrim : Blank.trim x = x := by
    apply String.toList_inj.mp
    rw [Blank.toList_trim]
    exact htrimmed
  obtain ⟨rest, hrest⟩ := List.head?_eq_some_iff.mp hdot
  rw [normalizeExtension_of_cons (by rw [htrim, hrest]), if_pos rfl, htrim]

theorem normalizeExtension_of_blank {e : String} (h : Blank.isBlankText e = true) :
    normalizeExtension e = none := by
  rw [normalizeExtension, Blank.toList_trim_eq_nil_iff.mpr h]

theorem exists_standsFor {e : String} (h : Blank.isBlankText e = false) :
    ∃ x, normalizeExtension e = some x ∧ StandsFor e x := by
  have hne : (Blank.trim e).toList ≠ [] := fun hnil => by
    rw [Blank.toList_trim_eq_nil_iff.mp hnil] at h
    cases h
  have htrimmed : Blank.IsTrimmed (Blank.trim e).toList := by
    rw [Blank.toList_trim]
    exact Blank.isTrimmed_trimmed _
  obtain ⟨c, rest, hcons⟩ := List.exists_cons_of_ne_nil hne
  by_cases hdot : c = '.'
  · subst hdot
    have hhead : (Blank.trim e).toList.head? = some '.' := by rw [hcons]; rfl
    refine ⟨Blank.trim e, ?_, .inl rfl, hhead, htrimmed, ?_⟩
    · rw [normalizeExtension_of_cons hcons, if_pos rfl]
    · exact normalizeExtension_of_dotted hhead htrimmed
  · have hhead : (Blank.trim e).toList.head? ≠ some '.' := by
      rw [hcons]
      exact fun heq => hdot (Option.some.inj heq)
    have hdotted : ("." ++ Blank.trim e).toList.head? = some '.' := by
      rw [String.toList_append]
      rfl
    -- a dot is no blank, and the end of the text stays
    have hsettled : Blank.IsTrimmed ("." ++ Blank.trim e).toList := by
      apply Blank.isTrimmed_iff.mpr
      rw [String.toList_append]
      refine ⟨fun d hd => ?_, fun d hd => ?_⟩
      · cases hd
        decide
      · rw [List.getLast?_append_of_ne_nil _ hne] at hd
        exact (Blank.isTrimmed_iff.mp htrimmed).2 d hd
    refine ⟨"." ++ Blank.trim e, ?_, .inr ⟨hhead, rfl⟩, hdotted, hsettled, ?_⟩
    · rw [normalizeExtension_of_cons hcons, if_neg hdot]
    · exact normalizeExtension_of_dotted hdotted hsettled

/-- There is one extension for each element that is not blank. -/
theorem normalizeExtensions_standsFor (es : List String) :
    List.Forall₂ StandsFor (es.filter fun e => !Blank.isBlankText e) (normalizeExtensions es) := by
  induction es with
  | nil => exact .nil
  | cons e es ih =>
    cases h : Blank.isBlankText e with
    | true =>
      rw [List.filter_cons_of_neg (by simp [h]), normalizeExtensions, List.filterMap_cons,
        normalizeExtension_of_blank h]
      exact ih
    | false =>
      obtain ⟨x, hx, hstands⟩ := exists_standsFor h
      rw [List.filter_cons_of_pos (by simp [h]), normalizeExtensions, List.filterMap_cons, hx]
      exact .cons hstands ih

theorem normalizeExtensions_eq_nil_iff {es : List String} :
    normalizeExtensions es = [] ↔ ∀ e ∈ es, Blank.isBlankText e = true := by
  have hlength := (normalizeExtensions_standsFor es).length_eq
  rw [← List.length_eq_zero_iff, ← hlength, List.length_eq_zero_iff, List.filter_eq_nil_iff]
  simp

end Config

/-! ## 3. The two ways -/

namespace ScanOptions

/-- A list of texts without commas is found again between the commas.  The empty list becomes an
empty text, which is one blank piece. -/
theorem commaPieces_intercalate {l : List String} (hl : ∀ e ∈ l, ',' ∉ e.toList) :
    Config.normalizeExtensions (commaPieces (String.intercalate "," l)) =
      Config.normalizeExtensions l := by
  by_cases hne : l = []
  · subst hne
    rfl
  · -- no text has a comma of its own
    have hpieces : Line.split ',' (String.intercalate "," l).toList = l.map String.toList := by
      rw [String.toList_intercalate]
      apply Line.split_intercalate_of_notMem
      · exact fun hnil => hne (List.map_eq_nil_iff.mp hnil)
      · intro piece hpiece
        obtain ⟨e, he, rfl⟩ := List.mem_map.mp hpiece
        exact hl e he
    rw [commaPieces, hpieces, List.map_map]
    have hid : String.ofList ∘ String.toList = id := funext fun s => String.ofList_toList
    rw [hid, List.map_id]

theorem extensionsOf_some (types : String) (c : Config) :
    extensionsOf (some types) { c with extensions := [] } =
      if Config.normalizeExtensions (commaPieces types) ≠ [] then
        (Config.normalizeExtensions (commaPieces types), true)
      else (Config.defaultExtensions, false) := rfl

theorem extensionsOf_none (c : Config) (l : List String) :
    extensionsOf none { c with extensions := l } =
      if Config.normalizeExtensions l ≠ [] then (Config.normalizeExtensions l, true)
      else (Config.defaultExtensions, false) := rfl

theorem extensionsOf_intercalate (c : Config) {l : List String} (hl : ∀ e ∈ l, ',' ∉ e.toList) :
    extensionsOf (some (String.intercalate "," l)) { c with extensions := [] } =
      extensionsOf none { c with extensions := l } := by
  rw [extensionsOf_some, extensionsOf_none, commaPieces_intercalate hl]

/-- Extensions between commas in the arguments amount to the same options as a list of them in the
configuration.  They count as custom exactly if one of them is not blank.  If so, there is one for
each that is not blank, in order, without blanks around it, with a dot at the start, and such that
normalizing it once more leaves it as it is; if not, the default ones are taken. -/
theorem resolve_extensions (a : Arguments) (c : Config) (path : Option Path) {l : List String}
    (hl : ∀ e ∈ l, ',' ∉ e.toList) :
    let given := resolve { a with types := some (String.intercalate "," l) }
      { c with extensions := [] } path
    let configured := resolve { a with types := none } { c with extensions := l } path
    given = configured ∧
    ∀ directory, a.directory.or c.directory = some directory → ∃ o, configured = .ok o ∧
      (o.customExtensions = false ↔ ∀ e ∈ l, Blank.isBlankText e = true) ∧
      (o.customExtensions = false → o.extensions = Config.defaultExtensions) ∧
      (o.customExtensions = true →
        List.Forall₂ Config.StandsFor (l.filter fun e => !Blank.isBlankText e) o.extensions) := by
  intro given configured
  have hsame : given = configured := by
    show resolve _ _ _ = resolve _ _ _
    unfold resolve
    dsimp only
    rw [extensionsOf_intercalate c hl]
    rfl
  refine ⟨hsame, fun directory hdirectory => ?_⟩
  have hok : ∃ o, configured = .ok o ∧ (o.extensions, o.customExtensions) =
      extensionsOf none { c with extensions := l } := by
    show ∃ o, resolve _ _ _ = .ok o ∧ _
    unfold resolve
    dsimp only
    rw [hdirectory]
    exact ⟨_, rfl, rfl⟩
  obtain ⟨o, ho, hextensions⟩ := hok
  refine ⟨o, ho, ?_⟩
  rw [extensionsOf_none] at hextensions
  by_cases hnil : Config.normalizeExtensions l = []
  · -- nothing is left, and the default extensions are taken
    rw [if_neg (not_not.mpr hnil), Prod.mk.injEq] at hextensions
    obtain ⟨hdefault, hcustom⟩ := hextensions
    refine ⟨?_, fun _ => hdefault, fun htrue => ?_⟩
    · exact iff_of_true hcustom (Config.normalizeExtensions_eq_nil_iff.mp hnil)
    · rw [hcustom] at htrue
      cases htrue
  · rw [if_pos hnil, Prod.mk.injEq] at hextensions
    obtain ⟨hlist, hcustom⟩ := hextensions
    refine ⟨?_, fun hfalse => ?_, fun _ => ?_⟩
    · refine iff_of_false (by rw [hcustom]; exact Bool.noConfusion) fun hblank => ?_
      exact hnil (Config.normalizeExtensions_eq_nil_iff.mpr hblank)
    · rw [hcustom] at hfalse
      cases hfalse
    · rw [hlist]
      exact Config.normalizeExtensions_standsFor l

/-- Two elements without a dot, one of them twice, one with a dot, and three blank ones. -/
theorem resolve_extensions_mixed :
    let l := [" py", "", ".go\t", "\u00a0", ". d", "py", " "]
    let a : Arguments := { directory := some ⟨"."⟩ }
    let given := resolve { a with types := some (String.intercalate "," l) } {} none
    (∀ e ∈ l, ',' ∉ e.toList) ∧ given = resolve a { extensions := l } none ∧
    ∃ o, resolve a { extensions := l } none = .ok o ∧
      o.extensions = [".py", ".go", ". d", ".py"] ∧ o.customExtensions = true ∧
      List.Forall₂ Config.StandsFor (l.filter fun e => !Blank.isBlankText e) o.extensions := by
  intro l a given
  have hl : ∀ e ∈ l, ',' ∉ e.toList := by decide
  obtain ⟨hsame, hoptions⟩ := resolve_extensions a {} none hl
  obtain ⟨o, ho, -, -, hstands⟩ := hoptions ⟨"."⟩ rfl
  have hvalue : resolve a { extensions := l } none = .ok _ := rfl
  obtain rfl := Except.ok.inj (hvalue.symm.trans ho)
  exact ⟨hl, hsame, _, hvalue, by decide, by decide, hstands (by decide)⟩

end ScanOptions

end SecretScan
