import SecretScan.Config.Decode
import SecretScan.Proofs.Toml.Reader
import SecretScan.Proofs.Toml.Writer

/-!
# A configuration is read back

A document that gives the options of a configuration, in any order and among fields and tables with
other names, is read as that configuration (`Config.ofDocument_of_gives`).
-/

namespace SecretScan

open Toml (AreOptions Document Plain Value lookup present)

/-! ## 1. Documents that give options -/

def OutputOptions.options (o : OutputOptions) : List (String × Option Plain) :=
  [("path", o.path.map fun path => .string path.text),
    ("format", o.format.map fun format => .string format.name)]

def PatternFiles.options (f : PatternFiles) : List (String × Option Plain) :=
  [("direct", f.direct.map fun path => .string path.text),
    ("fast", f.fast.map fun path => .string path.text),
    ("strict", f.strict.map fun path => .string path.text),
    ("exclude", f.exclude.map fun path => .string path.text)]

/-- The options at the top of a document, where there is none with the name of a table. -/
def Config.options (c : Config) (extensions excludeDirs : Option (List String)) :
    List (String × Option Plain) :=
  [("directory", c.directory.map fun path => .string path.text),
    ("extensions", extensions.map .strings),
    ("exclude_dirs", excludeDirs.map .strings),
    ("concurrency", c.concurrency.map fun n : Nat => .integer n),
    ("output", none),
    ("patterns", none)]

/-- A table gives its options.  It may be left out if it has none. -/
def GivesTable (options : List (String × Option Plain)) :
    Option (List (String × Plain)) → Prop
  | some fields => AreOptions options fields
  | none => present options = []

instance (options : List (String × Option Plain)) :
    (table : Option (List (String × Plain))) → Decidable (GivesTable options table)
  | some fields => inferInstanceAs (Decidable (AreOptions options fields))
  | none => inferInstanceAs (Decidable (present options = []))

/-- A document gives the options of a configuration.  A list may be left out if it is empty.  All
other fields and tables have other names. -/
structure Gives (d : Document) (c : Config) : Prop where
  top : ∃ extensions excludeDirs : Option (List String), extensions.getD [] = c.extensions ∧
    excludeDirs.getD [] = c.excludeDirs ∧ AreOptions (c.options extensions excludeDirs) d.top
  output : GivesTable c.output.options (lookup d.tables "output")
  patterns : GivesTable c.patterns.options (lookup d.tables "patterns")
  others : ∀ table ∈ d.tables,
    table.1 ∉ ["directory", "extensions", "exclude_dirs", "concurrency"]

/-! ## 2. Reading options -/

namespace Config

theorem given?_map {α : Type} {decode : Value → Option α} {encode : α → Plain} {v : Option α}
    (h : ∀ a ∈ v, decode (encode a).value = some a) :
    given? decode ((v.map encode).map Plain.value) = some v := by
  cases v with
  | none => rfl
  | some a => rw [Option.map_some, Option.map_some, given?, h a rfl]; rfl

theorem given?_path (v : Option Path) :
    given? path? ((v.map fun path => .string path.text).map Plain.value) = some v :=
  given?_map fun _ _ => rfl

theorem given?_format (v : Option OutputFormat) :
    given? format? ((v.map fun format => .string format.name).map Plain.value) = some v :=
  given?_map fun format _ => by cases format <;> decide

theorem given?_number {v : Option Nat} (h : ∀ n ∈ v, n < UInt64.size) :
    given? number? ((v.map fun n : Nat => .integer n).map Plain.value) = some v := by
  apply given?_map
  intro n hn
  have hlt : (n : Int) < UInt64.size := by exact_mod_cast h n hn
  rw [Plain.value, number?, if_pos ⟨Int.natCast_nonneg n, hlt⟩]
  rfl

theorem texts?_strings (items : List String) : texts? (Plain.strings items).value = some items := by
  rw [Plain.value, texts?]
  induction items with
  | nil => rfl
  | cons s items ih => rw [List.map_cons, List.mapM_cons, ih]; rfl

theorem given?_texts (v : Option (List String)) :
    given? texts? ((v.map .strings).map Plain.value) = some v :=
  given?_map fun items _ => texts?_strings items

/-- The values of the options among the fields of a table. -/
theorem optionValues?_values {options : List (String × Option Plain)}
    {fields : List (String × Plain)} (h : AreOptions options fields)
    (hnames : (options.map Prod.fst).Nodup) (hkeys : (fields.map Prod.fst).Nodup) :
    optionValues? (options.map Prod.fst) (.table (Toml.values fields)) =
      some (options.map fun option => option.2.map Plain.value) := by
  have hvalues : ∀ option ∈ options,
      lookup (Toml.values fields) option.1 = option.2.map Plain.value := by
    intro option hoption
    rw [Toml.values, Toml.lookup_map, h.lookup_eq hnames hkeys hoption]
  show some ((options.map Prod.fst).map (lookup (Toml.values fields))) = _
  rw [List.map_map]
  exact congrArg some (List.map_congr_left hvalues)

theorem output?_values {fields : List (String × Plain)} {o : OutputOptions}
    (h : AreOptions o.options fields) (hkeys : (fields.map Prod.fst).Nodup) :
    output? (.table (Toml.values fields)) = some o := by
  have hvalues := optionValues?_values h (by simp [OutputOptions.options]) hkeys
  simp only [OutputOptions.options, List.map_cons, List.map_nil] at hvalues
  simp only [output?, hvalues, Option.bind_eq_bind, Option.bind_some, given?_path, given?_format]
  rfl

theorem patterns?_values {fields : List (String × Plain)} {f : PatternFiles}
    (h : AreOptions f.options fields) (hkeys : (fields.map Prod.fst).Nodup) :
    patterns? (.table (Toml.values fields)) = some f := by
  have hvalues := optionValues?_values h (by simp [PatternFiles.options]) hkeys
  simp only [PatternFiles.options, List.map_cons, List.map_nil] at hvalues
  simp only [patterns?, hvalues, Option.bind_eq_bind, Option.bind_some, given?_path]
  rfl

/-- The options of a table are read, also if the table is left out for want of any. -/
theorem given?_table {α : Type} {decode : Value → Option α} {a empty : α}
    {options : List (String × Option Plain)}
    (hdecode : ∀ fields, AreOptions options fields → (fields.map Prod.fst).Nodup →
      decode (.table (Toml.values fields)) = some a)
    (hempty : decode (.table []) = some empty) {table : Option (List (String × Plain))}
    (h : GivesTable options table) (hkeys : ∀ fields ∈ table, (fields.map Prod.fst).Nodup) :
    ∃ v, given? decode (table.map fun fields => .table (Toml.values fields)) = some v ∧
      v.getD empty = a := by
  cases table with
  | some fields =>
    refine ⟨some a, ?_, rfl⟩
    rw [Option.map_some, given?, hdecode fields h (hkeys fields rfl)]
    rfl
  | none =>
    -- a table that is left out has no options, and an empty one would mean the same
    have hnone : AreOptions options [] := by
      rw [AreOptions, List.filter_nil, show present options = [] from h]
    have ha : decode (.table []) = some a := hdecode [] hnone List.nodup_nil
    exact ⟨none, rfl, Option.some.inj (hempty.symm.trans ha)⟩

/-! ## 3. Reading a document -/

theorem lookup_fields (d : Document) (name : String) :
    lookup d.fields name = ((lookup d.top name).map Plain.value).or
      ((lookup d.tables name).map fun fields => .table (Toml.values fields)) := by
  rw [Document.fields, Toml.lookup_append]
  exact congrArg₂ Option.or (Toml.lookup_map _ _ _)
    (Toml.lookup_map (fun fields => Value.table (Toml.values fields)) _ _)

/-- No table is named like an option at the top, and no such option like a table of options. -/
theorem optionValues?_fields {d : Document} {c : Config}
    {extensions excludeDirs : Option (List String)}
    (h : AreOptions (c.options extensions excludeDirs) d.top) (hdistinct : d.Distinct)
    (hothers : ∀ table ∈ d.tables,
      table.1 ∉ ["directory", "extensions", "exclude_dirs", "concurrency"]) :
    optionValues? ["directory", "extensions", "exclude_dirs", "concurrency", "output", "patterns"]
        (.table d.fields) =
      some [(c.directory.map fun path => .string path.text).map Plain.value,
        (extensions.map .strings).map Plain.value,
        (excludeDirs.map .strings).map Plain.value,
        (c.concurrency.map fun n : Nat => .integer n).map Plain.value,
        (lookup d.tables "output").map fun fields => .table (Toml.values fields),
        (lookup d.tables "patterns").map fun fields => .table (Toml.values fields)] := by
  have hkeys : (d.top.map Prod.fst).Nodup := hdistinct.keys.of_append_left
  -- the names of tables are other ones
  have hnone : ∀ name ∈ ["directory", "extensions", "exclude_dirs", "concurrency"],
      lookup d.tables name = none := by
    intro name hname
    apply Toml.lookup_eq_none
    intro hmem
    obtain ⟨table, htable, rfl⟩ := List.mem_map.mp hmem
    exact hothers table htable hname
  -- an option is looked up at the top first, and then among the tables
  have hlookup : ∀ option ∈ c.options extensions excludeDirs,
      lookup d.fields option.1 = (option.2.map Plain.value).or
        ((lookup d.tables option.1).map fun fields => .table (Toml.values fields)) := by
    intro option hoption
    rw [lookup_fields, h.lookup_eq (by simp [options]) hkeys hoption]
  show some (((c.options extensions excludeDirs).map Prod.fst).map (lookup d.fields)) = _
  rw [List.map_map]
  refine congrArg some ((List.map_congr_left hlookup).trans ?_)
  simp [options, hnone]

theorem ofFields?_fields {d : Document} {c : Config} (h : Gives d c)
    (hdistinct : d.Distinct) (hnumber : ∀ n ∈ c.concurrency, n < UInt64.size) :
    ofFields? d.fields = some c := by
  -- the keys of each table are distinct too
  have hinner (name : String) : ∀ fields ∈ lookup d.tables name, (fields.map Prod.fst).Nodup := by
    intro fields hfields
    have hmem := (Toml.lookup_eq_some_iff hdistinct.keys.of_append_right).mp hfields
    exact hdistinct.inner _ hmem
  obtain ⟨extensions, excludeDirs, hextensions, hexcludeDirs, htop⟩ := h.top
  obtain ⟨output, houtput, houtput'⟩ := given?_table (fun _ => output?_values) rfl h.output
    (hinner "output")
  obtain ⟨patterns, hpatterns, hpatterns'⟩ := given?_table (fun _ => patterns?_values) rfl
    h.patterns (hinner "patterns")
  simp only [ofFields?, optionValues?_fields htop hdistinct h.others, Option.bind_eq_bind,
    Option.bind_some, given?_path, given?_texts, given?_number hnumber, houtput, hpatterns]
  rw [hextensions, hexcludeDirs, houtput', hpatterns']
  rfl

/-- Whatever else is in it, a document is read as the configuration that it gives.  Each such document
has a text. -/
theorem ofDocument_of_gives {d : Document} {c : Config} (h : Gives d c) (hdistinct : d.Distinct)
    (hproper : d.Proper) (hnumber : ∀ n ∈ c.concurrency, n < 2 ^ 63) :
    d.IsText d.text ∧
      ∀ path text, d.IsText text → ofDocument path text = .ok c := by
  refine ⟨d.isText_text hproper, fun path text htext => ?_⟩
  have hsize : ∀ n ∈ c.concurrency, n < UInt64.size := fun n hn =>
    (hnumber n hn).trans (by decide)
  rw [ofDocument, htext.read_eq hdistinct]
  dsimp only
  rw [ofFields?_fields h hdistinct hsize]

/-- A configuration whose texts need escapes. -/
def quoted : Config where
  directory := some ⟨"a \"b\" \\ \u0001"⟩
  extensions := [".rs", "", "\t"]
  concurrency := some 4
  output := { format := some .json }
  patterns := { fast := some ⟨"π😀"⟩ }

/-- A document with it, among fields and tables that are no options. -/
def quotedDocument : Document where
  top := [("newer-key", .strings ["directory", ""]),
    ("concurrency", .integer 4),
    ("extensions", .strings [".rs", "", "\t"]),
    ("flag", .boolean true),
    ("directory", .string "a \"b\" \\ \u0001")]
  tables := [("patterns", [("direct2", .integer (-3)), ("fast", .string "π😀")]),
    ("future", [("directory", .integer 1)]),
    ("output", [("format", .string "json")])]

/-- Every text of the document gives the configuration back, whatever escapes it is written with. -/
theorem ofDocument_of_gives_quoted :
    quotedDocument.IsText quotedDocument.text ∧
      ∀ path text, quotedDocument.IsText text → ofDocument path text = .ok quoted := by
  have hgives : Gives quotedDocument quoted :=
    { top := ⟨some [".rs", "", "\t"], none, rfl, rfl, by decide⟩
      output := by decide
      patterns := by decide
      others := by decide }
  apply ofDocument_of_gives hgives
  · constructor <;> decide
  · constructor <;> decide
  · decide

end Config

end SecretScan
