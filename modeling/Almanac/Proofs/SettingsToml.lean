import Almanac.Proofs.Fields
import Almanac.Proofs.Toml.Lines
import Almanac.Proofs.Toml.Tables
import Almanac.SettingsFile
import Almanac.Zone.Names

/-! # Settings that are saved

Settings that are saved are loaded again as they were, whatever characters their texts have
(`SettingsFile.load_save`).

The argument follows the document.  Its lines are read as statements
(`Settings.documentStatements?_toToml`);
every header of it names a new table and every key below a header is new, so the statements build
the tables they name (`Settings.builds_statements`); and the tables have each field of the settings
once (`Settings.ofValue?_content`), but for a link template that is missing, which is left out and
read as missing.

A grouping that is a list stands in a table of its own behind the values of the display options,
any other among these; so the order of the fields depends on the grouping, and fields are looked up
by membership and not by their place.
-/
namespace Almanac

open Toml (Builds Leads Members ReadAs Statement assigns tableMembers tableStatements
  tablesStatements valueMembers)

/-! ## What the lines say -/

/-- The numbers of valid display options. -/
theorem Style.bounds_of_valid {s : Style} (h : s.fault? = none) :
    s.firstDay ≤ 6 ∧ s.nameSize ≤ 99 ∧ s.precision.increment ≤ 59 := by
  rw [Style.fault?] at h
  split_ifs at h with hfirst hname hincrement
  simp only [List.mem_cons, List.not_mem_nil, or_false] at hname
  omega

namespace Settings

theorem readAs_textLine (key value : String) :
    ReadAs (textLine key value) (assigns [(key, .string value)]) :=
  .assign key (Toml.reads_textChars value)

theorem readAs_flagLine (key : String) (value : Bool) :
    ReadAs (flagLine key value) (assigns [(key, .bool value)]) :=
  .assign key (Toml.reads_boolChars value)

theorem readAs_countLine (key : String) {value : Nat} (h : value ≤ maxWord) :
    ReadAs (countLine key value) (assigns [(key, .nat value)]) := by
  have hword : (maxWord : Int) ≤ Int64.maxValue.toInt := by decide
  exact .assign key (Toml.reads_natChars (Int.le_trans (Int.ofNat_le.mpr h) hword))

/-- The value of a text, if it is not missing. -/
def optionEntries (key : String) (value : Option String) : List (String × Value) :=
  value.toList.map fun s => (key, .string s)

theorem readAs_optionLine (key : String) (value : Option String) :
    ReadAs (optionLine key value) (assigns (optionEntries key value)) := by
  cases value with
  | none => exact .nil
  | some s => exact readAs_textLine key s

/-- The value of a grouping that is no list. -/
def groupingEntries : Grouping → List (String × Value)
  | .none => [("group_by_times", .string "none")]
  | .hour => [("group_by_times", .string "hour")]
  | .half => [("group_by_times", .string "half")]
  | .custom _ => []

theorem readAs_groupingLine (g : Grouping) :
    ReadAs (groupingLine g) (assigns (groupingEntries g)) := by
  cases g with
  | none => exact readAs_textLine _ _
  | hour => exact readAs_textLine _ _
  | half => exact readAs_textLine _ _
  | custom times => exact .nil

/-- The table of a grouping that is a list. -/
def nestedGrouping : Grouping → List (String × List (String × Value))
  | .custom times => [("group_by_times", [("custom", .ofStrings times)])]
  | _ => []

theorem readAs_groupingTable (g : Grouping) :
    ReadAs (groupingTable g) (tablesStatements ["style"] (nestedGrouping g)) := by
  cases g with
  | none => exact .nil
  | hour => exact .nil
  | half => exact .nil
  | custom times =>
    have hheader : ReadAs (Toml.headerLine ["style", "group_by_times"])
        [.header ⟨["style"], "group_by_times"⟩] := .header ["style"] _ (by decide)
    exact hheader.append (.assign "custom" (Toml.reads_listChars times))

/-- The values of the display options. -/
def styleEntries (s : Style) : List (String × Value) :=
  let before : List (String × Value) :=
    [("mini", .bool s.mini), ("show_week_numbers", .bool s.showWeekNumbers),
      ("max_items", .nat s.maxItems), ("max_items_behavior", .string s.overflow.name)]
  let behind : List (String × Value) :=
    [("multi_day_theme", .bool s.multiDayTheme), ("first_day_of_week", .nat s.firstDay),
      ("name_size", .nat s.nameSize), ("link_to_date", .bool s.linkToDate),
      ("time_granularity", .string s.precision.granularity.name),
      ("time_increment", .nat s.precision.increment)]
  before ++ groupingEntries s.grouping ++ behind

/-- The values of the link templates. -/
def linkEntries (l : Links) : List (String × Value) :=
  optionEntries "day" l.day ++ optionEntries "week" l.week ++ optionEntries "month" l.month

/-- The tables in the display options. -/
def nestedStyle (s : Style) : List (String × List (String × Value)) :=
  nestedGrouping s.grouping ++ [("granularity_links", linkEntries s.links)]

/-- The statements of the display options. -/
def styleStatements (s : Style) : List Statement :=
  tableStatements [] "style" (styleEntries s) ++ tablesStatements ["style"] (nestedStyle s)

theorem readAs_styleTables {s : Style} (hvalid : s.fault? = none) (hmax : s.maxItems ≤ maxWord) :
    ReadAs (styleTables s) (styleStatements s) := by
  obtain ⟨hfirst, hname, hincrement⟩ := Style.bounds_of_valid hvalid
  have hstyle : ReadAs (Toml.headerLine ["style"]) [.header ⟨[], "style"⟩] :=
    .header [] _ (by decide)
  have hlinks : ReadAs (Toml.headerLine ["style", "granularity_links"])
      [.header ⟨["style"], "granularity_links"⟩] := .header ["style"] _ (by decide)
  have hread := hstyle.append (readAs_flagLine "mini" s.mini)
    |>.append (readAs_flagLine "show_week_numbers" s.showWeekNumbers)
    |>.append (readAs_countLine "max_items" hmax)
    |>.append (readAs_textLine "max_items_behavior" s.overflow.name)
    |>.append (readAs_groupingLine s.grouping)
    |>.append (readAs_flagLine "multi_day_theme" s.multiDayTheme)
    |>.append (readAs_countLine "first_day_of_week" (hfirst.trans (by decide)))
    |>.append (readAs_countLine "name_size" (hname.trans (by decide)))
    |>.append (readAs_flagLine "link_to_date" s.linkToDate)
    |>.append (readAs_textLine "time_granularity" s.precision.granularity.name)
    |>.append (readAs_countLine "time_increment" (hincrement.trans (by decide)))
    |>.append (readAs_groupingTable s.grouping)
    |>.append hlinks
    |>.append (readAs_optionLine "day" s.links.day)
    |>.append (readAs_optionLine "week" s.links.week)
    |>.append (readAs_optionLine "month" s.links.month)
  simpa [styleTables, styleStatements, styleEntries, nestedStyle, linkEntries, tablesStatements,
    tableStatements, assigns] using hread

/-- The values of a dictionary. -/
def dictionaryEntries (d : Dictionary) : List (String × Value) :=
  d.entries.map fun (key, value) => (key, .string value)

theorem readAs_dictionaryTable {parents : List String} (name : String)
    (hdepth : parents.length < Toml.depthLimit) (d : Dictionary) :
    ReadAs (dictionaryTable (parents ++ [name]) d)
      (tableStatements parents name (dictionaryEntries d)) := by
  have hlines : ReadAs (d.entries.flatMap fun (key, value) => textLine key value)
      (assigns (dictionaryEntries d)) := by
    rw [dictionaryEntries]
    induction d.entries with
    | nil => exact .nil
    | cons entry entries ih => exact (readAs_textLine entry.1 entry.2).append ih
  exact (ReadAs.header parents name hdepth).append hlines

/-- The tables in a legend. -/
def nestedLegend (l : Legend) : List (String × List (String × Value)) :=
  [("type_colors", dictionaryEntries l.typeColors), ("type_labels", dictionaryEntries l.typeLabels),
    ("taxonomy_colors", dictionaryEntries l.taxonomyColors)]

/-- The statements of a legend. -/
def legendStatements (l : Legend) : List Statement :=
  tableStatements [] "legend" [("mode", .string l.mode.name)] ++
    tablesStatements ["legend"] (nestedLegend l)

theorem readAs_legendTables (l : Legend) : ReadAs (legendTables l) (legendStatements l) := by
  have hdepth : ["legend"].length < Toml.depthLimit := by decide
  have hheader : ReadAs (Toml.headerLine ["legend"]) [.header ⟨[], "legend"⟩] :=
    .header [] _ (by decide)
  have hread := hheader.append (readAs_textLine "mode" l.mode.name)
    |>.append (readAs_dictionaryTable "type_colors" hdepth l.typeColors)
    |>.append (readAs_dictionaryTable "type_labels" hdepth l.typeLabels)
    |>.append (readAs_dictionaryTable "taxonomy_colors" hdepth l.taxonomyColors)
  simpa [legendTables, legendStatements, nestedLegend, tablesStatements, tableStatements, assigns]
    using hread

/-- The values in front of the tables. -/
def plainEntries (s : Settings) : List (String × Value) :=
  [("calendar_type", .string s.calendarType.name), ("timezone", .string s.zoneName),
    ("view_id", .string s.viewId)]

/-- The statements of a settings document. -/
def statements (s : Settings) : List Statement :=
  assigns s.plainEntries ++ styleStatements s.style ++ legendStatements s.legend

/-- **The document of settings is read as its statements.** -/
theorem documentStatements?_toToml {s : Settings} (hvalid : s.style.fault? = none)
    (hmax : s.style.maxItems ≤ maxWord) :
    Toml.documentStatements? s.toToml.toList = some s.statements := by
  have hplain := readAs_textLine "calendar_type" s.calendarType.name
    |>.append (readAs_textLine "timezone" s.zoneName)
    |>.append (readAs_textLine "view_id" s.viewId)
  have hread := (hplain.append (readAs_styleTables hvalid hmax)).append
    (readAs_legendTables s.legend)
  rw [toToml, String.toList_ofList]
  refine Toml.documentStatements?_eq ?_ ?_
  · exact hread
  · have hmark : Toml.Outside '\uFEFF' := ⟨by decide, by decide, by decide⟩
    intro tail
    simp only [textLine, Toml.assignLine, List.append_assoc]
    exact Toml.nameChars_ne hmark _

/-! ## What the statements build -/

/-- The content of the table of the display options. -/
def styleContent (s : Style) : List (String × Value) :=
  styleEntries s ++ (nestedStyle s).map fun (name, entries) => (name, .table entries)

/-- The content of the table of a legend. -/
def legendContent (l : Legend) : List (String × Value) :=
  ("mode", .string l.mode.name) ::
    (nestedLegend l).map fun (name, entries) => (name, .table entries)

/-- The content of a settings document. -/
def content (s : Settings) : List (String × Value) :=
  s.plainEntries ++
    [("style", .table (styleContent s.style)), ("legend", .table (legendContent s.legend))]

/-- The display options as they are built. -/
def styleMembers (s : Style) : Members :=
  valueMembers (styleEntries s) ++ tableMembers (nestedStyle s)

/-- A legend as it is built. -/
def legendMembers (l : Legend) : Members :=
  valueMembers [("mode", .string l.mode.name)] ++ tableMembers (nestedLegend l)

/-- A settings document as it is built. -/
def members (s : Settings) : Members :=
  valueMembers s.plainEntries ++ [("style", .table .header (styleMembers s.style))] ++
    [("legend", .table .header (legendMembers s.legend))]

theorem membersValue_members (s : Settings) : Toml.membersValue s.members = s.content := by
  simp [members, styleMembers, legendMembers, content, styleContent, legendContent,
    Toml.membersValue_append, Toml.membersValue_valueMembers, Toml.membersValue_tableMembers,
    Toml.membersValue, Toml.Item.toValue]

/-- The display options have each key once, whatever the grouping. -/
theorem nodup_style (s : Style) :
    ((styleEntries s).map Prod.fst ++ (nestedStyle s).map Prod.fst).Nodup := by
  rw [styleEntries, nestedStyle]
  cases s.grouping <;> simp [groupingEntries, nestedGrouping]

theorem nodup_linkEntries (l : Links) : ((linkEntries l).map Prod.fst).Nodup := by
  rw [linkEntries]
  cases l.day <;> cases l.week <;> cases l.month <;> simp [optionEntries]

theorem nodup_nestedStyle (s : Style) :
    ∀ table ∈ nestedStyle s, (table.2.map Prod.fst).Nodup := by
  intro table htable
  rcases List.mem_append.mp htable with hgrouping | hlinks
  · cases hcase : s.grouping with
    | custom times =>
      rw [hcase] at hgrouping
      rw [List.mem_singleton.mp hgrouping]
      exact List.nodup_singleton _
    | _ =>
      rw [hcase] at hgrouping
      cases hgrouping
  · rw [List.mem_singleton.mp hlinks]
    exact nodup_linkEntries s.links

/-- Settings as documents hold them and the program keeps them: dictionaries in the order of their
keys, each key once, and a number of items of 32 bits. -/
structure Representable (s : Settings) : Prop where
  typeColors : s.legend.typeColors.Ordered
  typeLabels : s.legend.typeLabels.Ordered
  taxonomyColors : s.legend.taxonomyColors.Ordered
  maxItems : s.style.maxItems ≤ maxWord

theorem nodup_dictionaryEntries {d : Dictionary} (h : d.Ordered) :
    ((dictionaryEntries d).map Prod.fst).Nodup := by
  rw [dictionaryEntries, List.map_map]
  exact h.nodup_keys

theorem nodup_nestedLegend {s : Settings} (h : s.Representable) :
    ∀ table ∈ nestedLegend s.legend, (table.2.map Prod.fst).Nodup := by
  intro table htable
  simp only [nestedLegend, List.mem_cons, List.not_mem_nil, or_false] at htable
  rcases htable with rfl | rfl | rfl
  · exact nodup_dictionaryEntries h.typeColors
  · exact nodup_dictionaryEntries h.typeLabels
  · exact nodup_dictionaryEntries h.taxonomyColors

/-- **The statements of settings build their document.** -/
theorem builds_statements {s : Settings} (h : s.Representable) :
    ∃ current, Builds {} s.statements ⟨s.members, current⟩ := by
  let plain : Members := valueMembers s.plainEntries
  have hplain : Builds ⟨id [], []⟩ (assigns s.plainEntries) ⟨id plain, []⟩ :=
    .assigns Leads.root (by simp [plainEntries, Members.keys])
  obtain ⟨current, hstyle⟩ : ∃ current, Builds ⟨id plain, []⟩ (styleStatements s.style)
      ⟨id (plain ++ [("style", .table .header (styleMembers s.style))]), current⟩ :=
    Builds.tableWith Leads.root (by simp [plain, plainEntries, valueMembers])
      (nodup_style s.style) (nodup_nestedStyle s.style) []
  obtain ⟨current', hlegend⟩ : ∃ current', Builds
      ⟨id (plain ++ [("style", .table .header (styleMembers s.style))]), current⟩
      (legendStatements s.legend) ⟨id s.members, current'⟩ :=
    Builds.tableWith Leads.root (by simp [plain, plainEntries, valueMembers])
      (by simp [nestedLegend]) (nodup_nestedLegend h) current
  exact ⟨current', (hplain.append hstyle).append hlegend⟩

theorem read?_toToml {s : Settings} (hvalid : s.style.fault? = none) (h : s.Representable) :
    Toml.read? s.toToml = some (.table s.content) := by
  obtain ⟨current, hbuilds⟩ := builds_statements h
  rw [Toml.read?, documentStatements?_toToml hvalid h.maxItems, Option.bind_some,
    Toml.Tree.ofStatements?, hbuilds, ← membersValue_members]
  rfl

end Settings

/-! ## What the document says -/

theorem Granularity.named?_name (g : Granularity) :
    Value.named? Toml.dialect named? (.string g.name) = some g := by
  cases g <;> rfl

theorem Overflow.named?_name (o : Overflow) :
    Value.named? Toml.dialect named? (.string o.name) = some o := by
  cases o <;> rfl

theorem TimeGranularity.named?_name (g : TimeGranularity) :
    Value.named? Toml.dialect named? (.string g.name) = some g := by
  cases g <;> rfl

theorem LegendMode.named?_name (m : LegendMode) :
    Value.named? Toml.dialect named? (.string m.name) = some m := by
  cases m <;> rfl

theorem Grouping.ofValue?_toValue (g : Grouping) : ofValue? Toml.dialect g.toValue = some g := by
  cases g with
  | none => rfl
  | hour => rfl
  | half => rfl
  | custom times =>
    show (Value.list? Value.string? (.ofStrings times)).map custom = _
    rw [Value.list?_ofStrings]
    rfl

namespace Settings

theorem ofValue?_linkEntries (l : Links) :
    Links.ofValue? Toml.dialect (.table (linkEntries l)) = some l := by
  have hnames : ∀ name ∈ (linkEntries l).map Prod.fst, name ∈ Links.fieldNames := by
    rw [linkEntries]
    cases l.day <;> cases l.week <;> cases l.month <;> simp [optionEntries, Links.fieldNames]
  rw [Links.ofValue?, RecordFields.read?_table hnames (nodup_linkEntries l)]
  obtain ⟨day, week, month⟩ := l
  cases day <;> cases week <;> cases month <;> rfl

theorem keys_styleContent (s : Style) :
    (styleContent s).map Prod.fst =
      (styleEntries s).map Prod.fst ++ (nestedStyle s).map Prod.fst := by
  rw [styleContent, List.map_append, List.map_map]
  rfl

theorem ofValue?_styleContent {s : Style} (hvalid : s.fault? = none) (hmax : s.maxItems ≤ maxWord) :
    Style.ofValue? Toml.dialect (.table (styleContent s)) = some s := by
  obtain ⟨hfirst, hname, hincrement⟩ := Style.bounds_of_valid hvalid
  have hkeys : ((styleContent s).map Prod.fst).Nodup := keys_styleContent s ▸ nodup_style s
  have hnames : ∀ name ∈ (styleContent s).map Prod.fst, name ∈ Style.fieldNames := by
    rw [keys_styleContent, styleEntries, nestedStyle]
    cases s.grouping <;> simp [groupingEntries, nestedGrouping, Style.fieldNames]
  have hfield {name : String} {v : Value} (h : (name, v) ∈ styleContent s) {α : Type}
      (read : Value → Option α) (value : α) :
      RecordFields.default? ⟨styleContent s⟩ name read value = read v :=
    RecordFields.default?_of_mem hkeys h read value
  have hmini : ("mini", .bool s.mini) ∈ styleContent s := by simp [styleContent, styleEntries]
  have hweeks : ("show_week_numbers", .bool s.showWeekNumbers) ∈ styleContent s := by
    simp [styleContent, styleEntries]
  have hitems : ("max_items", .nat s.maxItems) ∈ styleContent s := by
    simp [styleContent, styleEntries]
  have hoverflow : ("max_items_behavior", .string s.overflow.name) ∈ styleContent s := by
    simp [styleContent, styleEntries]
  have hgrouping : ("group_by_times", s.grouping.toValue) ∈ styleContent s := by
    rw [styleContent, styleEntries, nestedStyle]
    cases s.grouping <;> simp [groupingEntries, nestedGrouping, Grouping.toValue]
  have htheme : ("multi_day_theme", .bool s.multiDayTheme) ∈ styleContent s := by
    simp [styleContent, styleEntries]
  have hday : ("first_day_of_week", .nat s.firstDay) ∈ styleContent s := by
    simp [styleContent, styleEntries]
  have hsize : ("name_size", .nat s.nameSize) ∈ styleContent s := by
    simp [styleContent, styleEntries]
  have hdate : ("link_to_date", .bool s.linkToDate) ∈ styleContent s := by
    simp [styleContent, styleEntries]
  have hlinks : ("granularity_links", .table (linkEntries s.links)) ∈ styleContent s := by
    simp [styleContent, nestedStyle]
  have hunit : ("time_granularity", .string s.precision.granularity.name) ∈ styleContent s := by
    simp [styleContent, styleEntries]
  have hcount : ("time_increment", .nat s.precision.increment) ∈ styleContent s := by
    simp [styleContent, styleEntries]
  rw [Style.ofValue?, RecordFields.read?_table hnames hkeys]
  dsimp only [Option.bind_eq_bind, Option.bind_some]
  rw [hfield hmini, hfield hweeks, hfield hitems, Value.nat?_nat hmax, hfield hoverflow,
    Overflow.named?_name, hfield hgrouping, Grouping.ofValue?_toValue, hfield htheme, hfield hday,
    Value.nat?_nat (hfirst.trans (by decide)), hfield hsize,
    Value.nat?_nat (hname.trans (by decide)), hfield hdate, hfield hlinks, ofValue?_linkEntries,
    hfield hunit, TimeGranularity.named?_name, hfield hcount,
    Value.nat?_nat (hincrement.trans (by decide))]
  rfl

theorem ofValue?_legendContent {s : Settings} (h : s.Representable) :
    Legend.ofValue? Toml.dialect (.table (legendContent s.legend)) = some s.legend := by
  have hkeys : ((legendContent s.legend).map Prod.fst).Nodup := by
    simp [legendContent, nestedLegend]
  have hnames : ∀ name ∈ (legendContent s.legend).map Prod.fst, name ∈ Legend.fieldNames := by
    simp [legendContent, nestedLegend, Legend.fieldNames]
  have hfield {name : String} {v : Value} (h : (name, v) ∈ legendContent s.legend) {α : Type}
      (read : Value → Option α) (value : α) :
      RecordFields.default? ⟨legendContent s.legend⟩ name read value = read v :=
    RecordFields.default?_of_mem hkeys h read value
  have hmode : ("mode", .string s.legend.mode.name) ∈ legendContent s.legend :=
    List.mem_cons_self
  have hcolors : ("type_colors", .ofDictionary s.legend.typeColors) ∈ legendContent s.legend := by
    simp [legendContent, nestedLegend, dictionaryEntries, Value.ofDictionary]
  have hlabels : ("type_labels", .ofDictionary s.legend.typeLabels) ∈ legendContent s.legend := by
    simp [legendContent, nestedLegend, dictionaryEntries, Value.ofDictionary]
  have hterms : ("taxonomy_colors", .ofDictionary s.legend.taxonomyColors) ∈
      legendContent s.legend := by
    simp [legendContent, nestedLegend, dictionaryEntries, Value.ofDictionary]
  rw [Legend.ofValue?, RecordFields.read?_table hnames hkeys]
  simp only [Option.bind_eq_bind, Option.bind_some, hfield hmode, hfield hcolors, hfield hlabels,
    hfield hterms, LegendMode.named?_name, Value.dictionary?_ofDictionary h.typeColors,
    Value.dictionary?_ofDictionary h.typeLabels, Value.dictionary?_ofDictionary h.taxonomyColors]
  rfl

/-- **The document of settings says these settings.** -/
theorem ofValue?_content {s : Settings} (hvalid : s.style.fault? = none) (h : s.Representable) :
    ofValue? Toml.dialect (.table s.content) = some s := by
  have hkeys : (s.content.map Prod.fst).Nodup := by simp [content, plainEntries]
  have hnames : ∀ name ∈ s.content.map Prod.fst, name ∈ fieldNames := by
    simp [content, plainEntries, fieldNames]
  have hfield {name : String} {v : Value} (h : (name, v) ∈ s.content) {α : Type}
      (read : Value → Option α) (value : α) :
      RecordFields.default? ⟨s.content⟩ name read value = read v :=
    RecordFields.default?_of_mem hkeys h read value
  have htype : ("calendar_type", .string s.calendarType.name) ∈ s.content := by
    simp [content, plainEntries]
  have hzone : ("timezone", .string s.zoneName) ∈ s.content := by simp [content, plainEntries]
  have hview : ("view_id", .string s.viewId) ∈ s.content := by simp [content, plainEntries]
  have hstyle : ("style", .table (styleContent s.style)) ∈ s.content := by
    simp [content, plainEntries]
  have hlegend : ("legend", .table (legendContent s.legend)) ∈ s.content := by
    simp [content, plainEntries]
  rw [ofValue?, RecordFields.read?_table hnames hkeys]
  simp only [Option.bind_eq_bind, Option.bind_some, hfield htype, hfield hzone, hfield hview,
    hfield hstyle, hfield hlegend, Granularity.named?_name, Value.string?,
    ofValue?_styleContent hvalid h.maxItems, ofValue?_legendContent h]
  rfl

/-! ## Settings that are saved -/

theorem style_valid {zones : Zones} {s : Settings} (h : s.fault? zones = none) :
    s.style.fault? = none := by
  rw [fault?] at h
  split_ifs at h
  exact (Option.or_eq_none_iff.mp h).1

/-- **Settings survive their document.** -/
theorem ofToml_toToml {zones : Zones} {s : Settings} (hvalid : s.fault? zones = none)
    (h : s.Representable) : ofToml zones s.toToml = .ok s := by
  rw [ofToml, read?_toToml (style_valid hvalid) h, Option.bind_some,
    ofValue?_content (style_valid hvalid) h]
  dsimp only
  rw [hvalid]

theorem maxItems_of_ofValue? {dialect : Dialect} {v : Value} {s : Style}
    (h : Style.ofValue? dialect v = some s) : s.maxItems ≤ maxWord := by
  -- The record is read, then its twelve fields; the number of items is the third of them.
  iterate 3 obtain ⟨_, -, h⟩ := Option.bind_eq_some_iff.mp h
  obtain ⟨maxItems, hitems, h⟩ := Option.bind_eq_some_iff.mp h
  iterate 9 obtain ⟨_, -, h⟩ := Option.bind_eq_some_iff.mp h
  obtain rfl := Option.some.inj h
  rcases RecordFields.default?_eq_some hitems with ⟨v, hv⟩ | rfl
  · exact Value.le_of_nat? hv
  · exact Nat.zero_le _

theorem ordered_of_default? {f : RecordFields} {name : String} {d : Dictionary}
    (h : f.default? name Value.dictionary? ∅ = some d) : d.Ordered := by
  rcases RecordFields.default?_eq_some h with ⟨v, hv⟩ | rfl
  · exact Value.ordered_of_dictionary? hv
  · exact List.Pairwise.nil

theorem ordered_of_ofValue? {dialect : Dialect} {v : Value} {l : Legend}
    (h : Legend.ofValue? dialect v = some l) :
    l.typeColors.Ordered ∧ l.typeLabels.Ordered ∧ l.taxonomyColors.Ordered := by
  simp only [Legend.ofValue?, Option.bind_eq_bind, Option.bind_eq_some_iff] at h
  obtain ⟨f, -, mode, -, colors, hcolors, labels, hlabels, terms, hterms, hl⟩ := h
  obtain rfl := Option.some.inj hl
  exact ⟨ordered_of_default? hcolors, ordered_of_default? hlabels, ordered_of_default? hterms⟩

/-- **Whatever is read from a document can be held by one.** -/
theorem representable_of_ofValue? {dialect : Dialect} {v : Value} {s : Settings}
    (h : ofValue? dialect v = some s) : s.Representable := by
  simp only [ofValue?, Option.bind_eq_bind, Option.bind_eq_some_iff] at h
  obtain ⟨f, -, granularity, -, zone, -, view, -, style, hstyle, legend, hlegend, hs⟩ := h
  obtain rfl := Option.some.inj hs
  have hmax : style.maxItems ≤ maxWord := by
    rcases RecordFields.default?_eq_some hstyle with ⟨v, hv⟩ | rfl
    · exact maxItems_of_ofValue? hv
    · exact Nat.zero_le _
  have hordered : legend.typeColors.Ordered ∧ legend.typeLabels.Ordered ∧
      legend.taxonomyColors.Ordered := by
    rcases RecordFields.default?_eq_some hlegend with ⟨v, hv⟩ | rfl
    · exact ordered_of_ofValue? hv
    · exact ⟨List.Pairwise.nil, List.Pairwise.nil, List.Pairwise.nil⟩
  exact ⟨hordered.1, hordered.2.1, hordered.2.2, hmax⟩

/-- Settings that were read from a document have no fault, and documents can hold them. -/
theorem valid_of_ofToml {zones : Zones} {text : String} {s : Settings}
    (h : ofToml zones text = .ok s) : s.fault? zones = none ∧ s.Representable := by
  rw [ofToml] at h
  split at h
  · cases h
  · rename_i read hread
    cases hfault : read.fault? zones with
    | some fault =>
      rw [hfault] at h
      cases h
    | none =>
      rw [hfault] at h
      obtain rfl := Except.ok.inj h
      obtain ⟨v, -, hv⟩ := Option.bind_eq_some_iff.mp hread
      exact ⟨hfault, representable_of_ofValue? hv⟩

/-- Settings that were read from a document need no further condition. -/
theorem ofToml_toToml_of_ofToml {zones : Zones} {text : String} {s : Settings}
    (h : ofToml zones text = .ok s) : ofToml zones s.toToml = .ok s := by
  obtain ⟨hvalid, hrepresentable⟩ := valid_of_ofToml h
  exact ofToml_toToml hvalid hrepresentable

end Settings

namespace SettingsFile

theorem fromUTF8?_toUTF8 (text : String) : String.fromUTF8? text.toUTF8 = some text :=
  dif_pos text.isValidUTF8

theorem load_of_text (zones : Zones) {text : String} {place : SettingsFile}
    (h : place.text? = some text) :
    place.load zones = (Settings.ofToml zones text).mapError .document := by
  obtain ⟨bytes, hbytes, hread⟩ := Option.bind_eq_some_iff.mp h
  rw [load, hbytes]
  dsimp only
  rw [hread]

/-- **Settings that are saved are loaded again as they were.** -/
theorem load_save {zones : Zones} {s : Settings} (hvalid : s.fault? zones = none)
    (h : s.Representable) {place : SettingsFile} (hplace : place ≠ .blocked) :
    ∃ saved, save zones s place = .ok saved ∧ saved.text? = some s.toToml ∧
      Settings.ofToml zones s.toToml = .ok s ∧ saved.load zones = .ok s := by
  have hsaved : save zones s place = .ok (.directory (some s.toToml.toUTF8)) := by
    rw [save, hvalid]
    cases place with
    | blocked => exact absurd rfl hplace
    | noDirectory => rfl
    | directory file => rfl
  have htext : (directory (some s.toToml.toUTF8)).text? = some s.toToml := by
    rw [text?, bytes?, Option.bind_some, fromUTF8?_toUTF8]
  have hread := Settings.ofToml_toToml hvalid h
  refine ⟨_, hsaved, htext, hread, ?_⟩
  rw [load_of_text zones htext, hread]
  rfl

/-- Settings with marks, line ends and control characters in their texts. -/
def marked : Settings where
  viewId := "\"three\" \\ \x27\x27\x27\n"
  style := {
    grouping := .custom ["09:00", "\r\n\"\"\"\x27\x27\x27\x00"]
    links := { day := some "\n/day\t\"\"", month := some "" } }
  legend := {
    mode := .type
    typeColors := ⟨[("", "#fff"), ("a.b \x27\"\n", "#00ff00")]⟩ }

theorem load_save_marked :
    marked.fault? .listed = none ∧
      ∃ saved, save .listed marked .noDirectory = .ok saved ∧
        saved.text? = some marked.toToml ∧
        Settings.ofToml .listed marked.toToml = .ok marked ∧ saved.load .listed = .ok marked :=
  ⟨by decide +kernel, load_save (by decide +kernel)
    ⟨by decide +kernel, by decide, by decide, by decide⟩ fun h => by cases h⟩

end SettingsFile
end Almanac
