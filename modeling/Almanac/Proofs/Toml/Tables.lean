import Almanac.Toml.Tree
import Mathlib.Data.List.Basic
import Mathlib.Data.List.Nodup

/-! # Tables that are put together from statements

Where every header names a new table and every key below it is new, the tree of the statements is
the list of what they say, in their order (`Toml.Builds.table`).

Statements change a table deep inside the document.  Seen from that table, the rest of the document
stays as it is: names lead to a table (`Toml.Leads`) if a change under these names is the change of
that table, put back in its place.  A table at the end of such a table is led to by one name more
(`Toml.Leads.child`), so only the root has to be looked at.
-/
namespace Almanac.Toml

/-- The keys of a table. -/
abbrev Members.keys (members : Members) : List String :=
  members.map Prod.fst

variable {name : String} {names parents current : List String} {inner before : Members}
  {whole : Members → Members} {entries : List (String × Value)}
  {subtables : List (String × List (String × Value))} {v : Value}

namespace Members

/-- A name that is not among the first members is looked for behind them. -/
theorem update?_append (h : name ∉ keys before) (change : Option Item → Option Item)
    (after : Members) :
    update? name change (before ++ after) = (update? name change after).map (before ++ ·) := by
  induction before with
  | nil => simp
  | cons member before ih =>
    rw [keys, List.map_cons, List.mem_cons, not_or] at h
    rw [List.cons_append, update?, if_neg (Ne.symm h.1), ih h.2, Option.map_map]
    rfl

/-- A new name comes last. -/
theorem update?_new (h : name ∉ keys inner) (change : Option Item → Option Item) :
    update? name change inner = (change none).map fun item => inner ++ [(name, item)] := by
  have hlast := update?_append h change []
  rw [List.append_nil] at hlast
  rw [hlast, update?, Option.map_map]
  rfl

/-- Names are followed one after the other. -/
theorem within?_append (made : Origin) (enters : Origin → Bool)
    (change : Origin → Members → Option Members) (names more : List String) (origin : Origin)
    (members : Members) :
    within? made enters change (names ++ more) origin members =
      within? made enters (within? made enters change more) names origin members := by
  induction names generalizing origin members with
  | nil => rfl
  | cons name names ih =>
    rw [List.cons_append, within?, within?]
    simp only [ih]

/-- A header of one name more changes the table of that name in the table of the others. -/
theorem underHeader?_concat (names : List String) (name : String)
    (change : Members → Option Members) (members : Members) :
    underHeader? (names ++ [name]) change members =
      underHeader? names (underHeader? [name] change) members := by
  rw [underHeader?, within?_append]
  rfl

theorem underHeader?_last (h : name ∉ keys before) (change : Members → Option Members)
    (inner : Members) :
    underHeader? [name] change (before ++ [(name, .table .header inner)]) =
      (change inner).map fun inner => before ++ [(name, .table .header inner)] := by
  rw [underHeader?, within?, update?_append h, update?, if_pos rfl]
  simp only [if_true, within?, Option.map_map]
  rfl

end Members

/-! ## The way to a table -/

/-- **Names lead to a table**: the document is `whole` of it, and a change under these names is a
change of the table alone. -/
def Leads (names : List String) (whole : Members → Members) : Prop :=
  ∀ inner change, (whole inner).underHeader? names change = (change inner).map whole

namespace Leads

theorem root : Leads [] id := by
  intro inner change
  rw [Option.map_id]
  rfl

/-- The last table of a table is led to by its name. -/
theorem child (h : Leads names whole) (hfresh : name ∉ before.keys) :
    Leads (names ++ [name]) fun inner => whole (before ++ [(name, .table .header inner)]) := by
  intro inner change
  rw [Members.underHeader?_concat, h, Members.underHeader?_last hfresh, Option.map_map]
  rfl

end Leads

/-! ## Statement after statement -/

/-- Values given to keys of one name. -/
def assigns (entries : List (String × Value)) : List Statement :=
  entries.map fun (name, v) => .assign ⟨[], name⟩ v

/-- A header with values below it. -/
def tableStatements (parents : List String) (name : String) (entries : List (String × Value)) :
    List Statement :=
  .header ⟨parents, name⟩ :: assigns entries

/-- Members that are values. -/
def valueMembers (entries : List (String × Value)) : Members :=
  entries.map fun (name, v) => (name, .value v)

/-- Headers with values below them, in one parent. -/
def tablesStatements (parents : List String) (tables : List (String × List (String × Value))) :
    List Statement :=
  tables.flatMap fun (name, entries) => tableStatements parents name entries

/-- Members that are tables of values. -/
def tableMembers (tables : List (String × List (String × Value))) : Members :=
  tables.map fun (name, entries) => (name, .table .header (valueMembers entries))

theorem keys_valueMembers (entries : List (String × Value)) :
    (valueMembers entries).keys = entries.map Prod.fst := by
  rw [valueMembers, Members.keys, List.map_map]
  rfl

theorem add?_assign (h : Leads names whole) (hfresh : name ∉ inner.keys) (v : Value) :
    Tree.add? ⟨whole inner, names⟩ (.assign ⟨[], name⟩ v) =
      some ⟨whole (inner ++ [(name, .value v)]), names⟩ := by
  have hchange : Members.assign? ⟨[], name⟩ v inner = some (inner ++ [(name, .value v)]) :=
    Members.update?_new hfresh _
  rw [Tree.add?, h, hchange]
  rfl

theorem add?_header (h : Leads parents whole) (hfresh : name ∉ inner.keys) (current : List String) :
    Tree.add? ⟨whole inner, current⟩ (.header ⟨parents, name⟩) =
      some ⟨whole (inner ++ [(name, .table .header [])]), parents ++ [name]⟩ := by
  rw [Tree.add?, Members.open?, h, Members.update?_new hfresh]
  rfl

/-- Statements make one document of another. -/
def Builds (t : Tree) (statements : List Statement) (t' : Tree) : Prop :=
  statements.foldlM Tree.add? t = some t'

namespace Builds

variable {t t' t'' : Tree} {statements more : List Statement}

theorem nil (t : Tree) : Builds t [] t :=
  rfl

theorem append (h : Builds t statements t') (hmore : Builds t' more t'') :
    Builds t (statements ++ more) t'' := by
  rw [Builds, List.foldlM_append, h]
  exact hmore

/-- Values are put behind the values of the current table. -/
theorem assigns (h : Leads names whole) (hkeys : (inner.keys ++ entries.map Prod.fst).Nodup) :
    Builds ⟨whole inner, names⟩ (assigns entries)
      ⟨whole (inner ++ valueMembers entries), names⟩ := by
  induction entries generalizing inner with
  | nil =>
    rw [valueMembers, List.map_nil, List.append_nil]
    exact nil _
  | cons entry entries ih =>
    obtain ⟨name, v⟩ := entry
    have hfresh : name ∉ inner.keys := fun hmem =>
      (List.nodup_append.mp hkeys).2.2 name hmem name List.mem_cons_self rfl
    have hlater :
        ((inner ++ [(name, Item.value v)]).map Prod.fst ++ entries.map Prod.fst).Nodup := by
      simpa using hkeys
    have hrest := ih hlater
    rw [List.append_assoc] at hrest
    rw [Builds, Toml.assigns, List.map_cons, List.foldlM_cons, add?_assign h hfresh]
    exact hrest

/-- **A header makes a table at the end of its parent**, with the values below it. -/
theorem table (h : Leads parents whole) (hfresh : name ∉ inner.keys)
    (hkeys : (entries.map Prod.fst).Nodup) (current : List String) :
    Builds ⟨whole inner, current⟩ (tableStatements parents name entries)
      ⟨whole (inner ++ [(name, .table .header (valueMembers entries))]), parents ++ [name]⟩ := by
  have hvalues : Builds ⟨whole (inner ++ [(name, .table .header [])]), parents ++ [name]⟩
      (Toml.assigns entries)
      ⟨whole (inner ++ [(name, .table .header (valueMembers entries))]), parents ++ [name]⟩ :=
    assigns (h.child hfresh) hkeys
  rw [Builds, tableStatements, List.foldlM_cons, add?_header h hfresh]
  exact hvalues

/-- Tables are put one behind the other. -/
theorem tables (h : Leads parents whole)
    (hkeys : (inner.keys ++ subtables.map Prod.fst).Nodup)
    (hentries : ∀ table ∈ subtables, (table.2.map Prod.fst).Nodup) (current : List String) :
    ∃ current', Builds ⟨whole inner, current⟩ (tablesStatements parents subtables)
      ⟨whole (inner ++ tableMembers subtables), current'⟩ := by
  induction subtables generalizing inner current with
  | nil =>
    rw [tableMembers, List.map_nil, List.append_nil]
    exact ⟨current, nil _⟩
  | cons first subtables ih =>
    obtain ⟨name, entries⟩ := first
    have hfresh : name ∉ inner.keys := fun hmem =>
      (List.nodup_append.mp hkeys).2.2 name hmem name List.mem_cons_self rfl
    have hlater : ((inner ++ [(name, Item.table .header (valueMembers entries))]).map Prod.fst ++
        subtables.map Prod.fst).Nodup := by
      simpa using hkeys
    have hfirst := table h hfresh (hentries _ List.mem_cons_self) current
    obtain ⟨current', hrest⟩ := ih hlater
      (fun table htable => hentries table (List.mem_cons_of_mem _ htable)) (parents ++ [name])
    rw [List.append_assoc] at hrest
    exact ⟨current', hfirst.append hrest⟩

/-- **A header makes a table with values and tables in it.** -/
theorem tableWith (h : Leads parents whole) (hfresh : name ∉ inner.keys)
    (hkeys : (entries.map Prod.fst ++ subtables.map Prod.fst).Nodup)
    (hentries : ∀ table ∈ subtables, (table.2.map Prod.fst).Nodup) (current : List String) :
    ∃ current', Builds ⟨whole inner, current⟩
      (tableStatements parents name entries ++ tablesStatements (parents ++ [name]) subtables)
      ⟨whole (inner ++ [(name, .table .header (valueMembers entries ++ tableMembers subtables))]),
        current'⟩ := by
  have htable := table h hfresh (List.nodup_append.mp hkeys).1 current
  rw [← keys_valueMembers] at hkeys
  obtain ⟨current', hnested⟩ := tables (h.child hfresh) hkeys hentries (parents ++ [name])
  exact ⟨current', htable.append hnested⟩

end Builds

/-! ## The values of tables -/

theorem membersValue_append (members more : Members) :
    membersValue (members ++ more) = membersValue members ++ membersValue more := by
  induction members with
  | nil => rfl
  | cons member members ih =>
    obtain ⟨name, item⟩ := member
    rw [List.cons_append, membersValue, ih, membersValue, List.cons_append]

theorem membersValue_valueMembers (entries : List (String × Value)) :
    membersValue (valueMembers entries) = entries := by
  induction entries with
  | nil => rfl
  | cons entry entries ih =>
    rw [valueMembers, List.map_cons, membersValue, ← valueMembers, ih]
    rfl

theorem membersValue_tableMembers (subtables : List (String × List (String × Value))) :
    membersValue (tableMembers subtables) =
      subtables.map fun (name, entries) => (name, .table entries) := by
  induction subtables with
  | nil => rfl
  | cons first subtables ih =>
    rw [tableMembers, List.map_cons, membersValue, Item.toValue, membersValue_valueMembers,
      ← tableMembers, ih]
    rfl

end Almanac.Toml
