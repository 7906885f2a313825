import Almanac.Document
import Mathlib.Data.List.Nodup

/-! # Reading what documents hold

Numbers, lists, records and dictionaries that stand in a document are read as what they are.  A
record whose fields are each given once is read field by field (`RecordFields.default?_of_mem`), in
whatever order they stand.

Every dictionary that is built entry by entry is in order (`Dictionary.ordered_ofList`), and a
dictionary in order is built from its own entries (`Dictionary.ofList_entries`): each is larger than
those before it, so each is put at the end.
-/
namespace Almanac

/-! ## Numbers and lists -/

namespace Value

theorem nat?_nat {max n : Nat} (h : n ≤ max) : nat? max (.nat n) = some n := by
  have hbounds : (0 : Int) ≤ n ∧ (n : Int) ≤ max := by omega
  rw [nat?, nat, int?, if_pos hbounds]
  rfl

theorem le_of_nat? {max n : Nat} {v : Value} (h : nat? max v = some n) : n ≤ max := by
  obtain ⟨i, hi, rfl⟩ := Option.map_eq_some_iff.mp h
  cases v with
  | int j =>
    rw [int?] at hi
    split_ifs at hi with hbounds
    obtain rfl := Option.some.inj hi
    omega
  | _ => cases hi

theorem list?_ofStrings (items : List String) : list? string? (ofStrings items) = some items := by
  rw [ofStrings, list?]
  induction items with
  | nil => rfl
  | cons s items ih =>
    rw [List.map_cons, List.mapM_cons, ih]
    rfl

end Value

/-! ## Records -/

namespace RecordFields

variable {α : Type} {members : List (String × Value)} {name : String} {v : Value}

/-- A table that has nothing but fields, each once, is a record of these. -/
theorem read?_table {dialect : Dialect} {names : List String}
    (hnames : ∀ name ∈ members.map Prod.fst, name ∈ names)
    (hkeys : (members.map Prod.fst).Nodup) :
    read? dialect names (.table members) = some ⟨members⟩ := by
  have hall : members.filter (fun m => names.contains m.1) = members :=
    List.filter_eq_self.mpr fun m hm => by
      simpa using hnames m.1 (List.mem_map_of_mem hm)
  show (if ((members.filter fun m => names.contains m.1).map Prod.fst).Nodup then _ else none) = _
  rw [hall, if_pos hkeys]

/-- A field of a record whose fields are each given once. -/
theorem default?_of_mem (hkeys : (members.map Prod.fst).Nodup) (h : (name, v) ∈ members)
    (read : Value → Option α) (value : α) :
    default? ⟨members⟩ name read value = read v := by
  have hfound : members.find? (·.1 == name) = some (name, v) := by
    induction members with
    | nil => cases h
    | cons member members ih =>
      rcases List.mem_cons.mp h with rfl | hlater
      · exact List.find?_cons_of_pos (by simp)
      · rw [List.map_cons, List.nodup_cons] at hkeys
        have hne : member.1 ≠ name := by
          rintro rfl
          exact hkeys.1 (List.mem_map.mpr ⟨_, hlater, rfl⟩)
        rw [List.find?_cons_of_neg (by simpa using hne), ih hkeys.2 hlater]
  rw [default?, get?, hfound]
  rfl

/-- A field is what is read for it or what it is when it is not given. -/
theorem default?_eq_some {f : RecordFields} {read : Value → Option α} {value found : α}
    (h : f.default? name read value = some found) :
    (∃ v, read v = some found) ∨ found = value := by
  rw [default?] at h
  split at h
  · rename_i v _
    exact .inl ⟨v, h⟩
  · exact .inr (Option.some.inj h).symm

end RecordFields

/-! ## Dictionaries -/

namespace Dictionary

variable {key value : String} {entries : List (String × String)}

/-- Whether the entries of a dictionary are in ascending order of their keys, each key once. -/
def Ordered (d : Dictionary) : Prop :=
  d.entries.Pairwise fun a b => a.1 < b.1

instance (d : Dictionary) : Decidable d.Ordered :=
  inferInstanceAs (Decidable (d.entries.Pairwise _))

theorem Ordered.nodup_keys {d : Dictionary} (h : d.Ordered) : (d.entries.map Prod.fst).Nodup := by
  refine List.pairwise_map.mpr (h.imp ?_)
  intro a b hlt heq
  rw [heq] at hlt
  exact String.lt_irrefl _ hlt

theorem mem_insertEntry {entry : String × String} (h : entry ∈ insertEntry key value entries) :
    entry = (key, value) ∨ entry ∈ entries := by
  induction entries with
  | nil => exact .inl (List.mem_singleton.mp h)
  | cons first entries ih =>
    rw [insertEntry] at h
    split_ifs at h
    · exact (List.mem_cons.mp h).imp_right id
    · exact (List.mem_cons.mp h).imp_right (List.mem_cons_of_mem _)
    · rcases List.mem_cons.mp h with rfl | hlater
      · exact .inr List.mem_cons_self
      · exact (ih hlater).imp_right (List.mem_cons_of_mem _)

theorem ordered_insert {d : Dictionary} (h : d.Ordered) (key value : String) :
    (d.insert key value).Ordered := by
  obtain ⟨entries⟩ := d
  rw [Ordered, insert]
  dsimp only
  rw [Ordered] at h
  dsimp only at h
  induction entries with
  | nil => exact List.pairwise_singleton _ _
  | cons first entries ih =>
    obtain ⟨hfirst, hrest⟩ := List.pairwise_cons.mp h
    rw [insertEntry]
    split_ifs with hbefore hsame
    · refine List.pairwise_cons.mpr ⟨fun entry hentry => ?_, h⟩
      rcases List.mem_cons.mp hentry with rfl | hlater
      · exact hbefore
      · exact String.lt_trans hbefore (hfirst entry hlater)
    · exact List.pairwise_cons.mpr ⟨fun entry hentry => hsame ▸ hfirst entry hentry, hrest⟩
    · refine List.pairwise_cons.mpr ⟨fun entry hentry => ?_, ih hrest⟩
      rcases mem_insertEntry hentry with rfl | hlater
      · exact String.not_le.mp fun hle => hsame (String.le_antisymm (String.not_lt.mp hbefore) hle)
      · exact hfirst entry hlater

/-- **A dictionary built from entries is in order.** -/
theorem ordered_ofList (entries : List (String × String)) : (ofList entries).Ordered := by
  rw [ofList]
  refine List.foldlRecOn entries _ (List.Pairwise.nil : empty.Ordered) ?_
  exact fun d h entry _ => ordered_insert h entry.1 entry.2

/-- A key larger than all others comes last. -/
theorem insertEntry_of_lt (h : ∀ entry ∈ entries, entry.1 < key) :
    insertEntry key value entries = entries ++ [(key, value)] := by
  induction entries with
  | nil => rfl
  | cons entry entries ih =>
    have hlt := h entry List.mem_cons_self
    have hne : entry.1 ≠ key := fun heq => String.lt_irrefl key (heq ▸ hlt)
    rw [insertEntry, if_neg (String.lt_asymm hlt), if_neg hne,
      ih fun entry hentry => h entry (List.mem_cons_of_mem _ hentry)]
    rfl

/-- Entries in order behind those that are there. -/
theorem foldl_insert {before after : List (String × String)}
    (h : (before ++ after).Pairwise fun a b => a.1 < b.1) :
    after.foldl (fun d entry => d.insert entry.1 entry.2) ⟨before⟩ =
      (⟨before ++ after⟩ : Dictionary) := by
  induction after generalizing before with
  | nil => rw [List.append_nil, List.foldl_nil]
  | cons entry after ih =>
    have hlt : ∀ e ∈ before, e.1 < entry.1 := fun e he =>
      (List.pairwise_append.mp h).2.2 e he entry List.mem_cons_self
    have hlater : ((before ++ [entry]) ++ after).Pairwise fun a b => a.1 < b.1 := by
      simpa using h
    have hrest := ih hlater
    rw [List.append_assoc] at hrest
    rw [List.foldl_cons, insert, insertEntry_of_lt hlt]
    exact hrest

/-- **A dictionary in order is the dictionary of its entries.** -/
theorem ofList_entries {d : Dictionary} (h : d.Ordered) : ofList d.entries = d :=
  foldl_insert (show ([] ++ d.entries).Pairwise _ from h)

end Dictionary

theorem Value.ordered_of_dictionary? {d : Dictionary} {v : Value}
    (h : v.dictionary? = some d) : d.Ordered := by
  obtain ⟨members, -, h⟩ := Option.bind_eq_some_iff.mp h
  obtain ⟨entries, -, h⟩ := Option.bind_eq_some_iff.mp h
  obtain rfl := Option.some.inj h
  exact Dictionary.ordered_ofList entries

/-- A dictionary in order is read from the table of its entries. -/
theorem Value.dictionary?_ofDictionary {d : Dictionary} (h : d.Ordered) :
    (ofDictionary d).dictionary? = some d := by
  have hentries : (d.entries.map fun entry => (entry.1, string entry.2)).mapM
      (fun member => member.2.string?.map fun s => (member.1, s)) = some d.entries := by
    induction d.entries with
    | nil => rfl
    | cons entry entries ih =>
      rw [List.map_cons, List.mapM_cons, ih]
      rfl
  refine Option.bind_eq_some_iff.mpr ⟨d.entries, hentries, ?_⟩
  exact congrArg some (Dictionary.ofList_entries h)

end Almanac
