import Almanac.Proofs.DateOnly

/-! # One record for each entity

A collector is called any number of times: `Call.mark` marks an entity as rendered,
`Call.collect` collects records into a range.  What one call leaves behind is the list of
the rendered entities, and it grows by the entities the call names (`mem_call`), also by
those of records whose values are of no use.  So before each call of a run from nothing the
rendered entities are the ones that an earlier call names (`mem_run`).

This settles every answer of a run (`Collector.Answers`, `run_answers`).  A mark says whether no
earlier call names the entity.  A collection has items of an entity only if no earlier call
names it, and these are the items of the first record of the entity in this call.  In
particular at most one collection of a run has items of an entity.
-/
namespace Almanac

/-! ## Runs -/

/-- A call of a collector. -/
inductive Call where
  | mark (id : Int)
  | collect (range : Range) (records : List Record)

/-- What a call answers. -/
inductive Answer where
  /-- Whether the entity was not yet rendered. -/
  | marked (isNew : Bool)
  | collected (agenda : Agenda)
  deriving DecidableEq, Repr

/-- The entities a call names. -/
def Call.entities : Call → List Int
  | mark id => [id]
  | collect _ records => records.map Record.entityId

/-- Whether one of some calls names an entity. -/
def Named (calls : List Call) (id : Int) : Prop :=
  ∃ call ∈ calls, id ∈ call.entities

instance (calls : List Call) (id : Int) : Decidable (Named calls id) :=
  inferInstanceAs (Decidable (∃ call ∈ calls, id ∈ call.entities))

/-- Whether an agenda has items of an entity. -/
def Agenda.Shows (agenda : Agenda) (id : Int) : Prop :=
  ∃ d, ∃ f ∈ agenda.on d, f.entityId = id

namespace Collector

variable (c : Collector)

/-- The answer to a call, with the entities rendered after it. -/
def call (rendered : List Int) : Call → Answer × List Int
  | .mark id =>
    let (isNew, rendered) := mark rendered id
    (.marked isNew, rendered)
  | .collect range records =>
    let (agenda, rendered) := c.collect range rendered records
    (.collected agenda, rendered)

/-- The answers to calls one after the other, with the entities rendered after them. -/
def run (rendered : List Int) : List Call → List Answer × List Int
  | [] => ([], rendered)
  | call :: calls =>
    let (answer, rendered) := c.call rendered call
    let (answers, rendered) := run rendered calls
    (answer :: answers, rendered)

/-- The items of a record on a day. -/
def recordItems (range : Range) (r : Record) (d : Date) : List Occurrence :=
  Agenda.sorted ((c.fragments range r).filter fun f => f.day = d)

/-- What the answer to a call says after earlier calls. -/
def Answers (earlier : List Call) : Call → Answer → Prop
  | .mark id, .marked isNew => isNew = true ↔ ¬ Named earlier id
  | .collect range records, .collected agenda => ∀ id d,
      ((agenda.on d).filter fun f => f.entityId = id) =
        if Named earlier id then []
        else match records.find? fun r => r.entityId = id with
          | some r => c.recordItems range r d
          | none => []
  | _, _ => False

variable {c} {rendered : List Int}

/-! ## What one call leaves behind -/

theorem mem_renderedAfter {records : List Record} {id : Int} :
    id ∈ renderedAfter rendered records ↔
      id ∈ rendered ∨ id ∈ records.map Record.entityId := by
  induction records generalizing rendered with
  | nil => simp [renderedAfter, fresh]
  | cons r records ih =>
    rw [renderedAfter_cons, ih, List.map_cons, List.mem_cons, or_left_comm, ← or_assoc]
    refine or_congr_left ?_
    by_cases h : r.entityId ∈ rendered
    · rw [if_pos h]
      exact (or_iff_right_of_imp fun heq => heq ▸ h).symm
    · rw [if_neg h, List.mem_cons]

/-- **A call renders the entities it names**, and no other. -/
theorem mem_call {call : Call} {id : Int} :
    id ∈ (c.call rendered call).2 ↔ id ∈ rendered ∨ id ∈ call.entities := by
  cases call with
  | mark i =>
    show id ∈ (mark rendered i).2 ↔ _
    rw [Call.entities, List.mem_singleton, mark]
    split
    · rename_i h
      exact (or_iff_left_of_imp fun heq => heq ▸ h).symm
    · rw [List.mem_cons, or_comm]
  | collect range records => exact mem_renderedAfter

theorem mem_run {calls : List Call} {id : Int} :
    id ∈ (c.run rendered calls).2 ↔ id ∈ rendered ∨ Named calls id := by
  induction calls generalizing rendered with
  | nil => simp [run, Named]
  | cons call calls ih =>
    rw [show (c.run rendered (call :: calls)).2 = (c.run (c.call rendered call).2 calls).2 from
      rfl, ih, mem_call, or_assoc, Named, Named, List.exists_mem_cons_iff]

theorem length_run (calls : List Call) : (c.run rendered calls).1.length = calls.length := by
  induction calls generalizing rendered with
  | nil => rfl
  | cons call calls ih => exact congrArg (· + 1) ih

/-- An answer of a run is the answer after the calls before it. -/
theorem getElem?_run {calls : List Call} {n : Nat} {call : Call} (h : calls[n]? = some call) :
    (c.run rendered calls).1[n]? = some (c.call (c.run rendered (calls.take n)).2 call).1 := by
  induction calls generalizing rendered n with
  | nil => cases h
  | cons first calls ih =>
    cases n with
    | zero =>
      obtain rfl := Option.some.inj h
      rfl
    | succ n => exact ih h

/-! ## The items of an entity -/

/-- Only the first record of an entity counts, and only if the entity is not rendered. -/
theorem find?_fresh (records : List Record) (id : Int) :
    (fresh rendered records).find? (fun r => r.entityId = id) =
      if id ∈ rendered then none else records.find? fun r => r.entityId = id := by
  induction records generalizing rendered with
  | nil => rw [fresh, List.find?_nil, ite_self]
  | cons r records ih =>
    by_cases hid : r.entityId = id
    · subst hid
      rw [fresh]
      split
      · rename_i h
        rw [ih, if_pos h]
      · rw [List.find?_cons_of_pos (by simp), List.find?_cons_of_pos (by simp)]
    · rw [fresh, List.find?_cons_of_neg (l := records) (by simpa using hid)]
      split
      · exact ih
      · rw [List.find?_cons_of_neg (by simpa using hid), ih]
        simp only [List.mem_cons, Ne.symm hid, false_or]

/-- The items of an entity are those of its record among the ones that count. -/
theorem itemsOf_eq_recordItems (range : Range) (rendered : List Int) (records : List Record)
    (id : Int) (d : Date) :
    c.itemsOf range rendered records id d =
      match (fresh rendered records).find? fun r => r.entityId = id with
      | some r => c.recordItems range r d
      | none => [] := by
  have hsorted : c.itemsOf range rendered records id d =
      Agenda.sorted ((((fresh rendered records).flatMap (c.fragments range)).filter
        fun f => f.entityId = id).filter fun f => f.day = d) := by
    rw [itemsOf, collect, Agenda.on_ofFragments, Agenda.sorted, Sorted.filter_mergeSort,
      List.filter_comm]
    rfl
  rw [hsorted]
  split
  · rename_i r hr
    have hid : r.entityId = id := by simpa using List.find?_some hr
    rw [← hid, filter_entityId_fragments (List.mem_of_find?_eq_some hr)]
    rfl
  · rename_i hnone
    rw [filter_entityId_fragments_eq_nil fun r hr heq =>
        List.find?_eq_none.mp hnone r hr (decide_eq_true heq),
      List.filter_nil, Agenda.sorted, List.mergeSort_nil]

/-! ## Every answer -/

/-- A call answers by what is rendered before it. -/
theorem answers_call {earlier : List Call} (h : ∀ id, id ∈ rendered ↔ Named earlier id)
    (call : Call) : c.Answers earlier call (c.call rendered call).1 := by
  cases call with
  | mark id =>
    show (mark rendered id).1 = true ↔ ¬ Named earlier id
    rw [← h id, mark]
    split
    · rename_i hmem
      simp [hmem]
    · rename_i hmem
      simp [hmem]
  | collect range records =>
    intro id d
    refine (itemsOf_eq_recordItems range rendered records id d).trans ?_
    rw [find?_fresh]
    by_cases hmem : id ∈ rendered
    · rw [if_pos hmem, if_pos ((h id).mp hmem)]
    · rw [if_neg hmem, if_neg (mt (h id).mpr hmem)]

/-- A collection that has items of an entity is the first call that names it. -/
theorem Answers.first {earlier : List Call} {call : Call} {agenda : Agenda} {id : Int}
    (h : c.Answers earlier call (.collected agenda)) (hid : agenda.Shows id) :
    ¬ Named earlier id ∧ id ∈ call.entities := by
  obtain ⟨d, f, hf, hfid⟩ := hid
  cases call with
  | mark i => exact h.elim
  | collect range records =>
    have hmem : f ∈ (agenda.on d).filter fun f => f.entityId = id :=
      List.mem_filter.mpr ⟨hf, decide_eq_true hfid⟩
    rw [h id d] at hmem
    split at hmem
    · exact absurd hmem List.not_mem_nil
    · rename_i hnew
      refine ⟨hnew, ?_⟩
      split at hmem
      · rename_i r hr
        have heq : r.entityId = id := by simpa using List.find?_some hr
        exact heq ▸ List.mem_map_of_mem (List.mem_of_find?_eq_some hr)
      · exact absurd hmem List.not_mem_nil

section
variable {calls : List Call} {m n : Nat} {agenda agenda' : Agenda} {id : Int}

/-- A call of a run from nothing answers by the calls before it. -/
theorem answers_run {call : Call} (h : calls[n]? = some call) :
    ∃ answer, (c.run [] calls).1[n]? = some answer ∧
      c.Answers (calls.take n) call answer := by
  refine ⟨_, getElem?_run h, answers_call (fun id => ?_) call⟩
  rw [mem_run, or_iff_right List.not_mem_nil]

theorem exists_call_of_collected (h : (c.run [] calls).1[n]? = some (.collected agenda)) :
    ∃ call, calls[n]? = some call ∧ c.Answers (calls.take n) call (.collected agenda) := by
  obtain ⟨hn, -⟩ := List.getElem?_eq_some_iff.mp h
  rw [length_run] at hn
  have hget := List.getElem?_eq_getElem hn
  obtain ⟨answer, hanswer, hspec⟩ := answers_run (c := c) hget
  obtain rfl := Option.some.inj (hanswer.symm.trans h)
  exact ⟨_, hget, hspec⟩

/-- Of two collections the earlier one would name the entity before the later one. -/
theorem not_lt_of_shows (hm : (c.run [] calls).1[m]? = some (.collected agenda))
    (hn : (c.run [] calls).1[n]? = some (.collected agenda'))
    (h : agenda.Shows id) (h' : agenda'.Shows id) : ¬ m < n := by
  intro hlt
  obtain ⟨call, hget, ha⟩ := exists_call_of_collected hm
  obtain ⟨call', -, ha'⟩ := exists_call_of_collected hn
  refine (ha'.first h').1 ⟨call, ?_, (ha.first h).2⟩
  exact List.mem_of_getElem? ((List.getElem?_take_of_lt hlt).trans hget)

end

/-- **Each entity is rendered from one record only.**  In a run from nothing every call has
its answer, and at most one collection has items of an entity. -/
theorem run_answers (c : Collector) (calls : List Call) :
    (c.run [] calls).1.length = calls.length ∧
      (∀ n call, calls[n]? = some call →
        ∃ answer, (c.run [] calls).1[n]? = some answer ∧
          c.Answers (calls.take n) call answer) ∧
      ∀ (m n : Nat) (agenda agenda' : Agenda) (id : Int),
        (c.run [] calls).1[m]? = some (.collected agenda) →
        (c.run [] calls).1[n]? = some (.collected agenda') →
        agenda.Shows id → agenda'.Shows id → m = n := by
  refine ⟨length_run calls, fun n call h => answers_run h, ?_⟩
  intro m n agenda agenda' id hm hn h h'
  exact le_antisymm (not_lt.mp (not_lt_of_shows hn hm h' h))
    (not_lt.mp (not_lt_of_shows hm hn h h'))

/-- A record without a usable value renders its entity too. -/
example :
    let bad := recordOf { value := some "tomorrow" }
    let good := recordOf threeDates
    ((plain.run [] [.collect Occurrence.november [bad], .collect Occurrence.november [good],
        .mark 1, .mark 2]).1.map fun answer => match answer with
      | .marked isNew => (isNew, 0)
      | .collected agenda => (false, agenda.days.length)) =
      [(false, 0), (false, 0), (false, 0), (true, 0)] := by
  decide +kernel

end Collector
end Almanac
