import Almanac.Occurrence
import Almanac.Record.StorageValue

/-! # Records

What the storage layer hands over: an entity with the values of one of its date fields.
Each value gives one occurrence that is not yet split, or an anomaly.
-/
namespace Almanac

/-- A term of a vocabulary that a record refers to. -/
structure Term where
  id : String
  label : String
  deriving DecidableEq, Repr

/-- One value of a date field, in stored form. -/
structure DateValue where
  value : Option String := none
  endValue : Option String := none
  rule : Option String := none
  /-- The starts that the rule leaves out. -/
  exceptions : List String := []
  deriving DecidableEq, Repr

/-- An entity with its date values. -/
structure Record where
  entityId : Int
  entityKind : String := "node"
  bundle : Option String := none
  field : String := "field_date"
  storageZone : String := "UTC"
  values : List DateValue := []
  fields : Dictionary := ∅
  stripes : List Stripe := []
  terms : List Term := []
  deriving DecidableEq, Repr

/-- Why a value gives no occurrence. -/
inductive Anomaly where
  /-- The record has no such value. -/
  | missingValue (entityId : Int) (delta : Nat)
  /-- The storage zone is not known. -/
  | unknownZone (entityId : Int) (zone : String)
  /-- The value names no instant. -/
  | noStart (entityId : Int) (delta : Nat)
  deriving DecidableEq, Repr

/-- The message of an anomaly. -/
def Anomaly.message : Anomaly → String
  | missingValue id delta =>
    "Data anomaly: Record " ++ Text.intText id ++ " has no value at delta " ++ Text.pad 0 delta
  | unknownZone id zone =>
    "Data anomaly: Record " ++ Text.intText id ++ " has unknown storage time zone " ++ zone
  | noStart id delta =>
    "Data anomaly: Record " ++ Text.intText id ++ " delta " ++ Text.pad 0 delta ++
      " has no usable start date"

namespace DateValue

/-- The rule of a value, if it is not blank. -/
def rule? (v : DateValue) : Option String :=
  match v.rule with
  | none => none
  | some text => if Text.trim text = "" then none else some (Text.trim text)

/-- The start of a value. -/
def start? (v : DateValue) (storage display : Zone) : Option Instant :=
  v.value.bind (storedInstant? .start storage display)

/-- Whether reading a value stays within the calendar.  The end is read if there is a
start, the exceptions if there is a rule too. -/
def fits (v : DateValue) (storage display : Zone) : Bool :=
  v.value.all (storedFits .start storage display) &&
    ((v.start? storage display).isNone ||
      v.endValue.all (storedFits .finish storage display) &&
        (v.rule?.isNone || v.exceptions.all (storedFits .start storage display)))

end DateValue

namespace Record

/-- The kind under which a record is looked up in a legend by type. -/
def legendType (r : Record) : String :=
  r.bundle.getD r.entityKind

/-- The occurrence of one value. -/
def occurrenceOf (r : Record) (v : DateValue) (delta : Nat) (storage display : Zone)
    (start : Instant) : Occurrence where
  entityId := r.entityId
  entityKind := r.entityKind
  dateId := dateId r.entityId r.field delta
  start := start
  finish := Occurrence.closingInstant start
    (v.endValue.bind (storedInstant? .finish storage display))
  zone := display
  rule := v.rule?
  exceptions :=
    if v.rule?.isSome then v.exceptions.filterMap (storedInstant? .start storage display) else []
  fields := r.fields
  stripes := r.stripes

/-- The occurrence of the value at position `delta`, on the clocks of a display zone. -/
def occurrence (zones : Zones) (r : Record) (delta : Nat) (display : Zone) :
    Except Anomaly Occurrence :=
  match r.values[delta]? with
  | none => .error (.missingValue r.entityId delta)
  | some v =>
    match zones r.storageZone with
    | none => .error (.unknownZone r.entityId r.storageZone)
    | some storage =>
      match v.start? storage display with
      | none => .error (.noStart r.entityId delta)
      | some start => .ok (r.occurrenceOf v delta storage display start)

/-- Whether reading the value at position `delta` stays within the calendar. -/
def valueFits (zones : Zones) (r : Record) (delta : Nat) (display : Zone) : Bool :=
  match r.values[delta]?, zones r.storageZone with
  | some v, some storage => v.fits storage display
  | _, _ => true

end Record
end Almanac
