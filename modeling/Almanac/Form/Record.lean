import Almanac.Document
import Almanac.Record

/-! # Records in documents

The fields of a record, with the value each has when it is not given.  Only the identifier
of the entity has to be there.
-/
namespace Almanac

/-- The smallest and the largest 64-bit integer. -/
def minLong : Int := -9223372036854775808

/-- The largest 64-bit integer. -/
def maxLong : Int := 9223372036854775807

/-- A stripe. -/
def Stripe.ofValue? (dialect : Dialect) (v : Value) : Option Stripe := do
  let f ← RecordFields.read? dialect ["label", "color"] v
  return ⟨← f.required? "label" Value.string?, ← f.required? "color" Value.string?⟩

/-- A term. -/
def Term.ofValue? (dialect : Dialect) (v : Value) : Option Term := do
  let f ← RecordFields.read? dialect ["id", "label"] v
  return ⟨← f.required? "id" Value.string?, ← f.required? "label" Value.string?⟩

/-- A value of a date field. -/
def DateValue.ofValue? (dialect : Dialect) (v : Value) : Option DateValue := do
  let f ← RecordFields.read? dialect ["value", "end_value", "rrule", "exceptions"] v
  return {
    value := ← f.default? "value" (Value.optional? Value.string?) none
    endValue := ← f.default? "end_value" (Value.optional? Value.string?) none
    rule := ← f.default? "rrule" (Value.optional? Value.string?) none
    exceptions := ← f.default? "exceptions" (Value.list? Value.string?) [] }

namespace Record

/-- The fields of a record. -/
def fieldNames : List String :=
  ["entity_id", "entity_kind", "bundle", "field_name", "storage_timezone", "values",
    "rendered_fields", "stripes", "terms"]

/-- A record. -/
def ofValue? (dialect : Dialect) (v : Value) : Option Record := do
  let f ← RecordFields.read? dialect fieldNames v
  return {
    entityId := ← f.required? "entity_id" (Value.int? minLong maxLong)
    entityKind := ← f.default? "entity_kind" Value.string? "node"
    bundle := ← f.default? "bundle" (Value.optional? Value.string?) none
    field := ← f.default? "field_name" Value.string? "field_date"
    storageZone := ← f.default? "storage_timezone" Value.string? "UTC"
    values := ← f.default? "values" (Value.list? (DateValue.ofValue? dialect)) []
    fields := ← f.default? "rendered_fields" Value.dictionary? ∅
    stripes := ← f.default? "stripes" (Value.list? (Stripe.ofValue? dialect)) []
    terms := ← f.default? "terms" (Value.list? (Term.ofValue? dialect)) [] }

end Record
end Almanac
