import TypedRequests.OpenApi.Schema.Reading

/-!
# Schemas as records

A schema is read as a record is, and its properties as a map is. Both are read by one recursion over
the data, which does not show this.

* `Schema.set` : the value of a field put into a schema.
* `Schema.read_eq_readRecord`, `Schema.readProperties_eq_readPairs` : the parts that they are.
-/

set_option autoImplicit false

namespace TypedRequests.OpenApi.Schema

variable (rules : Rules)

/-- The value of a field put into a schema, where the node is read as whatever the field holds. -/
def set (name : String) (n : Node) (s : Schema) : Except ReadError Schema :=
  setField rules name n (fun r => read r n) (fun r => readProperties r n) s

/-- No field is required. -/
theorem checkGiven_form (given : List String) : form.checkGiven given = .ok () := by
  have hnone : form.fields.find? (fun f => f.2 == .required && !given.contains f.1) = none := by
    rw [List.find?_eq_none]
    intro f hf
    have hneed : ∀ f ∈ form.fields, f.2 ≠ .required := by decide
    simp [hneed f hf]
  rw [RecordForm.checkGiven, hnone]

theorem readFields_eq (es : List (Leaf × Node)) (given : List String) (s : Schema) :
    readFields rules es given s = TypedRequests.readFields rules form (set rules) es given s := by
  induction es generalizing given s with
  | nil =>
    rw [readFields, TypedRequests.readFields, checkGiven_form]
    rfl
  | cons e es ih =>
    obtain ⟨k, n⟩ := e
    rw [readFields, TypedRequests.readFields]
    simp only [ih]
    rfl

theorem readPositions_eq (length : Nat) (fields : List (String × Need)) (ns : List Node)
    (s : Schema) : readPositions rules length fields ns s =
      TypedRequests.readPositions rules form length (set rules) fields ns s := by
  induction ns generalizing fields s with
  | nil => cases fields <;> rfl
  | cons n ns ih =>
    cases fields with
    | nil => rfl
    | cons f fields =>
      rw [readPositions, TypedRequests.readPositions]
      simp only [ih]
      rfl

/-- **A schema is read as a record of its fields.** -/
theorem read_eq_readRecord : ∀ n, read rules n = readRecord rules form (set rules) empty n
  | .leaf l => by rw [read, readRecord, checkGiven_form]; rfl
  | .list ns => by rw [read, readRecord, readPositions_eq]
  | .record es => by rw [read, readRecord, readFields_eq]
  | .tagged n => by rw [read, readRecord, read_eq_readRecord n]

theorem readPropertyEntries_eq (es : List (Leaf × Node)) :
    readPropertyEntries rules es = readEntries rules (read rules) es := by
  induction es with
  | nil => rw [readPropertyEntries, readEntries]
  | cons e es ih =>
    obtain ⟨k, n⟩ := e
    rw [readPropertyEntries, readEntries, ih]

/-- **Properties are read as the entries of a map of schemas.** -/
theorem readProperties_eq_readPairs : ∀ n,
    readProperties rules n = (readPairs rules (read rules) n).map Entries.ofPairs
  | .leaf l => by
    rw [readProperties, readPairs]
    split
    · rfl
    · unfold wrongLeaf
      split <;> rfl
  | .list ns => by simp [readProperties, readPairs, wrongNode, Except.map]
  | .record es => by rw [readProperties, readPairs, readPropertyEntries_eq]
  | .tagged n => by rw [readProperties, readPairs, readProperties_eq_readPairs n]

end TypedRequests.OpenApi.Schema
