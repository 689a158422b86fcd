import TypedRequests.Proofs.SchemaFields
import TypedRequests.Proofs.Telling

/-!
# Reading documents and reading their values

A document is read of its data as it is of the value of the data.

* `Schema.carries_read` : schemas.
* `Document.namedParts` : the data of named parameters.
* `PathItem.carries_read`, `Components.carries_read`, `Document.carries_read` : the parts of a
  document, and documents.
-/

set_option autoImplicit false

namespace TypedRequests.OpenApi

open Node

/-! ## Schemas -/

theorem checkReadable_eq_ok {n : Node} {u : Unit} :
    checkReadable n = .ok u ↔ n.toJson?.isSome = true := by
  unfold checkReadable
  split <;> simp_all

/-- A list is read as several type names. -/
theorem readTypeNames_list {ns : List Node} {a : TypeNames} : readTypeNames (.list ns) = .ok a ↔
    (list ns).toJson?.isSome = true ∧
      (readList .jsonValue (readText .jsonValue) (.list ns)).map .multiple = .ok a := by
  unfold readTypeNames
  rw [bind_eq_ok, map_eq_ok]
  simp only [checkReadable_eq_ok, exists_const]
  refine and_congr_right fun _ => ?_
  have htext : readText .jsonValue (.list ns) = .error (.invalidType .list .text) := rfl
  rw [htext]
  cases readList .jsonValue (readText .jsonValue) (.list ns) <;> simp [pure, Except.pure]

theorem carries_readTypeNames (n : Node) : Carries readTypeNames n := by
  intro v a hv ha
  cases n with
  | leaf l => exact carries_leaf l v a hv ha
  | list ns =>
    have hnames := (carries_readList fun m _ => carries_readText .jsonValue m).map .multiple v a hv
      (readTypeNames_list.1 ha).2
    obtain ⟨vs, -, rfl⟩ := hv.of_list
    exact readTypeNames_list.2 ⟨isSome_toJson?_ofJson (.array vs), hnames⟩
  | record es =>
    obtain ⟨_, -, ha⟩ := bind_eq_ok.1 ha
    cases ha
  | tagged n => exact absurd hv Told.not_tagged

theorem carries_readEnumValue (n : Node) : Carries readEnumValue n := by
  intro v a hv ha
  have hvalue : (Node.ofJson v).toJson? = some v := hv.value.ofJson
  cases n with
  | leaf l => exact carries_leaf l v a hv ha
  | list ns =>
    obtain ⟨vs, -, rfl⟩ := hv.of_list
    have hlist : (list ns).toJson? = some (.array vs) := hv.value
    simp only [Node.ofJson] at hvalue
    simpa [readEnumValue, hlist, Node.ofJson, hvalue] using ha
  | record es =>
    obtain ⟨ms, -, rfl⟩ := hv.of_record
    have hrecord : (record es).toJson? = some (.object (Entries.ofPairs ms)) := hv.value
    simp only [Node.ofJson] at hvalue
    simpa [readEnumValue, hrecord, Node.ofJson, hvalue] using ha
  | tagged n => exact absurd hv Told.not_tagged

namespace Schema

/-- What is no truth value is read as a schema. -/
theorem readAdditional_eq_ok {n : Node} {read : Rules → Except ReadError Schema}
    {a : Additional Schema} (hn : ∀ b, readBool n ≠ .ok b) : readAdditional n read = .ok a ↔
      n.toJson?.isSome = true ∧ (read .jsonValue).map .schema = .ok a := by
  unfold readAdditional
  rw [bind_eq_ok, map_eq_ok]
  simp only [checkReadable_eq_ok, exists_const]
  refine and_congr_right fun _ => ?_
  cases hbool : readBool n with
  | ok b => exact absurd hbool (hn b)
  | error e => cases read .jsonValue <;> simp [pure, Except.pure]

theorem carries_readAdditional {n : Node} (h : Carries (read .jsonValue) n) :
    Carries (fun n => readAdditional n fun rules => read rules n) n := by
  intro v a hv ha
  have hlist : ∀ ns b, readBool (.list ns) ≠ .ok b := nofun
  have hrecord : ∀ es b, readBool (.record es) ≠ .ok b := nofun
  cases n with
  | leaf l => rwa [hv.of_leaf]
  | list ns =>
    have hschema := h.map .schema v a hv ((readAdditional_eq_ok (hlist ns)).1 ha).2
    obtain ⟨vs, -, rfl⟩ := hv.of_list
    exact (readAdditional_eq_ok (hlist _)).2 ⟨isSome_toJson?_ofJson (.array vs), hschema⟩
  | record es =>
    have hschema := h.map .schema v a hv ((readAdditional_eq_ok (hrecord es)).1 ha).2
    obtain ⟨ms, -, rfl⟩ := hv.of_record
    exact (readAdditional_eq_ok (hrecord _)).2 ⟨isSome_toJson?_ofJson (.object _), hschema⟩
  | tagged n => exact absurd hv Told.not_tagged

theorem carries_set {n : Node} (hread : ∀ rules, Carries (read rules) n)
    (hproperties : ∀ rules, Carries (readProperties rules) n) (rules : Rules) (name : String)
    (s : Schema) : Carries (fun n => set rules name n s) n := by
  unfold set setField
  split
  · exact (carries_readOption (carries_readTypeNames n)).map _
  · exact (carries_readOption (carries_readText rules n)).map _
  · exact (carries_readOption (hread rules)).map _
  · exact (carries_readOption (hproperties rules)).map _
  · exact (carries_readOption (carries_readAdditional (hread .jsonValue))).map _
  · exact (carries_readOption (carries_readList fun m _ => carries_readEnumValue m)).map _
  · exact (carries_readOption (carries_readBool n)).map _
  · exact (carries_readOption (carries_readText rules n)).map _
  · exact (carries_readOption (carries_readText rules n)).map _
  · exact fun _ _ _ hb => hb

/-- **A schema is read alike of the data and of its value**, and so are properties. -/
theorem carries_read (n : Node) :
    (∀ rules, Carries (read rules) n) ∧ ∀ rules, Carries (readProperties rules) n := by
  induction n using parts_induction with
  | h n ih =>
    constructor <;> intro rules v a hv ha
    · rw [read_eq_readRecord] at ha ⊢
      refine carries_readRecord empty (fun name m hm a => ?_) v a hv ha
      obtain ⟨hread, hproperties⟩ := ih m (mem_parts_of_fieldParts hm)
      exact carries_set hread hproperties rules name a
    · rw [readProperties_eq_readPairs] at ha ⊢
      obtain ⟨rs, hrs, rfl⟩ := map_eq_ok.1 ha
      refine map_eq_ok.2 ⟨_, readPairs_told hv (fun m hm => ?_) hrs, Entries.ofPairs_ofPairs rs⟩
      exact (ih m (mem_parts_of_memberParts hm)).1 rules

end Schema

/-! ## Path items -/

namespace PathItem

/-- Members of which the last with a key counts are those that count. -/
theorem ofMembers_ofPairs (ms : List (String × Json)) :
    ofMembers (Entries.ofPairs ms) = ofMembers ms := by
  rw [ofMembers, Entries.ofPairs_ofPairs, ofMembers]

theorem readValue_eq_ok {n : Node} {v : Json} : readValue n = .ok v ↔ n.HasValue v := by
  unfold readValue HasValue
  split <;> simp_all

/-- **A path item is read alike of the data and of its value.** -/
theorem carries_read (rules : Rules) (n : Node) : Carries (read rules) n := by
  intro v item hv hitem
  obtain ⟨ms, hms, hitem⟩ := bind_eq_ok.1 hitem
  refine bind_eq_ok.2 ⟨_, readPairs_told hv (fun m _ w u hw hu => ?_) hms, ?_⟩
  · have hwu : w = u := Option.some.inj (hw.value.symm.trans (readValue_eq_ok.1 hu))
    exact readValue_eq_ok.2 (hwu ▸ hw.value.ofJson)
  · rwa [ofMembers_ofPairs]

end PathItem

/-! ## Named parameters -/

/-- The data of named parameters in that of components. -/
def Components.namedParts (n : Node) : List Node :=
  (fieldParts form "parameters" n).flatMap memberParts

/-- The data of named parameters in that of a document. -/
def Document.namedParts (n : Node) : List Node :=
  (fieldParts form "components" n).flatMap Components.namedParts

/-! ## Documents -/

theorem Info.carries_read (rules : Rules) (n : Node) : Carries (Info.read rules) n := by
  refine carries_readRecord _ fun name m _ a => ?_
  split
  · exact (carries_readText rules m).map _
  · exact (carries_readText rules m).map _
  · exact fun _ _ _ hb => hb

theorem Tag.carries_read (rules : Rules) (n : Node) : Carries (Tag.read rules) n := by
  refine carries_readRecord _ fun name m _ a => ?_
  split
  · exact (carries_readText rules m).map _
  · exact (carries_readText rules m).map _
  · exact fun _ _ _ hb => hb

/-- A parameter is read alike of plain data. -/
theorem carries_readParameterEntry {n : Node} (h : n.isPlain = true) :
    Carries readParameterEntry n := by
  intro v entry hv hentry
  rwa [ofJson_of_plain hv.value hv.bare h hv.finite]

theorem Components.carries_read (rules : Rules) {n : Node}
    (h : ∀ e ∈ namedParts n, e.isPlain = true) : Carries (Components.read rules) n := by
  refine carries_readRecord _ fun field m hm a => ?_
  split
  · exact (carries_readOption (carries_readMap fun m _ => (Schema.carries_read m).1 rules)).map _
  · refine (carries_readMap fun e he => carries_readParameterEntry (h e ?_)).map _
    exact List.mem_flatMap.2 ⟨m, hm, he⟩
  · exact fun _ _ _ hb => hb

/-- **A document is read alike of the data and of its value**, if the data of named parameters is
plain. -/
theorem Document.carries_read (rules : Rules) {n : Node}
    (h : ∀ e ∈ namedParts n, e.isPlain = true) : Carries (read rules) n := by
  refine carries_readRecord _ fun field m hm a => ?_
  unfold setField
  split
  · exact (carries_readOption (carries_readText rules m)).map _
  · exact (carries_readOption (Info.carries_read rules m)).map _
  · exact (carries_readMap fun m _ => PathItem.carries_read rules m).map _
  · refine (carries_readOption (Components.carries_read rules fun e he => h e ?_)).map _
    exact List.mem_flatMap.2 ⟨m, hm, he⟩
  · exact (carries_readOption (carries_readList fun m _ => Tag.carries_read rules m)).map _
  · exact fun _ _ _ hb => hb

end TypedRequests.OpenApi
