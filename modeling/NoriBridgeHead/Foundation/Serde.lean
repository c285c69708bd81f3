import NoriBridgeHead.Foundation.Outcome

namespace Foundation.Serde

/-- The tree that a self-describing format is read into. An object holds a key at most once; `N` is the type of the
    numbers. -/
inductive Value (N : Type) where
  | null
  | bool (value : Bool)
  | number (value : N)
  | string (value : String)
  | array (items : List (Value N))
  | object (entries : List (String × Value N))

inductive DeError where
  | missingField (name : String)
  | invalidType
  | invalidLength (length : Nat)
  | invalidValue
  | unknownVariant (variant : String)
  | custom (error : DeError)
deriving DecidableEq

structure Codec (N α : Type) where
  serialize : α → Value N
  deserialize : Value N → Except DeError α

structure Codec.RoundTrips {N α : Type} (codec : Codec N α) : Prop where
  back : ∀ value, codec.deserialize (codec.serialize value) = .ok value

namespace Codec

variable {N α : Type}

def string : Codec N String where
  serialize value := .string value
  deserialize
    | .string value => .ok value
    | _ => .error .invalidType

def list (codec : Codec N α) : Codec N (List α) where
  serialize values := .array (values.map codec.serialize)
  deserialize
    | .array items => items.mapM codec.deserialize
    | _ => .error .invalidType

def vector (codec : Codec N α) (length : Nat) : Codec N (Vector α length) where
  serialize values := codec.list.serialize values.toList
  deserialize value := do
    let values ← codec.list.deserialize value
    if same : values.length = length then .ok ⟨values.toArray, same⟩ else .error (.invalidLength values.length)

theorem string_roundTrips : (string : Codec N String).RoundTrips := ⟨fun _ => rfl⟩

theorem RoundTrips.list {codec : Codec N α} (each : codec.RoundTrips) : codec.list.RoundTrips := by
  apply RoundTrips.mk
  intro values
  show (values.map codec.serialize).mapM codec.deserialize = .ok values
  rw [mapM_ok_iff, List.forall₂_map_left_iff]
  exact List.forall₂_same.mpr fun value _ => each.back value

theorem RoundTrips.vector {codec : Codec N α} (each : codec.RoundTrips) (length : Nat) :
    (codec.vector length).RoundTrips := by
  apply RoundTrips.mk
  intro values
  show (codec.list.deserialize (codec.list.serialize values.toList) >>= _) = _
  have same : values.toList.length = length := by simp
  rw [(RoundTrips.list each).back, ok_bind, dif_pos same]
  rfl

end Codec

def readField {N α : Type} (entries : List (String × Value N)) (name : String)
    (deserialize : Value N → Except DeError α) : Except DeError α :=
  match entries.lookup name with
  | some value => deserialize value
  | none => .error (.missingField name)

/-- An absent field of an optional type is read as `none`. -/
def readOption {N α : Type} (entries : List (String × Value N)) (name : String)
    (deserialize : Value N → Except DeError α) : Except DeError (Option α) :=
  match entries.lookup name with
  | some .null | none => .ok none
  | some value => some <$> deserialize value

def readOr {N α : Type} (entries : List (String × Value N)) (name : String) (absent : α)
    (deserialize : Value N → Except DeError α) : Except DeError α :=
  match entries.lookup name with
  | some value => deserialize value
  | none => .ok absent

/-- The derived implementations of a record: how its declared fields are written and read back. `value` puts the
    record together from its own fields. -/
structure Fields (N σ α : Type) where
  declared : List String
  value : σ → α
  write : σ → List (String × Value N)
  read : List (String × Value N) → Except DeError α
  keys : ∀ source, ((write source).map Prod.fst).Sublist declared

namespace Fields

variable {N σ α β : Type}

def of (make : α) : Fields N σ α where
  declared := []
  value _ := make
  write _ := []
  read _ := .ok make
  keys _ := .refl _

def field (fields : Fields N σ (β → α)) (name : String) (codec : Codec N β) (get : σ → β) : Fields N σ α where
  declared := fields.declared ++ [name]
  value source := fields.value source (get source)
  write source := fields.write source ++ [(name, codec.serialize (get source))]
  read entries := do
    let make ← fields.read entries
    let value ← readField entries name codec.deserialize
    pure (make value)
  keys source := by
    rw [List.map_append]
    exact (fields.keys source).append (.refl _)

/-- A field that is not written and yet has to be there when the record is read. -/
def skipSerializing (fields : Fields N σ (β → α)) (name : String) (deserialize : Value N → Except DeError β)
    (get : σ → β) : Fields N σ α where
  declared := fields.declared ++ [name]
  value source := fields.value source (get source)
  write := fields.write
  read entries := do
    let make ← fields.read entries
    let value ← readField entries name deserialize
    pure (make value)
  keys source := (fields.keys source).trans (List.sublist_append_left _ _)

def skipSerializingOption (fields : Fields N σ (Option β → α)) (name : String)
    (deserialize : Value N → Except DeError β) (get : σ → Option β) : Fields N σ α where
  declared := fields.declared ++ [name]
  value source := fields.value source (get source)
  write := fields.write
  read entries := do
    let make ← fields.read entries
    let value ← readOption entries name deserialize
    pure (make value)
  keys source := (fields.keys source).trans (List.sublist_append_left _ _)

/-- A field that takes a value of its own when nothing wrote it. -/
def fieldOr (fields : Fields N σ (β → α)) (name : String) (codec : Codec N β) (absent : β) (get : σ → β) :
    Fields N σ α where
  declared := fields.declared ++ [name]
  value source := fields.value source (get source)
  write source := fields.write source ++ [(name, codec.serialize (get source))]
  read entries := do
    let make ← fields.read entries
    let value ← readOr entries name absent codec.deserialize
    pure (make value)
  keys source := by
    rw [List.map_append]
    exact (fields.keys source).append (.refl _)

/-- A record is written as an object; an array is read field by field. -/
def codec (fields : Fields N σ σ) : Codec N σ where
  serialize source := .object (fields.write source)
  deserialize
    | .object entries => fields.read entries
    | .array items =>
      if items.length = fields.declared.length then fields.read (fields.declared.zip items)
      else .error (.invalidLength items.length)
    | _ => .error .invalidType

@[simp] theorem of_declared (make : α) : (of make : Fields N σ α).declared = [] := rfl

@[simp] theorem field_declared (fields : Fields N σ (β → α)) (name : String) (codec : Codec N β) (get : σ → β) :
    (fields.field name codec get).declared = fields.declared ++ [name] := rfl

/-- Whatever holds the written fields is read as the record. -/
structure Recovers (fields : Fields N σ α) : Prop where
  read : ∀ source entries, (∀ name value, (name, value) ∈ fields.write source → entries.lookup name = some value) →
    fields.read entries = .ok (fields.value source)

theorem recovers_of (make : α) : (of make : Fields N σ α).Recovers := ⟨fun _ _ _ => rfl⟩

theorem Recovers.field {fields : Fields N σ (β → α)} (earlier : fields.Recovers) {name : String} {codec : Codec N β}
    (lawful : codec.RoundTrips) {get : σ → β} : (fields.field name codec get).Recovers := by
  apply Recovers.mk
  intro source entries holds
  have before : fields.read entries = .ok (fields.value source) := by
    apply earlier.read
    intro name value member
    exact holds name value (List.mem_append_left _ member)
  have here : entries.lookup name = some (codec.serialize (get source)) :=
    holds _ _ (List.mem_append_right _ (List.mem_singleton_self _))
  have read : readField entries name codec.deserialize = .ok (get source) := by
    rw [readField, here]
    exact lawful.back (get source)
  show (fields.read entries >>= fun make => readField entries name codec.deserialize >>= fun value =>
    pure (make value)) = _
  rw [before, ok_bind, read, ok_bind]
  rfl

theorem Recovers.fieldOr {fields : Fields N σ (β → α)} (earlier : fields.Recovers) {name : String} {codec : Codec N β}
    (lawful : codec.RoundTrips) {absent : β} {get : σ → β} : (fields.fieldOr name codec absent get).Recovers := by
  apply Recovers.mk
  intro source entries holds
  have before : fields.read entries = .ok (fields.value source) := by
    apply earlier.read
    intro name value member
    exact holds name value (List.mem_append_left _ member)
  have here : entries.lookup name = some (codec.serialize (get source)) :=
    holds _ _ (List.mem_append_right _ (List.mem_singleton_self _))
  have read : readOr entries name absent codec.deserialize = .ok (get source) := by
    rw [readOr, here]
    exact lawful.back (get source)
  show (fields.read entries >>= fun make => readOr entries name absent codec.deserialize >>= fun value =>
    pure (make value)) = _
  rw [before, ok_bind, read, ok_bind]
  rfl

theorem lookup_of_nodup {entries : List (String × Value N)} (distinct : (entries.map Prod.fst).Nodup) {name : String}
    {value : Value N} (member : (name, value) ∈ entries) : entries.lookup name = some value := by
  induction entries with
  | nil => cases member
  | cons entry entries ih =>
    rw [List.map_cons, List.nodup_cons] at distinct
    rcases List.mem_cons.mp member with rfl | later
    · exact List.lookup_cons_self
    · have other : name ≠ entry.1 := by
        intro same
        exact distinct.1 (same ▸ List.mem_map_of_mem later)
      rw [List.lookup_cons, beq_false_of_ne other]
      exact ih distinct.2 later

theorem read_write {fields : Fields N σ α} (distinct : fields.declared.Nodup) (recovers : fields.Recovers)
    (source : σ) : fields.read (fields.write source) = .ok (fields.value source) := by
  apply recovers.read
  intro name value member
  exact lookup_of_nodup (distinct.sublist (fields.keys source)) member

theorem codec_roundTrips {fields : Fields N σ σ} (distinct : fields.declared.Nodup)
    (whole : ∀ source, fields.value source = source) (recovers : fields.Recovers) : fields.codec.RoundTrips := by
  apply Codec.RoundTrips.mk
  intro source
  show fields.read (fields.write source) = .ok source
  rw [read_write distinct recovers, whole]

section Failing

variable {entries : List (String × Value N)} {error : DeError}

theorem skipSerializing_stops {fields : Fields N σ (β → α)} (failed : fields.read entries = .error error)
    (name : String) (deserialize : Value N → Except DeError β) (get : σ → β) :
    (fields.skipSerializing name deserialize get).read entries = .error error := by
  show (fields.read entries >>= _) = _
  rw [failed]
  rfl

theorem skipSerializingOption_stops {fields : Fields N σ (Option β → α)} (failed : fields.read entries = .error error)
    (name : String) (deserialize : Value N → Except DeError β) (get : σ → Option β) :
    (fields.skipSerializingOption name deserialize get).read entries = .error error := by
  show (fields.read entries >>= _) = _
  rw [failed]
  rfl

/-- A skipped field that nothing wrote is missed. -/
theorem skipSerializing_missing {fields : Fields N σ (β → α)} {make : β → α} (before : fields.read entries = .ok make)
    {name : String} (absent : entries.lookup name = none) (deserialize : Value N → Except DeError β) (get : σ → β) :
    (fields.skipSerializing name deserialize get).read entries = .error (.missingField name) := by
  show (fields.read entries >>= fun make => readField entries name deserialize >>= fun value => pure (make value)) = _
  rw [before, ok_bind, readField, absent]
  rfl

end Failing

end Fields

end Foundation.Serde
