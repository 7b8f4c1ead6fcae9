import LogCourier.Event.Field

/-! Attributes of an event: values under distinct keys, kept in the order of the keys. -/

namespace LogCourier

/-- Entries whose keys strictly increase, which is also the order of their encoded bytes. -/
def Ascending (entries : List (String × Field)) : Prop :=
  entries.Pairwise fun left right => left.1 < right.1

/-- Puts a value under a key, in the place of an earlier value under the same key. -/
def insertEntry (key : String) (value : Field) : List (String × Field) → List (String × Field)
  | [] => [(key, value)]
  | (other, held) :: rest =>
    if key < other then (key, value) :: (other, held) :: rest
    else if key = other then (key, value) :: rest
    else (other, held) :: insertEntry key value rest

/-- Insertion brings in no key but the inserted one. -/
theorem mem_insertEntry {key : String} {value : Field} {entries : List (String × Field)}
    {entry : String × Field} (member : entry ∈ insertEntry key value entries) :
    entry.1 = key ∨ entry ∈ entries := by
  -- The induction follows the three places where the entry can go.
  induction entries with
  | nil => simp_all [insertEntry]
  | cons head rest ih =>
    rcases head with ⟨other, held⟩
    simp only [insertEntry] at member
    split at member
    · rcases List.mem_cons.1 member with same | kept
      · exact .inl (by simp [same])
      · exact .inr kept
    · split at member
      · rcases List.mem_cons.1 member with same | kept
        · exact .inl (by simp [same])
        · exact .inr (List.mem_cons_of_mem _ kept)
      · rcases List.mem_cons.1 member with same | kept
        · exact .inr (by simp [same])
        · exact (ih kept).imp id (List.mem_cons_of_mem _)

/-- Insertion keeps the keys in order. -/
theorem ascending_insertEntry {key : String} {value : Field} {entries : List (String × Field)}
    (ordered : Ascending entries) : Ascending (insertEntry key value entries) := by
  -- The new key is compared with each head until it is smaller or equal.
  induction entries with
  | nil => simp [insertEntry, Ascending]
  | cons head rest ih =>
    rcases head with ⟨other, held⟩
    have ⟨above, tail⟩ := List.pairwise_cons.1 ordered
    simp only [insertEntry]
    split
    · next smaller =>
      refine List.pairwise_cons.2 ⟨fun entry member => ?_, ordered⟩
      rcases List.mem_cons.1 member with rfl | kept
      · exact smaller
      · exact String.lt_trans smaller (above entry kept)
    · next notSmaller =>
      split
      · next same => exact List.pairwise_cons.2 ⟨fun entry kept => same ▸ above entry kept, tail⟩
      · next different =>
        refine List.pairwise_cons.2 ⟨fun entry member => ?_, ih tail⟩
        rcases mem_insertEntry member with same | kept
        · -- Of two different keys that are not in one order, the other order holds.
          rw [same]
          by_cases larger : other < key
          · exact larger
          · exact absurd (String.le_antisymm (String.not_lt.1 larger) (String.not_lt.1 notSmaller))
              different
        · exact above entry kept

/-- Values under distinct keys, in the order of the keys. -/
structure Attributes where
  entries : List (String × Field)
  ascending : Ascending entries

namespace Attributes

/-- No attributes. -/
def empty : Attributes := ⟨[], List.Pairwise.nil⟩

instance : Inhabited Attributes := ⟨empty⟩

/-- Attributes are determined by their entries. -/
theorem ext {left right : Attributes} (same : left.entries = right.entries) : left = right := by
  cases left; cases right; cases same; rfl

instance : DecidableEq Attributes := fun left right =>
  if same : left.entries = right.entries then .isTrue (ext same)
  else .isFalse fun equal => same (by rw [equal])

/-- The attributes with a value under a key, whatever was there before. -/
def insert (attributes : Attributes) (key : String) (value : Field) : Attributes :=
  ⟨insertEntry key value attributes.entries, ascending_insertEntry attributes.ascending⟩

/-- Puts values under their keys one after another. -/
def insertAll (attributes : Attributes) (pairs : List (String × Field)) : Attributes :=
  pairs.foldl (fun held pair => held.insert pair.1 pair.2) attributes

/-- The attributes given by a list of pairs, of which later ones replace earlier ones. -/
def ofList (pairs : List (String × Field)) : Attributes :=
  empty.insertAll pairs

/-- The value under a key. -/
def get? (attributes : Attributes) (key : String) : Option Field :=
  (attributes.entries.find? fun entry => entry.1 = key).map (·.2)

/-- The number of keys. -/
def size (attributes : Attributes) : Nat :=
  attributes.entries.length

/-- Whether there are no attributes. -/
def isEmpty (attributes : Attributes) : Bool :=
  attributes.entries.isEmpty

/-- The attributes as they stand in a line for people. -/
def display (attributes : Attributes) : String :=
  String.intercalate " " <| attributes.entries.map fun entry => entry.1 ++ "=" ++ entry.2.display

/-- The attributes on the wire. -/
def json (attributes : Attributes) : Json :=
  .object <| attributes.entries.map fun entry => (entry.1, entry.2.json)

/-- Equality with the equality of doubles on the values. -/
def agrees (left right : Attributes) : Bool :=
  left.entries.length = right.entries.length ∧
    (left.entries.zip right.entries).all fun pair =>
      pair.1.1 = pair.2.1 && pair.1.2.agrees pair.2.2

/-- Reads attributes from an object; of two members with one key the later one counts. -/
def read (depth : Nat) : Outline → Decoded Attributes
  | .object members ending => do
    let inner ← enter depth
    let step (held : Attributes) (key : String) (value : Outline) : Decoded Attributes := do
      return held.insert key (← Field.read inner value)
    Outline.foldMembers step ending empty members
  | other => other.reject "a map"

end Attributes

end LogCourier
