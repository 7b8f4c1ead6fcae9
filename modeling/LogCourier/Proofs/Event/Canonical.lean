import LogCourier.Proofs.Event.Reading
import LogCourier.Proofs.Text.ByteOrder
import Mathlib.Data.Finset.Card
import Mathlib.Data.List.Sort

/-!
Attributes have one form for each choice of keys and values, however they were put together: the
last value given for each key, in the order of the encoded keys.
-/

namespace LogCourier

/-- A value is the last one that pairs give for a key. -/
def LastGiven (pairs : List (String × Field)) (key : String) (value : Field) : Prop :=
  ∃ before after, pairs = before ++ (key, value) :: after ∧ ∀ pair ∈ after, pair.1 ≠ key

/-- The keys of pairs, as often as they are given. -/
def givenKeys (pairs : List (String × Field)) : List String :=
  pairs.map (·.1)

/-- Two lists of pairs give the same keys, and the same last value for each of them. -/
structure SameLast (pairs others : List (String × Field)) : Prop where
  keys : ∀ key, key ∈ givenKeys pairs ↔ key ∈ givenKeys others
  values : ∀ key value, LastGiven pairs key value ↔ LastGiven others key value

/-- The last value is given by the pairs behind the first one, or else by the first one. -/
theorem lastGiven_cons_iff {pair : String × Field} {rest : List (String × Field)} {key : String}
    {value : Field} :
    LastGiven (pair :: rest) key value ↔
      LastGiven rest key value ∨ key ∉ givenKeys rest ∧ pair = (key, value) := by
  constructor
  · rintro ⟨before, after, split, last⟩
    cases before with
    | nil =>
      -- The first pair is the one, and no pair behind it has its key.
      cases split
      refine .inr ⟨fun listed => ?_, rfl⟩
      obtain ⟨other, among, same⟩ := List.mem_map.1 listed
      exact last other among same
    | cons first before =>
      cases split
      exact .inl ⟨before, after, rfl, last⟩
  · rintro (⟨before, after, rfl, last⟩ | ⟨unlisted, rfl⟩)
    · exact ⟨pair :: before, after, rfl, last⟩
    · exact ⟨[], rest, rfl, fun other among same => unlisted (List.mem_map.2 ⟨other, among, same⟩)⟩

/-- Every key that is given has a last value. -/
theorem exists_lastGiven_iff {pairs : List (String × Field)} {key : String} :
    (∃ value, LastGiven pairs key value) ↔ key ∈ givenKeys pairs := by
  -- Induction on the pairs: the last value of a key is in the rest if the key is given there.
  induction pairs with
  | nil =>
    constructor
    · rintro ⟨value, before, after, split, -⟩
      simp at split
    · intro listed
      cases listed
  | cons pair rest ih =>
    simp only [lastGiven_cons_iff, exists_or, ih]
    constructor
    · rintro (listed | ⟨value, -, rfl⟩)
      · exact List.mem_cons_of_mem _ listed
      · exact List.mem_cons_self
    · intro listed
      -- Whether the key comes again decides which of its values is the last.
      by_cases among : key ∈ givenKeys rest
      · exact .inl among
      · rcases List.mem_cons.1 listed with rfl | behind
        · exact .inr ⟨pair.2, among, rfl⟩
        · exact absurd behind among

namespace Attributes

/-- No two entries have the same key. -/
theorem nodup_keys (attributes : Attributes) : (givenKeys attributes.entries).Nodup := by
  have ordered : (givenKeys attributes.entries).Pairwise (· < ·) :=
    List.pairwise_map.2 attributes.ascending
  exact ordered.imp String.ne_of_lt

/-- An entry after an insertion is the inserted one or one of another key. -/
private theorem mem_insertEntry_iff {key other : String} {value held : Field}
    {entries : List (String × Field)} (ordered : Ascending entries) :
    (other, held) ∈ insertEntry key value entries ↔
      other = key ∧ held = value ∨ other ≠ key ∧ (other, held) ∈ entries := by
  -- The cases are the three places where the entry can go.
  induction entries with
  | nil => simp [insertEntry]
  | cons head rest ih =>
    rcases head with ⟨first, old⟩
    obtain ⟨above, tail⟩ := List.pairwise_cons.1 ordered
    simp only [insertEntry]
    split
    · next smaller =>
      have others : (other, held) ∈ (first, old) :: rest → other ≠ key := by
        intro listed
        rcases List.mem_cons.1 listed with same | behind
        · cases same
          exact (String.ne_of_lt smaller).symm
        · exact (String.ne_of_lt (String.lt_trans smaller (above _ behind))).symm
      rw [List.mem_cons, Prod.mk.injEq, and_iff_right_of_imp others]
    · split
      · next same =>
        subst same
        have others : (other, held) ∈ rest → other ≠ key :=
          fun behind => (String.ne_of_lt (above _ behind)).symm
        rw [List.mem_cons, List.mem_cons, Prod.mk.injEq, Prod.mk.injEq]
        grind
      · next different =>
        rw [List.mem_cons, List.mem_cons, ih tail, Prod.mk.injEq]
        grind

/-- The entries after insertions are those given last, and those whose keys were not given. -/
theorem mem_insertAll_iff {attributes : Attributes} {pairs : List (String × Field)} {key : String}
    {value : Field} :
    (key, value) ∈ (attributes.insertAll pairs).entries ↔
      LastGiven pairs key value ∨
        key ∉ givenKeys pairs ∧ (key, value) ∈ attributes.entries := by
  induction pairs generalizing attributes with
  | nil =>
    have none : ¬ LastGiven [] key value := by
      rintro ⟨before, after, split, -⟩
      simp at split
    simp [insertAll, none, givenKeys]
  | cons pair rest ih =>
    have insertion : attributes.insertAll (pair :: rest) =
        (attributes.insert pair.1 pair.2).insertAll rest := rfl
    have keys : key ∈ givenKeys (pair :: rest) ↔ key = pair.1 ∨ key ∈ givenKeys rest :=
      List.mem_cons
    rw [insertion, ih, lastGiven_cons_iff, insert, mem_insertEntry_iff attributes.ascending, keys]
    -- A key behind the first pair has its last value there, whatever the first pair gives.
    grind

/-- Attributes with the same entries are the same, since the order of the entries is settled. -/
private theorem eq_of_mem_iff {one other : Attributes}
    (same : ∀ entry, entry ∈ one.entries ↔ entry ∈ other.entries) : one = other := by
  -- The keys are in strict order, so that no two lists have the same entries.
  have irreflexive : Std.Irrefl fun left right : String × Field => left.1 < right.1 :=
    ⟨fun entry => String.lt_irrefl entry.1⟩
  have antisymmetric : Std.Antisymm fun left right : String × Field => left.1 < right.1 :=
    ⟨fun left right below above => absurd above (String.lt_asymm below)⟩
  exact ext (one.ascending.eq_of_mem_iff other.ascending same)

/-- The entries of attributes made from pairs are those given last. -/
private theorem mem_ofList_iff {pairs : List (String × Field)} {key : String} {value : Field} :
    (key, value) ∈ (ofList pairs).entries ↔ LastGiven pairs key value := by
  rw [ofList, mem_insertAll_iff]
  simp [empty]

/-- The value under a key is that of the one entry with this key. -/
private theorem get?_eq_some_iff {attributes : Attributes} {key : String} {value : Field} :
    attributes.get? key = some value ↔ (key, value) ∈ attributes.entries := by
  rw [get?, Option.map_eq_some_iff]
  constructor
  · rintro ⟨⟨other, held⟩, found, rfl⟩
    have same : other = key := by simpa using List.find?_some found
    subst same
    exact List.mem_of_find?_eq_some found
  · intro listed
    -- Some entry is found, and it has no other value since it has the same key.
    have there : (attributes.entries.find? fun entry => entry.1 = key).isSome := by
      rw [List.find?_isSome]
      exact ⟨_, listed, by simp⟩
    obtain ⟨⟨other, held⟩, found⟩ := Option.isSome_iff_exists.1 there
    have same : other = key := by simpa using List.find?_some found
    have one := List.inj_on_of_nodup_map attributes.nodup_keys (List.mem_of_find?_eq_some found)
      listed same
    exact ⟨_, found, (Prod.mk.inj one).2⟩

/-- The ways in which attributes are put together from pairs. -/
inductive Builder where
  /-- Each pair makes new attributes of those before. -/
  | chained
  /-- Each pair is put into the same attributes. -/
  | inPlace
  /-- All pairs are collected at once. -/
  | collected

namespace Builder

/-- New attributes for each pair. -/
def chain (held : Attributes) : List (String × Field) → Attributes
  | [] => held
  | (key, value) :: rest => chain (held.insert key value) rest

/-- Attributes that change with each pair. -/
def fill : List (String × Field) → StateM Attributes Unit
  | [] => pure ()
  | (key, value) :: rest => do
    modify fun held => held.insert key value
    fill rest

/-- The attributes that are put together. -/
def build : Builder → List (String × Field) → Attributes
  | chained, pairs => chain .empty pairs
  | inPlace, pairs => ((fill pairs).run .empty).2
  | collected, pairs => .ofList pairs

/-- New attributes for each pair come to the same as all insertions. -/
private theorem chain_eq (held : Attributes) (pairs : List (String × Field)) :
    chain held pairs = held.insertAll pairs := by
  -- Induction on the pairs, with any attributes to begin with.
  induction pairs generalizing held with
  | nil => rfl
  | cons pair rest ih => exact ih (held.insert pair.1 pair.2)

/-- Attributes that change with each pair come to the same as all insertions. -/
private theorem fill_eq (held : Attributes) (pairs : List (String × Field)) :
    ((fill pairs).run held).2 = held.insertAll pairs := by
  -- Induction on the pairs, as above.
  induction pairs generalizing held with
  | nil => rfl
  | cons pair rest ih => exact ih (held.insert pair.1 pair.2)

/-- All ways come to the same attributes. -/
theorem build_eq (builder : Builder) (pairs : List (String × Field)) :
    builder.build pairs = ofList pairs := by
  -- Collecting is what the two others are compared with.
  cases builder with
  | chained => exact chain_eq empty pairs
  | inPlace => exact fill_eq empty pairs
  | collected => rfl

end Builder

/-- The form that attributes made from pairs have. -/
structure Canonical (pairs : List (String × Field)) (attributes : Attributes) : Prop where
  /-- The keys of the entries strictly increase by their bytes. -/
  ordered : attributes.entries.Pairwise fun left right => encodedBytes left.1 < encodedBytes right.1
  /-- The entries are the last values given. -/
  lasting : ∀ key value, (key, value) ∈ attributes.entries ↔ LastGiven pairs key value
  /-- The text on the wire is an object with a member for every entry, in this order. -/
  written : ∃ members, (Outline.object members .closed).Spelled attributes.json.render.toList ∧
    members.map Outline.name? = (attributes.entries.map fun entry => some entry.1) ∧
    members.map (·.2) = attributes.entries.map fun entry => entry.2.json.outline
  found : ∀ key value, attributes.get? key = some value ↔ LastGiven pairs key value
  counted : attributes.size = (givenKeys pairs).toFinset.card

/-- Attributes made from pairs have the form. -/
private theorem canonical_ofList (pairs : List (String × Field)) :
    Canonical pairs (ofList pairs) where
  ordered := (ofList pairs).ascending.imp fun below => (encodedBytes_lt_iff _ _).2 below
  lasting _ _ := mem_ofList_iff
  written := by
    refine ⟨Json.memberOutlines ((ofList pairs).entries.map fun entry => (entry.1, entry.2.json)),
      ?_, ?_, ?_⟩
    · rw [Json.render, String.toList_ofList]
      exact (ofList pairs).json.spelled
    · rw [Outline.map_name?_memberOutlines, List.map_map]
      rfl
    · rw [Outline.memberOutlines_eq_map, List.map_map, List.map_map]
      rfl
  found key value := by rw [get?_eq_some_iff, mem_ofList_iff]
  counted := by
    -- The keys of the entries are the given keys, each of them once.
    have same : (givenKeys (ofList pairs).entries).toFinset = (givenKeys pairs).toFinset := by
      ext key
      have entry : key ∈ givenKeys (ofList pairs).entries ↔
          ∃ value, (key, value) ∈ (ofList pairs).entries := by
        simp [givenKeys]
      simp only [List.mem_toFinset, entry, mem_ofList_iff, exists_lastGiven_iff]
    rw [← same, List.toFinset_card_of_nodup (ofList pairs).nodup_keys, size, givenKeys,
      List.length_map]

/-- Reads the name and the value of a member. -/
def readEntry (depth : Nat) (member : Outline × Outline) : Decoded (String × Field) := do
  let name ← Outline.readKey member.1
  let field ← Field.read depth member.2
  return (name, field)

/-- Members that are read one by one into attributes are read and then inserted in their order. -/
private theorem foldMembers_insert (depth : Nat) (held : Attributes)
    (members : List (Outline × Outline)) :
    Outline.foldMembers
        (fun (held : Attributes) key value => do return held.insert key (← Field.read depth value))
        .closed held members =
      (members.mapM (readEntry depth)).map held.insertAll := by
  -- The first member that cannot be read is the same one in both.
  induction members generalizing held with
  | nil => rfl
  | cons member rest ih =>
    rcases member with ⟨key, value⟩
    rw [Outline.foldMembers, List.mapM_cons, readEntry]
    cases Outline.readKey key with
    | error problem => rfl
    | ok name =>
      cases Field.read depth value with
      | error problem => rfl
      | ok field =>
        have onward := ih (held.insert name field)
        cases read : rest.mapM (readEntry depth) with
        | error problem =>
          rw [read] at onward
          exact onward
        | ok entries =>
          rw [read] at onward
          exact onward

/-- Pairs with the same last values are those that make the same attributes. -/
private theorem sameLast_iff (pairs others : List (String × Field)) :
    SameLast pairs others ↔ ofList pairs = ofList others := by
  constructor
  · rintro ⟨-, values⟩
    -- Same last values, same entries, and then the order leaves no choice.
    apply eq_of_mem_iff
    rintro ⟨key, value⟩
    rw [mem_ofList_iff, mem_ofList_iff]
    exact values key value
  · intro same
    have values : ∀ key value, LastGiven pairs key value ↔ LastGiven others key value := by
      intro key value
      rw [← mem_ofList_iff, ← mem_ofList_iff, same]
    refine ⟨fun key => ?_, values⟩
    simp only [← exists_lastGiven_iff, values]

/--
Attributes are the same exactly when the pairs give the same keys with the same last values, in
whichever ways they are put together, and then they read the same for people and have the same
bytes on the wire. They have one entry for every key that is given, with its last value, in the
order of the encoded keys. An object is decoded to what its members make one after another.
-/
theorem build_canonical (pairs others : List (String × Field)) (builder other : Builder) :
    (SameLast pairs others ↔ builder.build pairs = other.build others) ∧
      (SameLast pairs others →
        (builder.build pairs).display = (other.build others).display ∧
          encodedBytes (builder.build pairs).json.render =
            encodedBytes (other.build others).json.render) ∧
      Canonical pairs (builder.build pairs) ∧
      ∀ (text : String) (members : List (Outline × Outline)),
        (Outline.object members .closed).SpelledAlone text.toList →
          decodeText read text =
            (members.mapM (readEntry (nestingLimit - 1))).map builder.build := by
  have made : builder.build = ofList := funext builder.build_eq
  rw [made, other.build_eq]
  refine ⟨sameLast_iff pairs others, fun same => ?_, canonical_ofList pairs, ?_⟩
  · rw [(sameLast_iff pairs others).1 same]
    exact ⟨rfl, rfl⟩
  · intro text members spelled
    -- The object is entered, and its members are inserted into attributes that are empty.
    rw [decodeText_spelledAlone spelled, Attributes.read, enter_of_lt (by decide)]
    exact foldMembers_insert (nestingLimit - 1) empty members

end Attributes

end LogCourier
