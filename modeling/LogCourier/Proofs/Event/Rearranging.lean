import LogCourier.Proofs.Event.Reading
import LogCourier.Proofs.Event.Slots
import LogCourier.Proofs.Event.Wire

/-!
Events are read alike from their members in any order, whatever other members stand among them, and
are not read at all when a member comes twice.
-/

namespace LogCourier

namespace Failure

/-- A law of every slot of an error. -/
def Slots.Each (depth : Nat) (law : SlotLaw) (first last : Slots) : Prop :=
  law String "message" (·.readText "a string") first.message last.message ∧
    law (Option String) "kind" readOptionalText first.kind last.kind ∧
    law (List String) "causes" (readTexts depth) first.causes last.causes ∧
    law (List String) "stack" (readTexts depth) first.stack last.stack

/-- Each member of an error goes to the slot of its name. -/
private theorem readMember_iff {depth : Nat} {first last : Slots} {member : Outline × Outline}
    {name : String} (named : Outline.name? member = some name) :
    readMember depth first name member.2 = .ok last ↔
      Slots.Each depth (Takes member) first last ∧
        (name ∈ fieldNames ∨ member.2.skip = .ok ()) := by
  rcases first with ⟨message, kind, causes, stack⟩
  rcases last with ⟨message', kind', causes', stack'⟩
  simp only [Slots.Each, Takes, named, Option.some.injEq]
  unfold readMember
  -- There is a case for every name, and one for all the others.
  split
  · have known : "message" ∈ fieldNames := by decide
    rw [fill_iff]
    grind
  · have known : "kind" ∈ fieldNames := by decide
    rw [fill_iff]
    grind
  · have known : "causes" ∈ fieldNames := by decide
    rw [fill_iff]
    grind
  · have known : "stack" ∈ fieldNames := by decide
    rw [fill_iff]
    grind
  · rw [skip_iff]
    grind [fieldNames]

/-- The slots of an error are filled by its members. -/
def slotted (depth : Nat) : Slotted fieldNames (readMember depth) where
  each := Slots.Each depth
  each_keep := by
    rintro ⟨message, kind, causes, stack⟩ ⟨message', kind', causes', stack'⟩
    simp only [Slots.Each, Slots.mk.injEq]
  each_then := by
    intro law next first last
    constructor
    · rintro ⟨⟨message, m, m'⟩, ⟨kind, k, k'⟩, ⟨causes, c, c'⟩, ⟨stack, s, s'⟩⟩
      exact ⟨⟨message, kind, causes, stack⟩, ⟨m, k, c, s⟩, ⟨m', k', c', s'⟩⟩
    · rintro ⟨mid, ⟨m, k, c, s⟩, ⟨m', k', c', s'⟩⟩
      exact ⟨⟨_, m, m'⟩, ⟨_, k, k'⟩, ⟨_, c, c'⟩, ⟨_, s, s'⟩⟩
  each_imp := by
    rintro law weaker first last ⟨m, k, c, s⟩ implied
    exact ⟨implied _ _ _ _ _ (by decide) m, implied _ _ _ _ _ (by decide) k,
      implied _ _ _ _ _ (by decide) c, implied _ _ _ _ _ (by decide) s⟩
  each_known := by
    rintro law first last field ⟨m, k, c, s⟩ listed
    simp only [fieldNames, List.mem_cons, List.not_mem_nil, or_false] at listed
    rcases listed with rfl | rfl | rfl | rfl
    · exact ⟨_, _, _, _, m⟩
    · exact ⟨_, _, _, _, k⟩
    · exact ⟨_, _, _, _, c⟩
    · exact ⟨_, _, _, _, s⟩
  step_iff := readMember_iff

/-- The result of reading an error from an object. -/
private theorem read_object_iff {depth : Nat} {members : List (Outline × Outline)}
    {failure : Failure} :
    read depth (.object members .closed) = .ok failure ↔
      ∃ inner, enter depth = .ok inner ∧ ∃ slots,
        Outline.foldMembers (readMember inner) .closed Slots.none members = .ok slots ∧
          slots.finish = .ok failure := by
  -- The depth is entered, the members are read and the slots are finished, in this order.
  rw [read, bind_ok_iff]
  simp only [bind_ok_iff]

/-- An error is read alike from its members in any order, with unknown members among them. -/
private theorem read_rearranged {depth : Nat} {members others : List (Outline × Outline)}
    {failure : Failure} (rearranged : Rearranged fieldNames members others)
    (sound : ∀ member ∈ others, member.2.skip = .ok ())
    (decoded : read depth (.object members .closed) = .ok failure) :
    read depth (.object others .closed) = .ok failure := by
  -- Only reading the members depends on their order, and there the slots gather the same.
  obtain ⟨inner, entered, slots, folded, finished⟩ := read_object_iff.1 decoded
  exact read_object_iff.2
    ⟨inner, entered, slots,
      (slotted inner).foldMembers_rearranged rearranged sound folded, finished⟩

/-- An error is not read when one of its members comes twice. -/
private theorem read_repeats {depth : Nat} {members : List (Outline × Outline)}
    (repeats : Repeats fieldNames members) (failure : Failure) :
    read depth (.object members .closed) ≠ .ok failure := by
  intro decoded
  -- The slot is filled by the first of the two, and the second one is refused.
  obtain ⟨inner, _, slots, folded, _⟩ := read_object_iff.1 decoded
  exact (slotted inner).foldMembers_repeats repeats folded

end Failure

namespace Event

/-- A law of every slot of an event. -/
def Slots.Each (depth : Nat) (law : SlotLaw) (first last : Slots) : Prop :=
  law Timestamp "timestamp" Timestamp.read first.timestamp last.timestamp ∧
    law Severity "level" (Severity.read depth) first.severity last.severity ∧
    law String "message" (·.readText "a string") first.message last.message ∧
    law (Option Failure) "error" (·.readOptional (Failure.read depth)) first.failure
      last.failure ∧
    law (Option String) "sourceId" Failure.readOptionalText first.sourceId last.sourceId ∧
    law (Option String) "appId" Failure.readOptionalText first.appId last.appId ∧
    law (Option String) "serviceName" Failure.readOptionalText first.serviceName
      last.serviceName ∧
    law Attributes "attributes" (Attributes.read depth) first.attributes last.attributes

/-- Each member of an event goes to the slot of its name. -/
private theorem readMember_iff {depth : Nat} {first last : Slots} {member : Outline × Outline}
    {name : String} (named : Outline.name? member = some name) :
    readMember depth first name member.2 = .ok last ↔
      Slots.Each depth (Takes member) first last ∧
        (name ∈ fieldNames ∨ member.2.skip = .ok ()) := by
  rcases first with ⟨timestamp, severity, message, failure, sourceId, appId, service, attributes⟩
  rcases last with ⟨timestamp', severity', message', failure', sourceId', appId', service',
    attributes'⟩
  simp only [Slots.Each, Takes, named, Option.some.injEq]
  unfold readMember
  split
  · have known : "timestamp" ∈ fieldNames := by decide
    rw [fill_iff]
    grind
  · have known : "level" ∈ fieldNames := by decide
    rw [fill_iff]
    grind
  · have known : "message" ∈ fieldNames := by decide
    rw [fill_iff]
    grind
  · have known : "error" ∈ fieldNames := by decide
    rw [fill_iff]
    grind
  · have known : "sourceId" ∈ fieldNames := by decide
    rw [fill_iff]
    grind
  · have known : "appId" ∈ fieldNames := by decide
    rw [fill_iff]
    grind
  · have known : "serviceName" ∈ fieldNames := by decide
    rw [fill_iff]
    grind
  · have known : "attributes" ∈ fieldNames := by decide
    rw [fill_iff]
    grind
  · next time level text error source app service' other =>
    -- The name is none of the eight, so every slot stays what it is.
    have unknown : name ∉ fieldNames := by
      simp only [fieldNames, List.mem_cons, List.not_mem_nil, or_false, not_or]
      exact ⟨time, level, text, error, source, app, service', other⟩
    simp only [skip_iff, if_neg time, if_neg level, if_neg text, if_neg error, if_neg source,
      if_neg app, if_neg service', if_neg other, Slots.mk.injEq, unknown, false_or, and_assoc]

/-- The slots of an event are filled by its members. -/
def slotted (depth : Nat) : Slotted fieldNames (readMember depth) where
  each := Slots.Each depth
  each_keep := by
    rintro ⟨timestamp, severity, message, failure, source, app, service, attributes⟩
      ⟨timestamp', severity', message', failure', source', app', service', attributes'⟩
    simp only [Slots.Each, Slots.mk.injEq]
  each_then := by
    intro law next first last
    constructor
    · rintro ⟨⟨timestamp, t, t'⟩, ⟨severity, l, l'⟩, ⟨message, m, m'⟩, ⟨failure, f, f'⟩,
        ⟨source, s, s'⟩, ⟨app, a, a'⟩, ⟨service, v, v'⟩, ⟨attributes, b, b'⟩⟩
      exact ⟨⟨timestamp, severity, message, failure, source, app, service, attributes⟩,
        ⟨t, l, m, f, s, a, v, b⟩, ⟨t', l', m', f', s', a', v', b'⟩⟩
    · rintro ⟨mid, ⟨t, l, m, f, s, a, v, b⟩, ⟨t', l', m', f', s', a', v', b'⟩⟩
      exact ⟨⟨_, t, t'⟩, ⟨_, l, l'⟩, ⟨_, m, m'⟩, ⟨_, f, f'⟩, ⟨_, s, s'⟩, ⟨_, a, a'⟩, ⟨_, v, v'⟩,
        ⟨_, b, b'⟩⟩
  each_imp := by
    rintro law weaker first last ⟨t, l, m, f, s, a, v, b⟩ implied
    exact ⟨implied _ _ _ _ _ (by decide) t, implied _ _ _ _ _ (by decide) l,
      implied _ _ _ _ _ (by decide) m, implied _ _ _ _ _ (by decide) f,
      implied _ _ _ _ _ (by decide) s, implied _ _ _ _ _ (by decide) a,
      implied _ _ _ _ _ (by decide) v, implied _ _ _ _ _ (by decide) b⟩
  each_known := by
    rintro law first last field ⟨t, l, m, f, s, a, v, b⟩ listed
    simp only [fieldNames, List.mem_cons, List.not_mem_nil, or_false] at listed
    rcases listed with rfl | rfl | rfl | rfl | rfl | rfl | rfl | rfl
    · exact ⟨_, _, _, _, t⟩
    · exact ⟨_, _, _, _, l⟩
    · exact ⟨_, _, _, _, m⟩
    · exact ⟨_, _, _, _, f⟩
    · exact ⟨_, _, _, _, s⟩
    · exact ⟨_, _, _, _, a⟩
    · exact ⟨_, _, _, _, v⟩
    · exact ⟨_, _, _, _, b⟩
  step_iff := readMember_iff

/-- A member as it was, or the member of an error of which the own members are rearranged. -/
inductive Alike : Outline × Outline → Outline × Outline → Prop where
  | same (member : Outline × Outline) : Alike member member
  | error {key : Outline} {members others : List (Outline × Outline)}
      (named : Outline.readKey key = .ok "error")
      (inside : Rearranged Failure.fieldNames members others) :
      Alike (key, .object members .closed) (key, .object others .closed)

/-- The members of an event rearranged, and those of its error too. -/
def Rearranges (members others : List (Outline × Outline)) : Prop :=
  ∃ counterparts, List.Forall₂ Alike members counterparts ∧
    Rearranged fieldNames counterparts others

/-- A member of an event comes twice, or a member of its error does. -/
def RepeatsMember (members : List (Outline × Outline)) : Prop :=
  Repeats fieldNames members ∨ ∃ key inner, (key, .object inner .closed) ∈ members ∧
    Outline.readKey key = .ok "error" ∧ Repeats Failure.fieldNames inner

/-- An optional value that is an object is read as one that is there. -/
private theorem readOptional_object_iff {read : Outline → Decoded α}
    {members : List (Outline × Outline)} {value : Option α} :
    (Outline.object members .closed).readOptional read = .ok value ↔
      ∃ content, read (.object members .closed) = .ok content ∧ value = some content := by
  -- Only the literal null is read as absent.
  rw [Outline.readOptional]
  · cases read (.object members .closed) <;> simp [Except.map, eq_comm]
  · simp

/-- The member of an error fills its slot. -/
private theorem readMember_error_iff {depth : Nat} {first last : Slots} {value : Outline} :
    readMember depth first "error" value = .ok last ↔ first.failure = none ∧
      ∃ content, value.readOptional (Failure.read depth) = .ok content ∧
        last = { first with failure := some content } :=
  fill_iff

/-- A skipper finds nothing wrong in members with spelled values. -/
private theorem skip_of_spelled {members : List (Outline × Outline)}
    (spelled : ∀ member ∈ members, ∃ core, Outline.Spelled member.2 core) :
    ∀ member ∈ members, member.2.skip = .ok () := by
  intro member listed
  -- What the grammar spells the skipper accepts.
  obtain ⟨_, held⟩ := spelled member listed
  exact Outline.skip_spelled held

/-- A member does for an event what its counterpart does. -/
private theorem readMember_alike {depth : Nat} {first last : Slots} {name : String}
    {member other : Outline × Outline} (alike : Alike member other)
    (spelled : ∃ core, Outline.Spelled other.2 core) (named : Outline.name? member = some name)
    (stepped : readMember depth first name member.2 = .ok last) :
    Outline.name? other = some name ∧ readMember depth first name other.2 = .ok last := by
  cases alike with
  | same => exact ⟨named, stepped⟩
  | @error key members others called inside =>
    refine ⟨named, ?_⟩
    have error : name = "error" := by
      rw [Outline.name?, called] at named
      exact (Option.some.inj named).symm
    subst error
    -- What is skipped in the counterpart is in order, so the same error is read from it.
    obtain ⟨core, spelled⟩ := spelled
    have sound := skip_of_spelled spelled.member
    rw [readMember_error_iff] at stepped ⊢
    obtain ⟨empty, content, taken, rfl⟩ := stepped
    obtain ⟨failure, read, rfl⟩ := readOptional_object_iff.1 taken
    have again := Failure.read_rearranged inside sound read
    exact ⟨empty, _, readOptional_object_iff.2 ⟨failure, again, rfl⟩, rfl⟩

/-- Members do for an event what their counterparts do. -/
private theorem foldMembers_alike {depth : Nat} {first last : Slots}
    {members others : List (Outline × Outline)} (alike : List.Forall₂ Alike members others)
    (spelled : ∀ member ∈ others, ∃ core, Outline.Spelled member.2 core)
    (folded : Outline.foldMembers (readMember depth) .closed first members = .ok last) :
    Outline.foldMembers (readMember depth) .closed first others = .ok last := by
  -- Induction on the two lists, whose heads do the same to the slots.
  induction alike generalizing first with
  | nil => exact folded
  | cons head _ ih =>
    obtain ⟨name, next, named, stepped, onward⟩ := foldMembers_cons_ok_iff.1 folded
    obtain ⟨called, again⟩ := readMember_alike head (spelled _ List.mem_cons_self) named stepped
    have behind := ih (fun member listed => spelled member (List.mem_cons_of_mem _ listed)) onward
    exact foldMembers_cons_ok_iff.2 ⟨name, next, called, again, behind⟩

/-- The result of reading an event from an object. -/
private theorem read_object_iff {depth : Nat} {members : List (Outline × Outline)}
    {event : Event} :
    read depth (.object members .closed) = .ok event ↔
      ∃ inner, enter depth = .ok inner ∧ ∃ slots,
        Outline.foldMembers (readMember inner) .closed Slots.none members = .ok slots ∧
          slots.finish = .ok event := by
  -- As for an error: the depth, the members and the slots.
  rw [read, bind_ok_iff]
  simp only [bind_ok_iff]

/-- Members are not read when one of the members of an error comes twice. -/
private theorem foldMembers_repeats_error {depth : Nat} {first last : Slots}
    {members : List (Outline × Outline)} {key : Outline} {inner : List (Outline × Outline)}
    (listed : (key, .object inner .closed) ∈ members) (named : Outline.readKey key = .ok "error")
    (repeats : Repeats Failure.fieldNames inner) :
    Outline.foldMembers (readMember depth) .closed first members ≠ .ok last := by
  intro folded
  -- The members in front of the error are of no help to it.
  induction members generalizing first with
  | nil => cases listed
  | cons member rest ih =>
    obtain ⟨name, next, called, stepped, onward⟩ := foldMembers_cons_ok_iff.1 folded
    rcases List.mem_cons.1 listed with rfl | among
    · rw [Outline.name?, named] at called
      cases called
      obtain ⟨_, content, taken, _⟩ := readMember_error_iff.1 stepped
      obtain ⟨failure, read, _⟩ := readOptional_object_iff.1 taken
      exact Failure.read_repeats repeats failure read
    · exact ih among onward

/-- The values of the members of a whole text are spelled. -/
private theorem spelled_member {members : List (Outline × Outline)} {text : List Char}
    (spelled : (Outline.object members .closed).SpelledAlone text) :
    ∀ member ∈ members, ∃ core, Outline.Spelled member.2 core := by
  -- A whole text has nothing but gaps around the one object.
  obtain ⟨_, _, _, _, _, spelled, _⟩ := spelled
  exact spelled.member

/--
An event is decoded alike from the members of its text in any order, in the object of its error
too, whatever members of unknown names stand among them. No text is decoded in which a known member
comes twice.
-/
theorem parse_rearranged {text : String} {members : List (Outline × Outline)} {event : Event}
    (spelled : (Outline.object members .closed).SpelledAlone text.toList)
    (decoded : parse text = .ok event) (other : String) (others : List (Outline × Outline))
    (respelled : (Outline.object others .closed).SpelledAlone other.toList) :
    (Rearranges members others → parse other = .ok event) ∧
      (RepeatsMember others → ∃ problem, parse other = .error problem) := by
  rw [parse, decodeText_spelledAlone spelled] at decoded
  rw [parse, decodeText_spelledAlone respelled]
  constructor
  · rintro ⟨counterparts, alike, rearranged⟩
    have held := spelled_member respelled
    obtain ⟨inner, entered, slots, folded, finished⟩ := read_object_iff.1 decoded
    -- First the error is read from its counterpart, then the members are put in their new places.
    have among : ∀ member ∈ counterparts, ∃ core, Outline.Spelled member.2 core := by
      obtain ⟨extra, -, order⟩ := rearranged
      intro member listed
      exact held member (order.mem_iff.2 (List.mem_append_right _ listed))
    have counted := foldMembers_alike alike among folded
    have refolded :=
      (slotted inner).foldMembers_rearranged rearranged (skip_of_spelled held) counted
    exact read_object_iff.2 ⟨inner, entered, slots, refolded, finished⟩
  · intro repeats
    cases read : read nestingLimit (.object others .closed) with
    | error problem => exact ⟨problem, rfl⟩
    | ok found =>
      obtain ⟨inner, _, slots, folded, _⟩ := read_object_iff.1 read
      rcases repeats with twice | ⟨key, within, listed, named, twice⟩
      · exact absurd folded ((slotted inner).foldMembers_repeats twice)
      · exact absurd folded (foldMembers_repeats_error listed named twice)

/-- An event that tells of an error. -/
private def mishap : Event :=
  { (default : Event) with failure := some (.ofMessage "lost") }

/-- The same event from the back to the front, with more to tell of it and of its error. -/
private def shuffled : Json :=
  .object [("note", .list [.null, .null]),
    ("error", .object [("hint", .object []), ("message", .text "lost")]),
    ("message", .text ""), ("level", .text "INFO"), ("timestamp", .integer 0)]

/-- The same event with a second message. -/
private def ambiguous : Json :=
  .object [("timestamp", .integer 0), ("level", .text "INFO"), ("message", .text ""),
    ("message", .text "")]

/-- A text with its members shuffled is decoded, and one with two messages is not. -/
theorem parse_rearranged_shuffled :
    parse shuffled.render = .ok mishap ∧ ∃ problem, parse ambiguous.render = .error problem := by
  have decoded : parse mishap.json.render = .ok mishap := by
    rw [parse, Json.decodeText_render]
    exact Event.read_json (by decide) (by decide)
  have spelled := mishap.json.spelledAlone
  -- A member of an unknown name stands in front of all members in reverse, and so in the error.
  have inside : Rearranged Failure.fieldNames
      (Json.memberOutlines [("message", .text "lost")])
      (Json.memberOutlines [("hint", .object []), ("message", .text "lost")]) :=
    ⟨Json.memberOutlines [("hint", .object [])], by
      intro member listed
      cases List.mem_singleton.1 listed
      exact ⟨"hint", Outline.name?_written ("hint", .object []), by decide⟩, .refl _⟩
  constructor
  · refine (parse_rearranged spelled decoded shuffled.render _ shuffled.spelledAlone).1 ?_
    refine ⟨_, .cons (.same _) (.cons (.same _) (.cons (.same _) (.cons (.error ?_ inside) .nil))),
      [_], ?_, .cons _ (List.reverse_perm [_, _, _, _])⟩
    · rw [Outline.readKey, Literal.read_ofString]
    · intro member listed
      cases List.mem_singleton.1 listed
      exact ⟨"note", Outline.name?_written ("note", .list [.null, .null]), by decide⟩
  · refine (parse_rearranged spelled decoded ambiguous.render _ ambiguous.spelledAlone).2 (.inl ?_)
    exact ⟨[_, _], _, [], _, [], "message", rfl, by decide,
      Outline.name?_written ("message", .text ""), Outline.name?_written ("message", .text "")⟩

end Event

end LogCourier
