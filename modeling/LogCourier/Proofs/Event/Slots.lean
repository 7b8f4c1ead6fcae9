import LogCourier.Event.Failure
import LogCourier.Proofs.Json.Reading

/-!
The members of an object fill slots, each slot from the one member of its name. So neither the order
of the members matters nor what stands among them under other names, and no name may come twice.
-/

namespace LogCourier

/-- What holds of a slot before and after, given the name of its member and how that is read. -/
abbrev SlotLaw : Type 1 :=
  (α : Type) → String → (Outline → Decoded α) → Option α → Option α → Prop

/-- A slot takes what is read from a member of its name, once, and nothing from other members. -/
def Takes (member : Outline × Outline) : SlotLaw := fun _ field read before after =>
  if Outline.name? member = some field then
    before = none ∧ ∃ content, read member.2 = .ok content ∧ after = some content
  else after = before

/-- A slot takes its part of members one after another. -/
def Gathers : List (Outline × Outline) → SlotLaw
  | [] => fun _ _ _ before after => after = before
  | member :: rest => fun α field read before after =>
    ∃ amid, Takes member α field read before amid ∧ Gathers rest α field read amid after

section Gathering

variable {α : Type} {field : String} {read : Outline → Decoded α} {before after : Option α}

/-- A slot takes from two members in either order. -/
private theorem gathers_swap {first second : Outline × Outline} {rest : List (Outline × Outline)}
    (gathers : Gathers (first :: second :: rest) α field read before after) :
    Gathers (second :: first :: rest) α field read before after := by
  obtain ⟨one, taken, two, others, gathered⟩ := gathers
  simp only [Takes] at taken others
  by_cases mine : Outline.name? first = some field
  · rw [if_pos mine] at taken
    obtain ⟨empty, content, held, rfl⟩ := taken
    by_cases yours : Outline.name? second = some field
    · -- The slot is no longer empty for the second member.
      rw [if_pos yours] at others
      cases others.1
    · rw [if_neg yours] at others
      subst others
      refine ⟨before, by simp [Takes, yours], some content, ?_, gathered⟩
      simp only [Takes, if_pos mine]
      exact ⟨empty, content, held, rfl⟩
  · rw [if_neg mine] at taken
    subst taken
    refine ⟨two, ?_, two, by simp [Takes, mine], gathered⟩
    simpa only [Takes] using others

/-- A slot takes the same from members in any order. -/
theorem Gathers.perm {members others : List (Outline × Outline)} (order : members.Perm others)
    (gathers : Gathers members α field read before after) :
    Gathers others α field read before after := by
  -- Induction on the permutation; only a swap needs an argument, that slots do not look at each
  -- other.
  induction order generalizing before with
  | nil => exact gathers
  | cons member _ ih =>
    obtain ⟨amid, taken, gathered⟩ := gathers
    exact ⟨amid, taken, ih gathered⟩
  | swap first second rest => exact gathers_swap gathers
  | trans _ _ ih ih' => exact ih' (ih gathers)

/-- Members of other names in front give a slot nothing. -/
theorem Gathers.unnamed {extra members : List (Outline × Outline)}
    (others : ∀ member ∈ extra, Outline.name? member ≠ some field)
    (gathers : Gathers members α field read before after) :
    Gathers (extra ++ members) α field read before after := by
  -- Induction on the members in front, none of which the slot takes.
  induction extra with
  | nil => exact gathers
  | cons member rest ih =>
    refine ⟨before, ?_, ih fun other listed => others other (List.mem_cons_of_mem _ listed)⟩
    simp [Takes, others member List.mem_cons_self]

/-- A slot takes from no two members of its name, wherever they stand. -/
theorem Gathers.once {first second : Outline × Outline}
    {front between back : List (Outline × Outline)} (one : Outline.name? first = some field)
    (other : Outline.name? second = some field)
    (gathers : Gathers (front ++ first :: (between ++ second :: back)) α field read before after) :
    False := by
  -- The two members may as well come first.
  have order : (front ++ first :: (between ++ second :: back)).Perm
      (first :: second :: (front ++ (between ++ back))) := by
    refine List.perm_middle.trans (.cons first ?_)
    refine (List.Perm.append_left front List.perm_middle).trans ?_
    exact List.perm_middle
  obtain ⟨amid, taken, last, others, -⟩ := gathers.perm order
  simp only [Takes, if_pos one] at taken
  simp only [Takes, if_pos other] at others
  obtain ⟨-, content, -, rfl⟩ := taken
  cases others.1

end Gathering

/-- Two steps of a decoder come to a result if the first one does and the second one from there. -/
theorem bind_ok_iff {β γ : Type} {reading : Decoded β} {onward : β → Decoded γ} {last : γ} :
    reading >>= onward = .ok last ↔ ∃ mid, reading = .ok mid ∧ onward mid = .ok last := by
  cases reading <;> simp [bind, Except.bind]

/-- A state with one more slot filled: the slot was empty, and its member is read. -/
theorem fill_iff {σ : Type} {name : String} {slot : Option α} {reading : Decoded α}
    {update : Option α → σ} {last : σ} :
    (fillSlot name slot reading >>= fun held => pure (update held)) = (.ok last : Decoded σ) ↔
      slot = none ∧ ∃ content, reading = .ok content ∧ last = update (some content) := by
  -- A slot that is filled refuses its member, whatever the member holds.
  cases slot with
  | some held => simp [fillSlot, bind, Except.bind]
  | none =>
    cases reading <;>
      simp [fillSlot, Except.map, bind, Except.bind, pure, Except.pure, eq_comm]

/-- A state that a skipped value leaves alone. -/
theorem skip_iff {σ : Type} {reading : Decoded Unit} {first last : σ} :
    (reading >>= fun _ => pure first) = (.ok last : Decoded σ) ↔
      last = first ∧ reading = .ok () := by
  cases reading <;> simp [bind, Except.bind, pure, Except.pure, eq_comm]

/-- A reader of members whose state is a row of slots, one for each of the known names. -/
structure Slotted {σ : Type} (known : List String)
    (step : σ → String → Outline → Decoded σ) where
  /-- A law of every slot. -/
  each : SlotLaw → σ → σ → Prop
  each_keep {first last : σ} :
    each (fun _ _ _ before after => after = before) first last ↔ last = first
  each_then {law next : SlotLaw} {first last : σ} :
    each (fun α field read before after =>
        ∃ amid, law α field read before amid ∧ next α field read amid after) first last ↔
      ∃ mid, each law first mid ∧ each next mid last
  each_imp {law weaker : SlotLaw} {first last : σ} (kept : each law first last)
    (implied : ∀ α field read before after, field ∈ known →
      law α field read before after → weaker α field read before after) :
    each weaker first last
  each_known {law : SlotLaw} {first last : σ} {field : String} (kept : each law first last)
    (listed : field ∈ known) : ∃ α read before after, law α field read before after
  /-- A member goes to the slot of its name, and one of an unknown name is skipped. -/
  step_iff {first last : σ} {member : Outline × Outline} {name : String}
    (named : Outline.name? member = some name) :
    step first name member.2 = .ok last ↔
      each (Takes member) first last ∧ (name ∈ known ∨ member.2.skip = .ok ())

/-- A member has a name, and if nobody knows it, at least its value is in order. -/
def Legible (known : List String) (member : Outline × Outline) : Prop :=
  ∃ name, Outline.name? member = some name ∧ (name ∈ known ∨ member.2.skip = .ok ())

/-- Two members have the same one of the known names. -/
def Repeats (known : List String) (members : List (Outline × Outline)) : Prop :=
  ∃ front first between second back name, members = front ++ first :: (between ++ second :: back) ∧
    name ∈ known ∧ Outline.name? first = some name ∧ Outline.name? second = some name

/-- Members in another order, with members of unknown names among them. -/
def Rearranged (known : List String) (members others : List (Outline × Outline)) : Prop :=
  ∃ extra, (∀ member ∈ extra, ∃ name, Outline.name? member = some name ∧ name ∉ known) ∧
    others.Perm (extra ++ members)

/-- The first of several members is read before the others. -/
theorem foldMembers_cons_ok_iff {σ : Type} {step : σ → String → Outline → Decoded σ}
    {first last : σ} {member : Outline × Outline} {rest : List (Outline × Outline)} :
    Outline.foldMembers step .closed first (member :: rest) = .ok last ↔
      ∃ name next, Outline.name? member = some name ∧ step first name member.2 = .ok next ∧
        Outline.foldMembers step .closed next rest = .ok last := by
  -- The name is read before the value, and both can fail.
  rcases member with ⟨key, value⟩
  rw [Outline.foldMembers, Outline.name?, bind_ok_iff]
  simp only [bind_ok_iff]
  cases Outline.readKey key <;> simp [Except.toOption]

namespace Slotted

variable {σ : Type} {known : List String} {step : σ → String → Outline → Decoded σ}
  {first last : σ} {members others : List (Outline × Outline)}

/-- Members are read if every slot gathers its part and every member is legible. -/
theorem foldMembers_ok_iff (slotted : Slotted known step) :
    Outline.foldMembers step .closed first members = .ok last ↔
      slotted.each (Gathers members) first last ∧ ∀ member ∈ members, Legible known member := by
  -- Each slot goes its own way from member to member.
  induction members generalizing first with
  | nil =>
    rw [Outline.foldMembers]
    show (Except.ok first = Except.ok last) ↔ _
    rw [Except.ok.injEq, Gathers, slotted.each_keep, eq_comm]
    simp
  | cons member rest ih =>
    rw [foldMembers_cons_ok_iff, Gathers, slotted.each_then, List.forall_mem_cons]
    constructor
    · rintro ⟨name, next, named, stepped, others⟩
      obtain ⟨taken, legible⟩ := (slotted.step_iff named).1 stepped
      obtain ⟨gathered, behind⟩ := ih.1 others
      exact ⟨⟨next, taken, gathered⟩, ⟨name, named, legible⟩, behind⟩
    · rintro ⟨⟨next, taken, gathered⟩, ⟨name, named, legible⟩, behind⟩
      exact ⟨name, next, named, (slotted.step_iff named).2 ⟨taken, legible⟩,
        ih.2 ⟨gathered, behind⟩⟩

/-- Members are read to the same end in any order and with members of unknown names among them. -/
theorem foldMembers_rearranged (slotted : Slotted known step)
    (rearranged : Rearranged known members others)
    (sound : ∀ member ∈ others, member.2.skip = .ok ())
    (folded : Outline.foldMembers step .closed first members = .ok last) :
    Outline.foldMembers step .closed first others = .ok last := by
  -- Each slot gathers the same from the members in their new order, with the strange ones in front.
  obtain ⟨extra, strange, order⟩ := rearranged
  obtain ⟨gathered, legible⟩ := slotted.foldMembers_ok_iff.1 folded
  refine slotted.foldMembers_ok_iff.2 ⟨?_, fun member listed => ?_⟩
  · apply slotted.each_imp gathered
    intro α field read before after listed gathers
    apply Gathers.perm order.symm
    apply Gathers.unnamed _ gathers
    rintro member among named
    obtain ⟨name, called, unknown⟩ := strange member among
    rw [called, Option.some.injEq] at named
    exact unknown (named ▸ listed)
  · -- The strange members are skipped, and skipping them succeeds.
    rcases List.mem_append.1 (order.mem_iff.1 listed) with among | among
    · obtain ⟨name, called, -⟩ := strange member among
      exact ⟨name, called, .inr (sound member listed)⟩
    · exact legible member among

/-- Members are not read when a known name comes twice. -/
theorem foldMembers_repeats (slotted : Slotted known step) (repeats : Repeats known members) :
    Outline.foldMembers step .closed first members ≠ .ok last := by
  intro folded
  -- The slot of the name that comes twice gathers from both members, which it cannot.
  obtain ⟨front, one, between, other, back, name, rfl, listed, called, again⟩ := repeats
  obtain ⟨gathered, _⟩ := slotted.foldMembers_ok_iff.1 folded
  obtain ⟨α, read, before, after, gathers⟩ := slotted.each_known gathered listed
  exact gathers.once called again

end Slotted

end LogCourier
