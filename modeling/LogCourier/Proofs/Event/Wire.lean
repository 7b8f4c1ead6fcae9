import LogCourier.Console
import LogCourier.Payload.Basic
import LogCourier.Proofs.Json.Reading
import LogCourier.Proofs.Text.Printable
import Mathlib.Data.List.Forall2

/-!
Events on the wire: one line of JSON, whatever the events tell of, with a member for each thing that
there is to tell and for nothing else.
-/

namespace LogCourier

/-- One value of a shape that fills a line: no control, and nothing before or behind the value. -/
structure FillsLine (text : String) (shape : Outline → Prop) : Prop where
  printable : Printable text.toList
  complete : ∃ outline : Outline, outline.Spelled text.toList ∧ shape outline ∧
    ∀ other : Outline, other.SpelledAlone text.toList → other = outline

/-- Any value fills a line when it is written. -/
theorem Json.fillsLine (json : Json) {shape : Outline → Prop} (shaped : shape json.outline) :
    FillsLine json.render shape := by
  -- The spelling is unique, so that any other one has the same shape.
  refine ⟨?_, json.outline, ?_, shaped, fun other spelled => spelled.unique json.spelledAlone⟩
  · rw [render, String.toList_ofList]
    exact json.printable_chars
  · rw [render, String.toList_ofList]
    exact json.spelled

/-- The names that are left of a list stand one after another. -/
private theorem map_filter_eq_flatMap (names : List String) (kept : String → Bool) :
    (names.filter kept).map some =
      names.flatMap fun name => if kept name then [some name] else [] := by
  -- Induction on the names.
  induction names with
  | nil => rfl
  | cons name rest ih =>
    rw [List.flatMap_cons, ← ih, List.filter_cons]
    cases kept name <;> rfl

namespace Failure

/-- The names under which an error tells of itself, in the order of the wire. -/
def fieldNames : List String :=
  ["message", "kind", "causes", "stack"]

/-- Whether an error has something to tell under a name. -/
def tells (failure : Failure) : String → Bool
  | "message" => true
  | "kind" => failure.kind.isSome
  | "causes" => !failure.causes.isEmpty
  | "stack" => !failure.stack.isEmpty
  | _ => false

/-- An object with exactly the members for which an error has something to tell. -/
def ShownBy (failure : Failure) (outline : Outline) : Prop :=
  ∃ members, outline = .object members .closed ∧
    members.map Outline.name? = (fieldNames.filter failure.tells).map some

/-- The name of an optional string is there when the string is. -/
theorem map_optionalText (name : String) (value : Option String) :
    (optionalText name value).map (fun member => some member.1) =
      if value.isSome then [some name] else [] := by
  cases value <;> rfl

/-- The name of a list is there when the list is not empty. -/
private theorem map_nonemptyTexts (name : String) (values : List String) :
    (nonemptyTexts name values).map (fun member => some member.1) =
      if !values.isEmpty then [some name] else [] := by
  cases values <;> rfl

/-- A written error shows what it has to tell. -/
theorem shownBy_json (failure : Failure) : failure.ShownBy failure.json.outline := by
  refine ⟨_, by rw [json, Json.outline], ?_⟩
  rw [Outline.map_name?_memberOutlines, map_filter_eq_flatMap]
  simp [map_optionalText, map_nonemptyTexts, fieldNames, tells]

end Failure

namespace Event

/-- The names under which an event tells of itself, in the order of the wire. -/
def fieldNames : List String :=
  ["timestamp", "level", "message", "error", "sourceId", "appId", "serviceName", "attributes"]

/-- Whether an event has something to tell under a name. -/
def tells (event : Event) : String → Bool
  | "timestamp" | "level" | "message" => true
  | "error" => event.failure.isSome
  | "sourceId" => event.origin.sourceId.isSome
  | "appId" => event.origin.appId.isSome
  | "serviceName" => event.origin.serviceName.isSome
  | "attributes" => !event.attributes.isEmpty
  | _ => false

/-- An object with exactly the members for which an event has something to tell, of its error too.
-/
def ShownBy (event : Event) (outline : Outline) : Prop :=
  ∃ members, outline = .object members .closed ∧
    members.map Outline.name? = (fieldNames.filter event.tells).map some ∧
    ∀ member ∈ members, Outline.name? member = some "error" →
      ∃ failure, event.failure = some failure ∧ failure.ShownBy member.2

/-- A written event shows what it has to tell. -/
theorem shownBy_json (event : Event) : event.ShownBy event.json.outline := by
  refine ⟨_, by rw [json, Json.outline], ?names, ?error⟩
  case names =>
    have failure : (event.failure.map fun failure => ("error", failure.json)).toList.map
        (fun member => some member.1) = if event.failure.isSome then [some "error"] else [] := by
      cases event.failure <;> rfl
    have attributes : (if event.attributes.isEmpty then []
        else [("attributes", event.attributes.json)]).map (fun member => some member.1) =
          if !event.attributes.isEmpty then [some "attributes"] else [] := by
      cases event.attributes.isEmpty <;> rfl
    rw [Outline.map_name?_memberOutlines, map_filter_eq_flatMap]
    simp [failure, attributes, Failure.map_optionalText, fieldNames, tells]
  case error =>
    intro member listed named
    rw [Outline.memberOutlines_eq_map] at listed
    obtain ⟨⟨name, value⟩, written, rfl⟩ := List.mem_map.1 listed
    rw [Outline.name?_written, Option.some.injEq] at named
    subst named
    -- Of all the members, only that of the error has its name.
    simp only [List.mem_append] at written
    rcases written with ((((required | told) | source) | app) | service) | attributes
    · simp at required
    · rw [Option.mem_toList, Option.map_eq_some_iff] at told
      obtain ⟨failure, present, same⟩ := told
      cases same
      exact ⟨failure, present, failure.shownBy_json⟩
    · simp [Failure.optionalText] at source
    · simp [Failure.optionalText] at app
    · simp [Failure.optionalText] at service
    · split at attributes
      · cases attributes
      · simp at attributes

/-- Written events show what they have to tell, one after another. -/
private theorem shownBy_outlines (batch : List Event) :
    List.Forall₂ ShownBy batch (Json.outlines (batch.map json)) := by
  -- Induction on the batch.
  induction batch with
  | nil => exact .nil
  | cons event rest ih => exact .cons event.shownBy_json ih

/--
Whatever an event tells of, its text on the wire is one line with one object that leaves out
exactly what is absent or empty. A console for programs prints that line, and the body of a payload
is one line with a list of such objects.
-/
theorem wire_fillsLine (event : Event) (colours ansi : Bool) (batch : List Event)
    (compression : Compression) :
    FillsLine event.wire event.ShownBy ∧
      FillsLine ((Console.mk colours .json).render ansi event) event.ShownBy ∧
      FillsLine (Payload.encode batch compression).body fun outline =>
        ∃ items, outline = .list items .closed ∧ List.Forall₂ ShownBy batch items := by
  have single : FillsLine event.wire event.ShownBy := event.json.fillsLine event.shownBy_json
  -- The console has nothing to add to the text of the wire.
  refine ⟨single, single, ?_⟩
  apply Json.fillsLine
  exact ⟨_, by rw [Json.outline], shownBy_outlines batch⟩

end Event

end LogCourier
