import LogCourier.Text.Blank
import Mathlib.Data.List.TakeWhile

/-! Trimming a text: what is left is its one core that no blank starts or ends. -/

namespace LogCourier

/-- A run of nothing but blanks. -/
def Blanks (run : List Char) : Prop :=
  ∀ c ∈ run, isBlank c = true

/-- A run that no blank starts or ends. -/
structure BlankFreeEnds (run : List Char) : Prop where
  first : ∀ c, run.head? = some c → isBlank c = false
  last : ∀ c, run.getLast? = some c → isBlank c = false

/-- A core is what is between the blanks at the two ends of a text. -/
structure Trims (text core : List Char) : Prop where
  around : ∃ front back, Blanks front ∧ Blanks back ∧ text = front ++ core ++ back
  bare : BlankFreeEnds core

/-- Blanks remain blank from the other end. -/
theorem Blanks.reverse {run : List Char} (blank : Blanks run) : Blanks run.reverse :=
  fun c member => blank c (List.mem_reverse.1 member)

/-- What goes at the front is blank, and what stays does not start with a blank. -/
theorem dropWhile_split (run : List Char) :
    (∃ front, Blanks front ∧ run = front ++ run.dropWhile isBlank) ∧
      ∀ c, (run.dropWhile isBlank).head? = some c → isBlank c = false := by
  -- The front is the longest run of blanks, so that it ends where something else begins.
  refine ⟨⟨run.takeWhile isBlank, fun c member => List.mem_takeWhile_imp member,
    List.takeWhile_append_dropWhile.symm⟩, fun c first => ?_⟩
  have stopped := List.head?_dropWhile_not isBlank run
  rwa [first] at stopped

/-- Blanks go from the front as far as a run that starts with something else. -/
theorem dropWhile_blanks {front run : List Char} (blank : Blanks front)
    (first : ∀ c, run.head? = some c → isBlank c = false) :
    (front ++ run).dropWhile isBlank = run := by
  -- The blanks go, and then there is nothing more to take.
  rw [List.dropWhile_append_of_pos blank]
  cases run with
  | nil => rfl
  | cons c rest => rw [List.dropWhile_cons_of_neg (by simp [first c rfl])]

/-- Trimming finds the core of a text. -/
theorem trims_trimBlanks (text : List Char) : Trims text (trimBlanks text) := by
  -- The front is dropped first, and then the back of the rest as the front of its reverse.
  obtain ⟨⟨front, blank, whole⟩, first⟩ := dropWhile_split text
  obtain ⟨⟨back, empty, rest⟩, last⟩ := dropWhile_split (text.dropWhile isBlank).reverse
  have parts : text.dropWhile isBlank = trimBlanks text ++ back.reverse := by
    rw [← List.reverse_reverse (text.dropWhile isBlank), rest, List.reverse_append]
    rfl
  refine ⟨⟨front, back.reverse, blank, empty.reverse, ?_⟩,
    ⟨fun c head => first c ?_, fun c tail => last c ?_⟩⟩
  · rw [List.append_assoc, ← parts]
    exact whole
  · rw [parts, List.head?_append, head]
    rfl
  · rwa [trimBlanks, trimEnd, List.getLast?_reverse] at tail

/-- A text has one core. -/
theorem Trims.eq {text core : List Char} (trims : Trims text core) : trimBlanks text = core := by
  obtain ⟨⟨front, back, blank, empty, rfl⟩, bare⟩ := trims
  have last : ∀ c, core.reverse.head? = some c → isBlank c = false := by
    intro c tail
    exact bare.last c (by rwa [List.head?_reverse] at tail)
  cases core with
  | nil =>
    -- The text is blank from one end to the other, and nothing stays.
    have all : Blanks (front ++ back) := List.forall_mem_append.2 ⟨blank, empty⟩
    have nothing : (front ++ [] ++ back).dropWhile isBlank = [] := by
      simpa using dropWhile_blanks all bare.first
    rw [trimBlanks, nothing]
    rfl
  | cons c rest =>
    have start : ((front ++ (c :: rest) ++ back).dropWhile isBlank) = c :: rest ++ back := by
      rw [List.append_assoc]
      exact dropWhile_blanks blank fun d head => bare.first d head
    rw [trimBlanks, start, trimEnd, List.reverse_append, dropWhile_blanks empty.reverse last,
      List.reverse_reverse]

/-- Trimming finds the core and nothing else. -/
theorem trims_iff {text core : List Char} : Trims text core ↔ trimBlanks text = core :=
  ⟨Trims.eq, fun found => found ▸ trims_trimBlanks text⟩

end LogCourier
