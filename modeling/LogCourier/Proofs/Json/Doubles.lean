import LogCourier.Json.Value
import LogCourier.Proofs.Json.Integers

/-!
Doubles are written as numbers of the grammar, or as null where JSON has no number for them.

The digits that are searched for are never zero, so that no number starts with a zero that does not
stand alone before its point.
-/

namespace LogCourier

namespace Scientific

/-- A grid so fine that a fraction reaches its first point above zero. -/
private def Reaches (num den : Nat) (place : Int) : Prop :=
  den * Nat.pow 10 place.toNat ≤ num * Nat.pow 10 (-place).toNat

/-- A finer grid is reached as well. -/
private theorem Reaches.finer {num den : Nat} {place : Int} (reaches : Reaches num den place) :
    Reaches num den (place - 1) := by
  unfold Reaches at reaches ⊢
  by_cases above : 0 < place
  · -- The points come closer together.
    have power : place.toNat = (place - 1).toNat + 1 := by omega
    have none : (-(place - 1)).toNat = (-place).toNat := by omega
    have closer : den * Nat.pow 10 (place - 1).toNat ≤ den * Nat.pow 10 place.toNat := by
      rw [power]
      exact Nat.mul_le_mul_left den (Nat.pow_le_pow_right (by decide) (Nat.le_succ _))
    rw [none]
    exact Nat.le_trans closer reaches
  · -- The fraction is scaled up further.
    have power : (-(place - 1)).toNat = (-place).toNat + 1 := by omega
    have none : (place - 1).toNat = place.toNat := by omega
    have further : num * Nat.pow 10 (-place).toNat ≤ num * Nat.pow 10 (-(place - 1)).toNat := by
      rw [power]
      exact Nat.mul_le_mul_left num (Nat.pow_le_pow_right (by decide) (Nat.le_succ _))
    rw [none]
    exact Nat.le_trans reaches further

/-- The last point before a fraction is not zero on a grid that it reaches. -/
private theorem Reaches.floor_pos {num den : Nat} {place : Int} (reaches : Reaches num den place)
    (proper : 0 < den) :
    0 < num * Nat.pow 10 (-place).toNat / (den * Nat.pow 10 place.toNat) :=
  Nat.div_pos reaches (Nat.mul_pos proper (Nat.pow_pos (by decide)))

/-- A grid point around a fraction that reaches the grid is not zero. -/
private theorem gridPoint?_pos {tie : Tie} {closed : Bool} {num den below above point : Nat}
    {place : Int} (reaches : Reaches num den place) (proper : 0 < den)
    (found : gridPoint? tie closed num den below above place = some point) : 0 < point := by
  have floor := reaches.floor_pos proper
  have settled := Tie.settle_bounds tie
    (num * Nat.pow 10 (-place).toNat / (den * Nat.pow 10 place.toNat))
  -- Whichever point is chosen, it is the one before the fraction or the next one.
  simp only [gridPoint?] at found
  split at found
  · split at found
    · cases found
      exact floor
    · split at found
      · cases found
        exact Nat.succ_pos _
      · cases found
        exact Nat.lt_of_lt_of_le floor settled.1
  · cases found
    exact floor
  · cases found
    exact Nat.succ_pos _
  · cases found

/-- A search that starts on a grid within reach does not end on zero. -/
private theorem search_pos {tie : Tie} {closed : Bool} {num den below above : Nat} (tries : Nat)
    {place : Int} (reaches : Reaches num den place) (proper : 0 < den) :
    0 < (search tie closed num den below above tries place).digits := by
  -- Induction on the tries; every grid is finer than the one before, and stays within reach.
  induction tries generalizing place with
  | zero => exact reaches.floor_pos proper
  | succ tries ih =>
    rw [search]
    split
    · next found => exact gridPoint?_pos reaches proper found
    · exact ih reaches.finer

/-- A positive number is at least the power of ten at which its first digit stands. -/
private theorem pow_le_of_digits (value : Nat) (positive : 0 < value) :
    Nat.pow 10 ((LogCourier.digits value).length - 1) ≤ value := by
  -- The tenth part has one digit less.
  induction value using Nat.strongRecOn with
  | ind value ih =>
    rw [LogCourier.digits]
    split
    · exact positive
    · next large =>
      have tenth := ih (value / 10) (by omega) (by omega)
      have some : 0 < (LogCourier.digits (value / 10)).length :=
        List.length_pos_iff.2 (figures_digits _).1
      have power : (LogCourier.digits (value / 10) ++ [digitChar (value % 10)]).length - 1 =
          (LogCourier.digits (value / 10)).length - 1 + 1 := by
        rw [List.length_append, List.length_singleton]
        omega
      rw [power]
      show 10 ^ (_ + 1) ≤ value
      rw [Nat.pow_succ]
      have scaled := Nat.mul_le_mul_right 10 tenth
      exact Nat.le_trans scaled (Nat.div_mul_le_self value 10)

/-- A fraction that is at least a power of ten when scaled up reaches the grid scaled down. -/
private theorem reaches_of_scaled {num den : Nat} (lead scale : Nat)
    (scaled : Nat.pow 10 lead * den ≤ num * Nat.pow 10 scale) :
    Reaches num den ((lead : Int) - scale) := by
  unfold Reaches
  by_cases below : lead ≤ scale
  · -- What is left of the scale stays with the fraction.
    have none : ((lead : Int) - scale).toNat = 0 := by omega
    have power : (-((lead : Int) - scale)).toNat = scale - lead := by omega
    rw [none, power]
    apply Nat.le_of_mul_le_mul_right _ (Nat.pow_pos (by decide) : 0 < 10 ^ lead)
    calc den * Nat.pow 10 0 * 10 ^ lead
        = Nat.pow 10 lead * den := by
          rw [show Nat.pow 10 0 = 1 from rfl, Nat.mul_one, Nat.mul_comm]
          rfl
      _ ≤ num * Nat.pow 10 scale := scaled
      _ = num * (10 ^ (scale - lead) * 10 ^ lead) := by
          rw [← Nat.pow_add, Nat.sub_add_cancel below]
          rfl
      _ = num * Nat.pow 10 (scale - lead) * 10 ^ lead := (Nat.mul_assoc _ _ _).symm
  · -- What is left of the power stays with the grid.
    have none : (-((lead : Int) - scale)).toNat = 0 := by omega
    have power : ((lead : Int) - scale).toNat = lead - scale := by omega
    rw [none, power]
    apply Nat.le_of_mul_le_mul_right _ (Nat.pow_pos (by decide) : 0 < 10 ^ scale)
    calc den * Nat.pow 10 (lead - scale) * 10 ^ scale
        = den * (10 ^ (lead - scale) * 10 ^ scale) := Nat.mul_assoc _ _ _
      _ = Nat.pow 10 lead * den := by
          rw [← Nat.pow_add, Nat.sub_add_cancel (Nat.le_of_not_le below), Nat.mul_comm]
          rfl
      _ ≤ num * Nat.pow 10 scale := scaled
      _ = num * Nat.pow 10 0 * 10 ^ scale := by
          rw [show Nat.pow 10 0 = 1 from rfl, Nat.mul_one]
          rfl

/-- The grid of the first digit is within reach of a fraction that is not too small. -/
private theorem reaches_leadingPlace {num den : Nat} (proper : 0 < den)
    (large : den ≤ num * Nat.pow 10 400) : Reaches num den (leadingPlace num den) := by
  -- With 400 places the quotient has a digit, and its number of digits tells the first place.
  have quotient : 0 < num * Nat.pow 10 400 / den := Nat.div_pos large proper
  have least := pow_le_of_digits _ quotient
  have some : 0 < (LogCourier.digits (num * Nat.pow 10 400 / den)).length :=
    List.length_pos_iff.2 (figures_digits _).1
  have scaled := (Nat.le_div_iff_mul_le proper).1 least
  have reaches := reaches_of_scaled _ _ scaled
  unfold leadingPlace
  generalize (LogCourier.digits (num * Nat.pow 10 400 / den)).length = size at some reaches ⊢
  -- What is left is to shift the place back by the 400.
  have place : (size : Int) - 401 = ((size - 1 : Nat) : Int) - (400 : Nat) := by omega
  rwa [place]

/-- The lower the least exponent, the larger denominators can get. -/
private theorem den_le {value : Binary} {least bound : Nat}
    (low : (-value.exponent).toNat ≤ least) (enough : Nat.pow 2 least ≤ bound) :
    value.den ≤ bound :=
  Nat.le_trans (Nat.pow_le_pow_right (by decide) low) enough

/-- The digits of a positive number are not zero if its exponent is one of a double. -/
private theorem shortest_pos (tie : Tie) {value : Binary} (positive : 0 < value.significand)
    (large : -1074 ≤ value.exponent) : 0 < (shortest tie value).digits := by
  have proper : 0 < 4 * value.den := Nat.mul_pos (by decide) (Nat.pow_pos (by decide))
  apply search_pos _ _ proper
  apply reaches_leadingPlace proper
  -- The largest denominator of a double is below the power by which numerators are scaled.
  obtain ⟨least, low, enough⟩ :
      ∃ least, (-value.exponent).toNat ≤ least ∧ Nat.pow 2 least ≤ Nat.pow 10 400 :=
    ⟨1074, by omega, by decide +kernel⟩
  have bounded := Nat.mul_le_mul_left 4 (den_le low enough)
  have whole : 1 ≤ value.num := Nat.mul_pos positive (Nat.pow_pos (by decide))
  -- Which power it is no longer matters.
  generalize Nat.pow 10 400 = scale at bounded ⊢
  exact Nat.le_trans bounded (Nat.mul_le_mul_right _ (Nat.le_mul_of_pos_right 4 whole))

/-- Zeros at the end are taken from digits that are not zero, and leave such digits. -/
private theorem trimmed_pos (tries : Nat) {value : Scientific} (positive : 0 < value.digits) :
    0 < (trimmed tries value).digits := by
  -- A zero at the end can be cut off since another digit stands before it.
  induction tries generalizing value with
  | zero => exact positive
  | succ tries ih =>
    rw [trimmed]
    split
    · next zeros => exact ih (by show 0 < value.digits / 10; omega)
    · exact positive

end Scientific

/-- The exponent of a double is never below that of the least double. -/
private theorem magnitude?_exponent {value : Float} {size : Binary}
    (finite : magnitude? value = some size) : -1074 ≤ size.exponent := by
  simp only [magnitude?] at finite
  -- Subnormal numbers have the least exponent, and the field of the others is at least one.
  split at finite
  · cases finite
  · split at finite
    · cases finite
      exact Int.le_refl _
    · next some =>
      cases finite
      show -1074 ≤ (_ : Int) - 1075
      omega

namespace NumberLayout

/-- A number of the grammar, whatever sign is put before it. -/
private def Unsigned (text : List Char) : Prop :=
  ∀ negative : Bool, ∃ value : Numeral, value.Spelled ((if negative then ['-'] else []) ++ text)

/-- Digits that do not start with zero, with a fraction and an exponent where they have one. -/
private theorem Unsigned.intro {whole front back : List Char} {fraction : Option (List Char)}
    {exponent : Option (Bool × List Char)} (figures : Figures whole)
    (regular : whole.head? = some '0' → whole = ['0'])
    (fractional : Numeral.FractionSpelled fraction front)
    (scaled : Numeral.ExponentSpelled exponent back) : Unsigned (whole ++ (front ++ back)) :=
  -- The sign is left open: any is allowed before such digits.
  fun negative => ⟨_, .intro negative figures regular fractional scaled⟩

/-- Zeros are digits. -/
private theorem isDigit_zeros (count : Nat) : ∀ c ∈ List.replicate count '0', isDigit c = true := by
  intro c member
  rw [List.eq_of_mem_replicate member]
  decide

/-- Zero alone is a digit, before a point as well as behind it. -/
private theorem figures_zero : Figures ['0'] :=
  ⟨List.cons_ne_nil _ _, isDigit_zeros 1⟩

/-- Digits one after another, at least one of them. -/
private theorem figures_append {front back : List Char} (nonempty : front ++ back ≠ [])
    (fronts : ∀ c ∈ front, isDigit c = true) (backs : ∀ c ∈ back, isDigit c = true) :
    Figures (front ++ back) := by
  refine ⟨nonempty, fun c member => ?_⟩
  -- Each character comes from one of the two runs.
  rcases List.mem_append.1 member with within | within
  · exact fronts c within
  · exact backs c within

/-- Digits around a point are a number of the grammar. -/
private theorem unsigned_written {run : List Char} (figures : Figures run)
    (leading : run.head? ≠ some '0') (lead : Int) : Unsigned (wire.written run lead) := by
  obtain ⟨nonempty, all⟩ := figures
  unfold written
  split
  · -- Zero stands before the point, and the zeros behind it go on with the digits.
    have behind : Figures (List.replicate (-lead - 1).toNat '0' ++ run) :=
      figures_append (by simp [nonempty]) (isDigit_zeros _) all
    have number :
        Unsigned (['0'] ++ ('.' :: (List.replicate (-lead - 1).toNat '0' ++ run) ++ [])) :=
      .intro figures_zero (fun _ => rfl) (.present behind) .absent
    simpa using number
  · dsimp only
    split
    · -- The digits go on with zeros up to the point, and a zero stands behind it.
      have before : Figures (run ++ List.replicate (lead.toNat + 1 - run.length) '0') :=
        figures_append (by simp [nonempty]) all (isDigit_zeros _)
      have number : Unsigned ((run ++ List.replicate (lead.toNat + 1 - run.length) '0') ++
          (['.', '0'] ++ [])) := by
        refine .intro before (fun zero => ?_) (.present figures_zero) .absent
        obtain ⟨first, others, rfl⟩ := List.exists_cons_of_ne_nil nonempty
        exact absurd zero leading
      simpa [wire] using number
    · next longer =>
      -- The point stands among the digits.
      have before : Figures (run.take (lead.toNat + 1)) :=
        ⟨by simp [nonempty], fun c member => all c (List.mem_of_mem_take member)⟩
      have behind : Figures (run.drop (lead.toNat + 1)) :=
        ⟨by simpa using longer, fun c member => all c (List.mem_of_mem_drop member)⟩
      have number : Unsigned (run.take (lead.toNat + 1) ++
          ('.' :: run.drop (lead.toNat + 1) ++ [])) := by
        refine .intro before (fun zero => ?_) (.present behind) .absent
        rw [List.head?_take, if_neg (Nat.succ_ne_zero _)] at zero
        exact absurd zero leading
      simpa using number

/-- Digits with an exponent are a number of the grammar. -/
private theorem unsigned_scientific {run : List Char} (figures : Figures run)
    (leading : run.head? ≠ some '0') (lead : Int) : Unsigned (scientific run lead) := by
  obtain ⟨nonempty, all⟩ := figures
  have before : Figures (run.take 1) :=
    ⟨by simp [nonempty], fun c member => all c (List.mem_of_mem_take member)⟩
  have regular : (run.take 1).head? = some '0' → run.take 1 = ['0'] := by
    intro zero
    rw [List.head?_take, if_neg Nat.one_ne_zero] at zero
    exact absurd zero leading
  -- Only digits that go on after the first one have a point between them.
  have fraction : ∃ fraction, Numeral.FractionSpelled fraction
      (if (run.drop 1).isEmpty then [] else '.' :: run.drop 1) := by
    split
    · exact ⟨_, .absent⟩
    · next longer =>
      exact ⟨_, .present
        ⟨by simpa using longer, fun c member => all c (List.mem_of_mem_drop member)⟩⟩
  have exponent : ∃ exponent, Numeral.ExponentSpelled exponent
      ('e' :: ([if lead < 0 then '-' else '+'] ++ digits lead.natAbs)) := by
    split
    · exact ⟨_, .present (.inl rfl) .minus (figures_digits _)⟩
    · exact ⟨_, .present (.inl rfl) .plus (figures_digits _)⟩
  obtain ⟨_, fractional⟩ := fraction
  obtain ⟨_, scaled⟩ := exponent
  have number := Unsigned.intro before regular fractional scaled
  simpa [scientific] using number

/-- Finite magnitudes are numbers of the grammar. -/
private theorem unsigned_magnitude {size : Binary} (large : -1074 ≤ size.exponent) :
    Unsigned (wire.magnitude size) := by
  unfold magnitude
  split
  · -- Zero has a point and a zero behind it.
    have number : Unsigned (['0'] ++ (['.', '0'] ++ [])) :=
      .intro figures_zero (fun _ => rfl) (.present figures_zero) .absent
    exact number
  · next some =>
    -- The digits are the same with and without an exponent.
    have shortest := Scientific.shortest_pos wire.tie (Nat.pos_of_ne_zero some) large
    have positive := Scientific.trimmed_pos 17 shortest
    have figures :=
      figures_digits (Scientific.trimmed 17 (Scientific.shortest wire.tie size)).digits
    have leading :
        (digits (Scientific.trimmed 17 (Scientific.shortest wire.tie size)).digits).head? ≠
          Option.some '0' := by
      intro zero
      exact absurd (digits_zero zero).1 (Nat.ne_of_gt positive)
    dsimp only
    split
    · split
      · exact unsigned_written figures leading _
      · exact unsigned_scientific figures leading _
    · exact unsigned_written figures leading _

/-- The text of a double is a number of the grammar, or null. -/
theorem wire_text_spelled (value : Float) :
    (∃ numeral : Numeral, numeral.Spelled (wire.text value)) ∨
      wire.text value = ['n', 'u', 'l', 'l'] := by
  unfold text
  split
  · next size finite =>
    left
    exact unsigned_magnitude (magnitude?_exponent finite) (isNegativeFloat value)
  · -- Not-a-number and both infinities.
    right
    split
    · rfl
    · split <;> rfl

end NumberLayout

end LogCourier
