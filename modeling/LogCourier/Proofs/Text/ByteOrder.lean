import Mathlib.Data.List.Basic

/-!
The order of texts is the order of their encoded bytes.

Texts are compared character by character. Larger characters are encoded in more bytes or in larger
ones, and more bytes start with a larger one, so that a comparison byte by byte comes out the same.
-/

namespace LogCourier

/-- The bytes of a text as it is encoded. -/
def encodedBytes (text : String) : List UInt8 :=
  text.toUTF8.data.toList

/-- The bytes of a text are those of its characters in turn. -/
theorem encodedBytes_eq (text : String) :
    encodedBytes text = text.toList.flatMap String.utf8EncodeChar := by
  rw [encodedBytes, String.toUTF8_eq_toByteArray, ← String.utf8Encode_toList, List.utf8Encode]
  exact congrArg Array.toList List.data_toByteArray

/-- Of two numbers the smaller one is smaller at the first place where their digits to the base of
sixty-four differ. -/
private theorem first_difference {small large : Nat} (below : small < large) :
    small / 262144 < large / 262144 ∨ small / 262144 = large / 262144 ∧
      (small / 4096 % 64 < large / 4096 % 64 ∨ small / 4096 % 64 = large / 4096 % 64 ∧
        (small / 64 % 64 < large / 64 % 64 ∨ small / 64 % 64 = large / 64 % 64 ∧
          small % 64 < large % 64)) := by
  -- Each number is the sum of its digits at their places.
  have places (value : Nat) : value = 262144 * (value / 262144) + 4096 * (value / 4096 % 64) +
      64 * (value / 64 % 64) + value % 64 := by omega
  have smallDigits := places small
  have largeDigits := places large
  have digit (value : Nat) : value % 64 < 64 := Nat.mod_lt value (by decide)
  have smallBounds :=
    And.intro (digit (small / 4096)) (And.intro (digit (small / 64)) (digit small))
  have largeBounds :=
    And.intro (digit (large / 4096)) (And.intro (digit (large / 64)) (digit large))
  -- What the digits are does not matter any more, only that each stays below the base.
  generalize small / 262144 = a, small / 4096 % 64 = b, small / 64 % 64 = c, small % 64 = d at *
  generalize large / 262144 = e, large / 4096 % 64 = f, large / 64 % 64 = g, large % 64 = h at *
  omega

/-- Numbers that fit a byte are ordered like the bytes. -/
private theorem ofNat_lt_ofNat {small large : Nat} (fits : small < 256) (fits' : large < 256) :
    UInt8.ofNat small < UInt8.ofNat large ↔ small < large := by
  rw [UInt8.lt_iff_toNat_lt, UInt8.toNat_ofNat', UInt8.toNat_ofNat', Nat.mod_eq_of_lt fits,
    Nat.mod_eq_of_lt fits']

/-- Numbers that fit a byte are equal when the bytes are. -/
private theorem ofNat_eq_ofNat {one other : Nat} (fits : one < 256) (fits' : other < 256) :
    UInt8.ofNat one = UInt8.ofNat other ↔ one = other := by
  rw [← UInt8.toNat_inj, UInt8.toNat_ofNat', UInt8.toNat_ofNat', Nat.mod_eq_of_lt fits,
    Nat.mod_eq_of_lt fits']

/-- Whatever follows, the bytes of a smaller character come first. -/
theorem utf8EncodeChar_lt {c d : Char} (smaller : c < d) (left right : List UInt8) :
    String.utf8EncodeChar c ++ left < String.utf8EncodeChar d ++ right := by
  have below : c.val.toNat < d.val.toNat := smaller
  have limit : d.val.toNat < 1114112 := by
    have valid := d.valid
    simp only [UInt32.isValidChar, Nat.isValidChar] at valid
    omega
  unfold String.utf8EncodeChar
  generalize c.val.toNat = small at *
  generalize d.val.toNat = large at *
  have difference := first_difference below
  -- The last characters leave room in the first of their four bytes.
  have smallTop : small / 262144 % 8 = small / 262144 := Nat.mod_eq_of_lt (by omega)
  have largeTop : large / 262144 % 8 = large / 262144 := Nat.mod_eq_of_lt (by omega)
  dsimp only
  -- One case for each number of bytes of the one and of the other.
  repeat' split
  all_goals
    simp (disch := omega) only [List.cons_append, List.cons_lt_cons_iff, ofNat_lt_ofNat,
      ofNat_eq_ofNat]
    omega

/-- The bytes of a smaller run of characters come first. -/
private theorem flatMap_utf8EncodeChar_lt {small large : List Char} (smaller : small < large) :
    small.flatMap String.utf8EncodeChar < large.flatMap String.utf8EncodeChar := by
  -- The induction follows both runs up to the character in which they differ.
  induction small generalizing large with
  | nil =>
    cases large with
    | nil => exact absurd smaller (List.lt_irrefl [])
    | cons d rest =>
      rw [List.flatMap_nil, List.flatMap_cons]
      obtain ⟨first, others, shape⟩ :=
        List.exists_cons_of_ne_nil (String.utf8EncodeChar_ne_nil (c := d))
      rw [shape]
      exact List.nil_lt_cons first _
  | cons c front ih =>
    cases large with
    | nil => exact absurd smaller (List.not_lt_nil _)
    | cons d back =>
      rw [List.flatMap_cons, List.flatMap_cons]
      rcases List.cons_lt_cons_iff.1 smaller with first | ⟨rfl, others⟩
      · exact utf8EncodeChar_lt first _ _
      · exact List.append_left_lt (ih others)

/-- Texts are ordered like their bytes. -/
theorem encodedBytes_lt_iff (small large : String) :
    encodedBytes small < encodedBytes large ↔ small < large := by
  have forward {small large : String} (smaller : small < large) :
      encodedBytes small < encodedBytes large := by
    rw [encodedBytes_eq, encodedBytes_eq]
    exact flatMap_utf8EncodeChar_lt (String.lt_iff.1 smaller)
  constructor
  · -- Of two texts that are not in this order the second is smaller, or they are the same.
    intro smaller
    by_contra notSmaller
    by_cases larger : large < small
    · exact List.lt_asymm smaller (forward larger)
    · have same := String.le_antisymm (String.not_lt.1 larger) (String.not_lt.1 notSmaller)
      exact List.lt_irrefl _ (same ▸ smaller)
  · exact forward

end LogCourier
