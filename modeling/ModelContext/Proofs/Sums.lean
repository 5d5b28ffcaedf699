import Mathlib
import ModelContext.Proofs.Outcomes

/-!
# Sums

The tool that adds takes two 64-bit integers and looks at nothing else. It adds them as numbers of any size: a sum
of 64 bits is told as a text and as a number, and any other one as an error of the tool, never as what would be left
of it in 64 bits.

Mathlib is imported as a whole for `Int.toInt?_repr`: none of its modules brings the lemmas on `String.toInt?` alone.
-/

namespace ModelContext

/-! ## Decimal texts -/

theorem decimalText_eq_repr (n : Int) : decimalText n = n.repr := by
  have hrepr (k : Nat) : k.repr = String.ofList (Nat.toDigits 10 k) := rfl
  rw [Int.repr_eq_if, decimalText, decimalChars]
  by_cases hn : 0 ≤ n
  · have habs : n.natAbs = n.toNat := by omega
    rw [if_pos hn, if_neg (by omega), hrepr, habs]
  · have habs : n.natAbs = (-n).toNat := by omega
    rw [if_neg hn, if_pos (by omega), hrepr, habs, ← String.toList_inj]
    simp

/-- The decimal text of an integer reads as that integer. -/
theorem toInt?_decimalText (n : Int) : (decimalText n).toInt? = some n := by
  rw [decimalText_eq_repr, Int.toInt?_repr]

namespace Adder

/-! ## Summands -/

def IsSummand (arguments : Option Fields) (key : String) (n : Int) : Prop :=
  (arguments.getD []).lookup key = some (.int n) ∧ -9223372036854775808 ≤ n ∧ n ≤ 9223372036854775807

section Summands

variable {arguments other : Option Fields} {a b : Int}

theorem isSummand_iff {key : String} {n : Int} :
    IsSummand arguments key n ↔ ((arguments.getD []).lookup key).bind Json.int64? = some n :=
  bind_int64?_eq_some_iff.symm

theorem call_of_summands (ha : IsSummand arguments "a" a) (hb : IsSummand arguments "b" b) :
    call arguments = .ok (result (addInt64? a b)) := by
  rw [isSummand_iff] at ha hb
  have hsummands : summands? (arguments.getD []) = some (a, b) := by
    rw [summands?, ha, hb]
    rfl
  rw [call, hsummands]

theorem addInt64?_comm (a b : Int) : addInt64? a b = addInt64? b a := by
  rw [addInt64?, addInt64?, Int.add_comm]

/-- Arguments with the same summands are answered alike. -/
theorem call_congr (ha : (other.getD []).lookup "a" = (arguments.getD []).lookup "a")
    (hb : (other.getD []).lookup "b" = (arguments.getD []).lookup "b") : call other = call arguments := by
  rw [call, call, summands?, summands?, ha, hb]

/-- So are arguments with the summands exchanged. -/
theorem call_swap (ha : (other.getD []).lookup "a" = (arguments.getD []).lookup "b")
    (hb : (other.getD []).lookup "b" = (arguments.getD []).lookup "a") : call other = call arguments := by
  by_cases hholds : HoldsInteger arguments "a" ∧ HoldsInteger arguments "b"
  · obtain ⟨⟨a, hfirst⟩, ⟨b, hsecond⟩⟩ := hholds
    have hother : IsSummand other "a" b := by rwa [IsSummand, ha]
    have hother' : IsSummand other "b" a := by rwa [IsSummand, hb]
    rw [call_of_summands hfirst hsecond, call_of_summands hother hother', addInt64?_comm]
  · have hother : ¬(HoldsInteger other "a" ∧ HoldsInteger other "b") := by
      rwa [HoldsInteger, HoldsInteger, ha, hb, and_comm]
    rw [(call_eq arguments).2 hholds, (call_eq other).2 hother]

end Summands

structure AddsExactly (arguments : Option Fields) : Prop where
  /-- It takes two 64-bit integers, and no other arguments. -/
  succeeds : (∃ result, call arguments = .ok result) ↔ HoldsInteger arguments "a" ∧ HoldsInteger arguments "b"
  refused : ¬(HoldsInteger arguments "a" ∧ HoldsInteger arguments "b") →
    call arguments = .error (.badRequest "invalid_arguments" "add requires integer arguments a and b")
  /-- A sum of 64 bits is told twice. -/
  sum : ∀ a b, IsSummand arguments "a" a → IsSummand arguments "b" b →
    -9223372036854775808 ≤ a + b ∧ a + b ≤ 9223372036854775807 →
    ∃ digits : String, digits.toInt? = some (a + b) ∧
      call arguments = .ok
        { content := [.text none none digits], isError := none, info := none,
          structuredContent := some [("result", .int (a + b))] }
  /-- No other sum is told. -/
  overflow : ∀ a b, IsSummand arguments "a" a → IsSummand arguments "b" b →
    ¬(-9223372036854775808 ≤ a + b ∧ a + b ≤ 9223372036854775807) →
    call arguments = .ok
      { content := [.text none none "integer overflow adding a and b"], isError := some true, info := none,
        structuredContent := none }
  /-- Further arguments do not matter. -/
  ignored : ∀ other : Option Fields, (other.getD []).lookup "a" = (arguments.getD []).lookup "a" →
    (other.getD []).lookup "b" = (arguments.getD []).lookup "b" → call other = call arguments
  /-- Nor does the order of the summands. -/
  swapped : ∀ other : Option Fields, (other.getD []).lookup "a" = (arguments.getD []).lookup "b" →
    (other.getD []).lookup "b" = (arguments.getD []).lookup "a" → call other = call arguments

theorem adds_exactly (arguments : Option Fields) : AddsExactly arguments where
  succeeds := by
    constructor
    · rintro ⟨result, hresult⟩
      by_contra hholds
      rw [(call_eq arguments).2 hholds] at hresult
      cases hresult
    · exact (call_eq arguments).1
  refused := (call_eq arguments).2
  sum a b ha hb hfits := by
    refine ⟨decimalText (a + b), toInt?_decimalText (a + b), ?_⟩
    rw [call_of_summands ha hb, addInt64?, if_pos (fitsInt64_iff.2 hfits), result]
  overflow a b ha hb hfits := by
    rw [call_of_summands ha hb, addInt64?, if_neg (mt fitsInt64_iff.1 hfits), result]
  ignored other := call_congr
  swapped other := call_swap

/-- One more than the largest 64-bit integer is neither a sum nor a summand. -/
example : call (some [("a", .int 9223372036854775807), ("b", .int 1)]) = .ok (result none) ∧
    call (some [("a", .int 9223372036854775808), ("b", .int (-1))]) = .error invalidArguments := by
  decide

end Adder

end ModelContext
