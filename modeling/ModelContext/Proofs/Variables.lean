import ModelContext.Proofs.SharedToken

/-!
# The variables of an environment

What a variable holds, and what it is set to, said without reading it: it holds the text that its bytes encode, and it
is set to that text without the white space around it, if something is left.
-/

namespace ModelContext

theorem Text.exists_strip {α : Type} (p : α → Bool) (xs : List α) :
    ∃ front back, xs = front ++ Text.strip p xs ++ back ∧ (∀ x ∈ front, p x = true) ∧ ∀ x ∈ back, p x = true := by
  let ys := xs.dropWhile p
  refine ⟨xs.takeWhile p, (ys.reverse.takeWhile p).reverse, ?_, fun x => List.mem_takeWhile_imp, ?_⟩
  · have hback : Text.strip p xs ++ (ys.reverse.takeWhile p).reverse = ys := by
      rw [Text.strip, Text.dropEndWhile, ← List.reverse_append, List.takeWhile_append_dropWhile, List.reverse_reverse]
    rw [List.append_assoc, hback, List.takeWhile_append_dropWhile]
  · intro x hx
    exact List.mem_takeWhile_imp (List.mem_reverse.1 hx)

/-- A text is its trimmed form with white space around it. -/
theorem exists_trim (text : String) :
    ∃ front back, text = front ++ Text.trim text ++ back ∧ IsBlank front ∧ IsBlank back := by
  obtain ⟨front, back, heq, hfront, hback⟩ := Text.exists_strip Text.isBlank text.toList
  refine ⟨String.ofList front, String.ofList back, ?_, ?_, ?_⟩
  · rw [← String.toList_inj]
    simpa [Text.trim] using heq
  · simpa [IsBlank] using hfront
  · simpa [IsBlank] using hback

theorem IsTrimmed.not_isBlank {s : String} (h : IsTrimmed s) : ¬IsBlank s := by
  obtain ⟨c, cs, hcs⟩ := List.exists_cons_of_ne_nil (mt String.toList_eq_nil_iff.1 h.ne_empty)
  intro hblank
  have hc := h.head c (by rw [hcs]; rfl)
  rw [hblank c (by rw [hcs]; exact List.mem_cons_self)] at hc
  cases hc

namespace Environment

variable {env : Environment} {name text setting : String}

/-- A variable holds a text, in UTF-8. -/
def Holds (env : Environment) (name text : String) : Prop :=
  env.lookup name = some (Bytes.ofText text)

/-- A variable is set to a text that has no white space at its ends, and may have some around it. -/
def SetsTo (env : Environment) (name setting : String) : Prop :=
  IsTrimmed setting ∧ ∃ front back, IsBlank front ∧ IsBlank back ∧ env.Holds name (front ++ setting ++ back)

theorem value?_eq_some_iff : env.value? name = some text ↔ env.Holds name text := by
  simp only [value?, Option.bind_eq_some_iff, Bytes.toText?_eq_some_iff, exists_eq_right, Holds]

theorem setting?_eq_some_iff : env.setting? name = some setting ↔ env.SetsTo name setting := by
  constructor
  · intro h
    obtain ⟨text, htext, h⟩ := Option.bind_eq_some_iff.1 h
    dsimp only at h
    split at h
    · cases h
    · rename_i hset
      obtain rfl := Option.some.inj h
      obtain ⟨front, back, heq, hfront, hback⟩ := exists_trim text
      refine ⟨isTrimmed_trim (mt isEmpty_trim_iff.2 hset), front, back, hfront, hback, ?_⟩
      rw [← heq]
      exact value?_eq_some_iff.1 htext
  · rintro ⟨htrimmed, front, back, hfront, hback, hholds⟩
    have htrim : Text.trim (front ++ setting ++ back) = setting := by
      rw [Text.trim_pad hfront hback, Text.trim_eq_self htrimmed.head htrimmed.last]
    have hset : ¬IsBlank (front ++ setting ++ back) := by
      rw [← isEmpty_trim_iff, htrim, String.isEmpty_iff]
      exact htrimmed.ne_empty
    rw [setting?_of_not_blank (value?_eq_some_iff.2 hholds) hset, htrim]

end Environment
end ModelContext
