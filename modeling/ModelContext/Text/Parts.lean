/-!
# Parts of a text

What follows a given beginning, and the parts between separators.
-/

namespace ModelContext.Text

variable {α : Type} [DecidableEq α]

/-- What follows `start`, if the list begins with it. -/
def after? : (start cs : List α) → Option (List α)
  | [], cs => some cs
  | s :: start, c :: cs => if c = s then after? start cs else none
  | _ :: _, [] => none

theorem after?_eq_some_iff {start cs rest : List α} : after? start cs = some rest ↔ cs = start ++ rest := by
  induction start generalizing cs with
  | nil => simp [after?]
  | cons s start ih =>
    cases cs with
    | nil => simp [after?]
    | cons c cs =>
      by_cases h : c = s
      · simp [after?, h, ih]
      · simp [after?, h]

/-- The parts of a list between the places where `sep` stands; there is always one. -/
def splitOn (sep : α) : List α → List (List α)
  | [] => [[]]
  | c :: cs =>
    if c = sep then [] :: splitOn sep cs
    else match splitOn sep cs with
      | [] => [[c]]
      | part :: later => (c :: part) :: later

example : splitOn ',' "a,,b".toList = [['a'], [], ['b']] := by decide

/-- Splits at the first `sep`, which is in neither part. -/
def splitFirst? (sep : α) : List α → Option (List α × List α)
  | [] => none
  | c :: cs =>
    if c = sep then some ([], cs) else (splitFirst? sep cs).map fun (front, back) => (c :: front, back)

end ModelContext.Text
