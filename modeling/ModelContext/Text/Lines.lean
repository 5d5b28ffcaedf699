/-!
# Lines

A line ends with a line feed; one carriage return before it belongs to the line end, and a last
line without a line feed counts if it is not empty. The functions work on characters and on bytes
alike, so the two code units of a line end are parameters.
-/

namespace ModelContext.Text

variable {α : Type} [DecidableEq α]

/-- The pieces of a list that end with `feed`, each with its end, and then what follows the last. -/
def splitAfter (feed : α) : List α → List (List α)
  | [] => []
  | c :: cs =>
    if c = feed then [c] :: splitAfter feed cs
    else match splitAfter feed cs with
      | [] => [[c]]
      | piece :: later => (c :: piece) :: later

/-- A line without its end, which is `feed` and one `ret` before it. -/
def dropLineEnd (ret feed : α) (line : List α) : List α :=
  if line.getLast? = some feed then
    let body := line.dropLast
    if body.getLast? = some ret then body.dropLast else body
  else line

/-- The lines of a list, without their ends. -/
def lines (ret feed : α) (cs : List α) : List (List α) :=
  (splitAfter feed cs).map (dropLineEnd ret feed)

example : lines '\r' '\n' "a\r\n\nb\r".toList = [['a'], [], ['b', '\r']] := by decide

/-- The parts of a list between the places where `feed` stands twice in a row, read from the left. -/
def paragraphs (feed : α) : List α → List (List α)
  | [] => [[]]
  | [c] => [[c]]
  | c :: d :: cs =>
    if c = feed ∧ d = feed then [] :: paragraphs feed cs
    else match paragraphs feed (d :: cs) with
      | [] => [[c]]
      | part :: later => (c :: part) :: later

example : paragraphs '\n' "a\n\n\nb".toList = [['a'], ['\n', 'b']] := by decide

end ModelContext.Text
