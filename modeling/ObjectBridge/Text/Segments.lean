/-!
Texts in parts: dotted names and their segments, and the lines of a text.
-/

namespace ObjectBridge.Text

/-- The parts between points: the one before the first point, and the others. -/
def splitAtPoints : List Char → List Char × List (List Char)
  | [] => ([], [])
  | '.' :: rest =>
    let (first, others) := splitAtPoints rest
    ([], first :: others)
  | char :: rest =>
    let (first, others) := splitAtPoints rest
    (char :: first, others)

def segments (name : String) : List String :=
  let (first, others) := splitAtPoints name.toList
  String.ofList first :: others.map String.ofList

def dotted (segments : List String) : String :=
  ".".intercalate segments

theorem intercalate_splitAtPoints (text : List Char) :
    ['.'].intercalate ((splitAtPoints text).1 :: (splitAtPoints text).2) = text := by
  fun_induction splitAtPoints text with
  | case1 => rfl
  | case2 rest first others split ih =>
    rw [split] at ih
    simpa [List.intercalate_cons_cons] using ih
  | case3 char rest notPoint first others split ih =>
    rw [split] at ih
    cases others with
    | nil => simpa using ih
    | cons next others => simpa [List.intercalate_cons_cons] using ih

theorem dotted_segments (name : String) : dotted (segments name) = name := by
  rw [← String.toList_inj, dotted, String.toList_intercalate]
  have same : (segments name).map String.toList =
      (splitAtPoints name.toList).1 :: (splitAtPoints name.toList).2 := by
    simp [segments, Function.comp_def]
  rw [same]
  exact intercalate_splitAtPoints name.toList

def splitAtFeeds : List Char → List Char × List (List Char)
  | [] => ([], [])
  | '\n' :: rest =>
    let (first, others) := splitAtFeeds rest
    ([], first :: others)
  | char :: rest =>
    let (first, others) := splitAtFeeds rest
    (char :: first, others)

def withoutReturn (line : List Char) : List Char :=
  match line.reverse with
  | '\x0d' :: rest => rest.reverse
  | _ => line

/-- The lines of a text. A carriage return before a line feed belongs to the end of the line. -/
def lines (text : String) : List String :=
  let (first, others) := splitAtFeeds text.toList
  (first :: others).map fun line => String.ofList (withoutReturn line)

end ObjectBridge.Text
