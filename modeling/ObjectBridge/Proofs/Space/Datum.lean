import ObjectBridge.Guest.Printing
import ObjectBridge.Proofs.Bindings

/-!
Plain data and the text that shows it. Where no key of a dict has a single quote in it, the text tells the data: what
is between the quotes of a string ends at the first quote that is not escaped, a number ends where no digit follows, and
items are told apart by commas and brackets.
-/

namespace ObjectBridge

theorem eq_of_append_of_stops {inside : Char → Prop} {first second rest rest' : List Char}
    (one : ∀ c ∈ first, inside c) (two : ∀ c ∈ second, inside c) (stops : ∀ c ∈ rest.head?, ¬inside c)
    (stops' : ∀ c ∈ rest'.head?, ¬inside c) (same : first ++ rest = second ++ rest') :
    first = second ∧ rest = rest' := by
  induction first generalizing second with
  | nil =>
    cases second with
    | nil => exact ⟨rfl, same⟩
    | cons c tail =>
      obtain rfl : rest = c :: (tail ++ rest') := same
      exact absurd (two c List.mem_cons_self) (stops c rfl)
  | cons c tail ih =>
    cases second with
    | nil =>
      obtain rfl : c :: (tail ++ rest) = rest' := same
      exact absurd (one c List.mem_cons_self) (stops' c rfl)
    | cons d tail' =>
      obtain ⟨rfl, tails⟩ := List.cons.inj same
      obtain ⟨rfl, rests⟩ := ih (fun e member => one e (List.mem_cons_of_mem c member))
        (fun e member => two e (List.mem_cons_of_mem c member)) tails
      exact ⟨rfl, rests⟩

namespace Guest

def escapedChar (char : Char) : List Char :=
  if char = '\\' then ['\\', '\\'] else if char = '\'' then ['\\', '\''] else [char]

theorem toList_quotedText (text : String) :
    (quotedText text).toList = '\'' :: (text.toList.flatMap escapedChar ++ ['\'']) := by
  unfold quotedText
  extract_lets escaped
  have same : escaped = text.toList.flatMap escapedChar := rfl
  rw [same]
  simp [toString]

theorem escapedChar_cases (char : Char) :
    (char = '\\' ∧ escapedChar char = ['\\', '\\']) ∨ (char = '\'' ∧ escapedChar char = ['\\', '\'']) ∨
      (char ≠ '\\' ∧ char ≠ '\'' ∧ escapedChar char = [char]) := by
  unfold escapedChar
  split
  · exact Or.inl ⟨‹_›, rfl⟩
  · split
    · exact Or.inr (Or.inl ⟨‹_›, rfl⟩)
    · exact Or.inr (Or.inr ⟨‹_›, ‹_›, rfl⟩)

theorem escapedChar_append_ne (char : Char) (rest rest' : List Char) : escapedChar char ++ rest ≠ '\'' :: rest' := by
  rcases escapedChar_cases char with ⟨-, shown⟩ | ⟨-, shown⟩ | ⟨-, other, shown⟩
  · simp [shown]
  · simp [shown]
  · simp [shown, other]

theorem eq_of_escapedChar_append {char other : Char} {rest rest' : List Char}
    (same : escapedChar char ++ rest = escapedChar other ++ rest') : char = other ∧ rest = rest' := by
  rcases escapedChar_cases char with ⟨rfl, shown⟩ | ⟨rfl, shown⟩ | ⟨plain, -, shown⟩
  all_goals rcases escapedChar_cases other with ⟨rfl, shown'⟩ | ⟨rfl, shown'⟩ | ⟨plain', -, shown'⟩
  all_goals
    simp only [shown, shown'] at same
    grind

theorem eq_of_escaped_append {first second rest rest' : List Char}
    (same : first.flatMap escapedChar ++ '\'' :: rest = second.flatMap escapedChar ++ '\'' :: rest') :
    first = second ∧ rest = rest' := by
  induction first generalizing second with
  | nil =>
    cases second with
    | nil => exact ⟨rfl, (List.cons.inj same).2⟩
    | cons d tail' =>
      rw [List.flatMap_cons, List.append_assoc] at same
      exact absurd same.symm (escapedChar_append_ne d _ _)
  | cons c tail ih =>
    rw [List.flatMap_cons, List.append_assoc] at same
    cases second with
    | nil => exact absurd same (escapedChar_append_ne c _ _)
    | cons d tail' =>
      rw [List.flatMap_cons, List.append_assoc] at same
      obtain ⟨rfl, tails⟩ := eq_of_escapedChar_append same
      obtain ⟨rfl, rests⟩ := ih tails
      exact ⟨rfl, rests⟩

/-! ### Numbers -/

theorem toString_int_mem {number : Int} {c : Char} (member : c ∈ (toString number).toList) :
    c.isDigit = true ∨ c = '-' := by
  have digits (n : Nat) (member : c ∈ n.repr.toList) : c.isDigit = true := by
    rw [Nat.toList_repr] at member
    exact Nat.isDigit_of_mem_toDigits (by decide) (by decide) member
  cases number with
  | ofNat n => exact Or.inl (digits n member)
  | negSucc n =>
    have member : c ∈ ("-" ++ (n + 1).repr).toList := member
    rw [String.toList_append, List.mem_append] at member
    rcases member with sign | member
    · exact Or.inr (by simpa using sign)
    · exact Or.inl (digits _ member)

theorem repr_nat_inj {number other : Nat} (same : number.repr.toList = other.repr.toList) : number = other := by
  have digits := congrArg (Nat.ofDigitChars 10 · 0) same
  simpa only [Nat.toList_repr, Nat.ofDigitChars_toDigits (by decide : 1 < 10) (by decide : 10 ≤ 10)] using digits

theorem repr_nat_ne_sign (number : Nat) (rest : List Char) : number.repr.toList ≠ '-' :: rest := by
  intro same
  have digit : ('-' : Char).isDigit = true := by
    have member : '-' ∈ Nat.toDigits 10 number := by
      rw [← Nat.toList_repr, same]
      exact List.mem_cons_self
    exact Nat.isDigit_of_mem_toDigits (by decide) (by decide) member
  cases digit

theorem repr_nat_ne_nil (number : Nat) : number.repr.toList ≠ [] := by
  intro same
  have digits : Nat.ofDigitChars 10 number.repr.toList 0 = number := by
    rw [Nat.toList_repr, Nat.ofDigitChars_toDigits (by decide) (by decide)]
  obtain rfl : 0 = number := by simpa [same] using digits
  exact absurd same (by decide)

theorem toList_toString_negSucc (number : Nat) :
    (toString (Int.negSucc number)).toList = '-' :: (number + 1).repr.toList :=
  String.toList_append

theorem toString_int_ne_nil (number : Int) : (toString number).toList ≠ [] := by
  cases number with
  | ofNat n => exact repr_nat_ne_nil n
  | negSucc n =>
    rw [toList_toString_negSucc]
    exact List.cons_ne_nil _ _

theorem toString_int_inj {number other : Int} (same : (toString number).toList = (toString other).toList) :
    number = other := by
  cases number with
  | ofNat m =>
    cases other with
    | ofNat n => exact congrArg Int.ofNat (repr_nat_inj same)
    | negSucc n =>
      rw [toList_toString_negSucc] at same
      exact absurd same (repr_nat_ne_sign m _)
  | negSucc m =>
    rw [toList_toString_negSucc] at same
    cases other with
    | ofNat n => exact absurd same.symm (repr_nat_ne_sign n _)
    | negSucc n =>
      rw [toList_toString_negSucc] at same
      exact congrArg Int.negSucc (Nat.succ.inj (repr_nat_inj (List.cons.inj same).2))

/-! ### Data -/

/-- What an object holds that is made up of constants, numbers, strings, tuples and dicts. The entries of a dict are in
ascending order of key. -/
inductive Datum where
  | none
  | bool (value : Bool)
  | int (value : Int64)
  | text (content : String)
  | tuple (items : List Datum)
  | dict (entries : List (String × Datum))

namespace Datum

theorem sizeOf_lt_tuple {items : List Datum} {item : Datum} (member : item ∈ items) :
    sizeOf item < sizeOf (Datum.tuple items) := by
  have smaller := List.sizeOf_lt_of_mem member
  simp only [tuple.sizeOf_spec]
  omega

theorem sizeOf_lt_dict {entries : List (String × Datum)} {entry : String × Datum} (member : entry ∈ entries) :
    sizeOf entry.2 < sizeOf (Datum.dict entries) := by
  have smaller := List.sizeOf_lt_of_mem member
  obtain ⟨key, datum⟩ := entry
  simp only [Prod.mk.sizeOf_spec, dict.sizeOf_spec] at smaller ⊢
  omega

def shown : Datum → String
  | .none => "None"
  | .bool value => if value then "True" else "False"
  | .int value => toString value.toInt
  | .text content => quotedText content
  | .tuple items => tupleText (items.map shown)
  | .dict entries =>
    "\x7b" ++ ", ".intercalate (entries.map fun entry => s!"'{entry.1}': {entry.2.shown}") ++ "\x7d"
decreasing_by
  · exact sizeOf_lt_tuple ‹_›
  · exact sizeOf_lt_dict ‹_›

inductive Clear : Datum → Prop
  | none : Clear .none
  | bool (value : Bool) : Clear (.bool value)
  | int (value : Int64) : Clear (.int value)
  | text (content : String) : Clear (.text content)
  | tuple {items : List Datum} (each : ∀ item ∈ items, Clear item) : Clear (.tuple items)
  | dict {entries : List (String × Datum)} (keys : ∀ entry ∈ entries, '\'' ∉ entry.1.toList)
      (each : ∀ entry ∈ entries, Clear entry.2) : Clear (.dict entries)

@[elab_as_elim]
theorem induct {motive : Datum → Prop} (none : motive .none) (bool : ∀ value, motive (.bool value))
    (int : ∀ value, motive (.int value)) (text : ∀ content, motive (.text content))
    (tuple : ∀ items, (∀ item ∈ items, motive item) → motive (.tuple items))
    (dict : ∀ entries, (∀ entry ∈ entries, motive entry.2) → motive (.dict entries)) : ∀ datum, motive datum
  | .none => none
  | .bool value => bool value
  | .int value => int value
  | .text content => text content
  | .tuple items => tuple items fun item _ => induct none bool int text tuple dict item
  | .dict entries => dict entries fun entry _ => induct none bool int text tuple dict entry.2
decreasing_by
  · exact sizeOf_lt_tuple ‹_›
  · exact sizeOf_lt_dict ‹_›

/-! ### Unique readability -/

def Follows (rest : List Char) : Prop :=
  ∀ c ∈ rest.head?, c = ',' ∨ c = ')' ∨ c = '\x7d'

def Readable {α : Type} (print : α → List Char) (clear : α → Prop) (item : α) : Prop :=
  ∀ other rest rest', clear other → Follows rest → Follows rest' → print item ++ rest = print other ++ rest' →
    item = other ∧ rest = rest'

section Separated

variable {α : Type} {print : α → List Char} {clear : α → Prop} {close : Char} {items others : List α}
  {rest rest' : List Char}

def afterFirst (close : Char) (rest : List Char) : List (List Char) → List Char
  | [] => close :: rest
  | texts => ',' :: ' ' :: ([',', ' '].intercalate texts ++ close :: rest)

theorem intercalate_append_eq (text : List Char) (texts : List (List Char)) :
    [',', ' '].intercalate (text :: texts) ++ close :: rest = text ++ afterFirst close rest texts := by
  cases texts with
  | nil => simp [afterFirst]
  | cons next texts => simp [afterFirst, List.intercalate_cons_cons]

theorem follows_afterFirst (closes : close = ')' ∨ close = '\x7d') (texts : List (List Char)) :
    Follows (afterFirst close rest texts) := by
  intro c first
  cases texts with
  | nil =>
    obtain rfl : close = c := Option.some.inj first
    exact Or.inr closes
  | cons next texts =>
    obtain rfl : ',' = c := Option.some.inj first
    exact Or.inl rfl

theorem eq_of_separated (closes : close = ')' ∨ close = '\x7d')
    (opens : ∀ item, ∃ c tail, print item = c :: tail ∧ c ≠ close) (each : ∀ item ∈ items, Readable print clear item)
    (clears : ∀ other ∈ others, clear other)
    (same : [',', ' '].intercalate (items.map print) ++ close :: rest =
      [',', ' '].intercalate (others.map print) ++ close :: rest') :
    items = others ∧ rest = rest' := by
  have opened (item : α) (items : List α) {rest rest' : List Char} :
      close :: rest ≠ [',', ' '].intercalate ((item :: items).map print) ++ close :: rest' := by
    obtain ⟨c, tail, printed, other⟩ := opens item
    rw [List.map_cons, intercalate_append_eq, printed]
    exact fun same => other (List.cons.inj same).1.symm
  induction items generalizing others with
  | nil =>
    cases others with
    | nil => exact ⟨rfl, (List.cons.inj same).2⟩
    | cons other others => exact absurd same (opened other others)
  | cons item items ih =>
    cases others with
    | nil => exact absurd same.symm (opened item items)
    | cons other others =>
      rw [List.map_cons, List.map_cons, intercalate_append_eq, intercalate_append_eq] at same
      obtain ⟨rfl, tails⟩ := each item List.mem_cons_self other _ _ (clears other List.mem_cons_self)
        (follows_afterFirst closes _) (follows_afterFirst closes _) same
      have comma : close ≠ ',' := by rcases closes with rfl | rfl <;> decide
      cases items with
      | nil =>
        cases others with
        | nil => exact ⟨rfl, (List.cons.inj tails).2⟩
        | cons next others => exact absurd (List.cons.inj tails).1 comma
      | cons next items =>
        cases others with
        | nil => exact absurd (List.cons.inj tails).1.symm comma
        | cons next' others =>
          have ⟨equal, rests⟩ := ih (fun later member => each later (List.mem_cons_of_mem _ member))
            (fun later member => clears later (List.mem_cons_of_mem _ member))
            (List.cons.inj (List.cons.inj tails).2).2
          exact ⟨by rw [equal], rests⟩

end Separated

def kindAt (c : Char) : Kind :=
  match c with
  | 'N' => .none
  | 'T' | 'F' => .bool
  | '\'' => .str
  | '(' => .tuple
  | '\x7b' => .dict
  | _ => .int

def kind : Datum → Kind
  | .none => .none
  | .bool _ => .bool
  | .int _ => .int
  | .text _ => .str
  | .tuple _ => .tuple
  | .dict _ => .dict

def afterItem (rest : List Char) : List (List Char) → List Char
  | [] => ',' :: ')' :: rest
  | texts => ',' :: ' ' :: ([',', ' '].intercalate texts ++ ')' :: rest)

theorem tupleText_nil_append (rest : List Char) : (tupleText []).toList ++ rest = '(' :: ')' :: rest :=
  rfl

theorem tupleText_cons_append (text : String) (texts : List String) (rest : List Char) :
    (tupleText (text :: texts)).toList ++ rest = '(' :: (text.toList ++ afterItem rest (texts.map String.toList)) := by
  cases texts with
  | nil => simp [tupleText, afterItem, toString]
  | cons next texts => simp [tupleText, afterItem]

def entryChars (entry : String × Datum) : List Char :=
  '\'' :: (entry.1.toList ++ '\'' :: ':' :: ' ' :: entry.2.shown.toList)

theorem shown_dict_append (entries : List (String × Datum)) (rest : List Char) :
    (dict entries).shown.toList ++ rest =
      '\x7b' :: ([',', ' '].intercalate (entries.map entryChars) ++ '\x7d' :: rest) := by
  have texts : (entries.map fun entry => s!"'{entry.1}': {entry.2.shown}").map String.toList = entries.map entryChars := by
    simp [entryChars, toString]
  simp only [shown, String.toList_append, String.toList_intercalate, texts]
  simp

theorem exists_first (datum : Datum) :
    ∃ c tail, datum.shown.toList = c :: tail ∧ kindAt c = datum.kind ∧ c ≠ ')' ∧ c ≠ '\x7d' := by
  cases datum with
  | none => exact ⟨'N', ['o', 'n', 'e'], by simp [shown], rfl, by decide, by decide⟩
  | bool value =>
    cases value
    · exact ⟨'F', ['a', 'l', 's', 'e'], by simp [shown], rfl, by decide, by decide⟩
    · exact ⟨'T', ['r', 'u', 'e'], by simp [shown], rfl, by decide, by decide⟩
  | int value =>
    obtain ⟨c, tail, shows⟩ := List.exists_cons_of_ne_nil (toString_int_ne_nil value.toInt)
    have number : c.isDigit = true ∨ c = '-' := toString_int_mem (shows ▸ List.mem_cons_self)
    refine ⟨c, tail, by rw [shown, shows], ?_⟩
    have digit : kindAt c = .int ∧ c ≠ ')' ∧ c ≠ '\x7d' := by
      unfold kindAt
      rcases number with digit | rfl
      · refine ⟨?_, ?_, ?_⟩
        · split <;> first | rfl | cases digit
        · rintro rfl
          cases digit
        · rintro rfl
          cases digit
      · decide
    exact digit
  | text content => exact ⟨'\'', _, by rw [shown, toList_quotedText], rfl, by decide, by decide⟩
  | tuple items =>
    cases items with
    | nil => exact ⟨'(', [')'], by rw [shown]; rfl, rfl, by decide, by decide⟩
    | cons item items =>
      exact ⟨'(', _, by rw [← List.append_nil (shown _).toList, shown, List.map_cons, tupleText_cons_append], rfl,
        by decide, by decide⟩
  | dict entries =>
    exact ⟨'\x7b', _, by rw [← List.append_nil (shown _).toList, shown_dict_append], rfl, by decide, by decide⟩

theorem kind_eq {datum other : Datum} {rest rest' : List Char}
    (same : datum.shown.toList ++ rest = other.shown.toList ++ rest') : datum.kind = other.kind := by
  obtain ⟨c, tail, shown, kind, -⟩ := datum.exists_first
  obtain ⟨c', tail', shown', kind', -⟩ := other.exists_first
  rw [shown, shown'] at same
  rw [← kind, ← kind', (List.cons.inj same).1]

theorem follows_afterItem (rest : List Char) (texts : List (List Char)) : Follows (afterItem rest texts) := by
  intro c first
  refine Or.inl ?_
  cases texts <;> exact (Option.some.inj first).symm

theorem eq_of_tupleText {items others : List Datum} {rest rest' : List Char}
    (each : ∀ item ∈ items, Readable (·.shown.toList) Clear item) (clears : ∀ other ∈ others, other.Clear)
    (same : (tupleText (items.map shown)).toList ++ rest = (tupleText (others.map shown)).toList ++ rest') :
    items = others ∧ rest = rest' := by
  cases items with
  | nil =>
    cases others with
    | nil => exact ⟨rfl, List.append_cancel_left same⟩
    | cons other others =>
      obtain ⟨c, tail, shows, -, closing, -⟩ := other.exists_first
      rw [List.map_nil, tupleText_nil_append, List.map_cons, tupleText_cons_append, shows] at same
      exact absurd (List.cons.inj (List.cons.inj same).2).1.symm closing
  | cons item items =>
    rw [List.map_cons, tupleText_cons_append] at same
    cases others with
    | nil =>
      obtain ⟨c, tail, shows, -, closing, -⟩ := item.exists_first
      rw [List.map_nil, tupleText_nil_append, shows] at same
      exact absurd (List.cons.inj (List.cons.inj same).2).1 closing
    | cons other others =>
      rw [List.map_cons, tupleText_cons_append] at same
      obtain ⟨rfl, tails⟩ := each item List.mem_cons_self other _ _ (clears other List.mem_cons_self)
        (follows_afterItem _ _) (follows_afterItem _ _) (List.cons.inj same).2
      rw [List.map_map, List.map_map] at tails
      cases items with
      | nil =>
        cases others with
        | nil => exact ⟨rfl, (List.cons.inj (List.cons.inj tails).2).2⟩
        | cons next others => exact absurd (List.cons.inj (List.cons.inj tails).2).1 (by decide)
      | cons next items =>
        cases others with
        | nil => exact absurd (List.cons.inj (List.cons.inj tails).2).1 (by decide)
        | cons next' others =>
          have ⟨equal, rests⟩ := eq_of_separated (Or.inl rfl) (fun datum => ?_)
            (fun later member => each later (List.mem_cons_of_mem _ member))
            (fun later member => clears later (List.mem_cons_of_mem _ member))
            (List.cons.inj (List.cons.inj tails).2).2
          · exact ⟨by rw [equal], rests⟩
          · obtain ⟨c, tail, shows, -, closing, -⟩ := datum.exists_first
            exact ⟨c, tail, shows, closing⟩

theorem readable_entry {entry : String × Datum} (key : '\'' ∉ entry.1.toList)
    (value : Readable (·.shown.toList) Clear entry.2) :
    Readable entryChars (fun entry => '\'' ∉ entry.1.toList ∧ entry.2.Clear) entry := by
  rintro other rest rest' ⟨key', clear'⟩ follows follows' same
  have quote (rest : List Char) : ∀ c ∈ ('\'' :: rest).head?, ¬c ≠ '\'' := by
    intro c first other
    exact other (Option.some.inj first).symm
  have differs {text : List Char} (clear : '\'' ∉ text) : ∀ c ∈ text, c ≠ '\'' := by
    rintro c member rfl
    exact clear member
  simp only [entryChars, List.cons_append, List.append_assoc, List.cons.injEq, true_and] at same
  obtain ⟨keys, tails⟩ := eq_of_append_of_stops (differs key) (differs key') (quote _) (quote _) same
  obtain ⟨values, rests⟩ := value other.2 rest rest' clear' follows follows' (by simpa using tails)
  exact ⟨Prod.ext (String.toList_inj.mp keys) values, rests⟩

theorem readable {datum : Datum} (clear : datum.Clear) : Readable (·.shown.toList) Clear datum := by
  induction datum using induct with
  | none =>
    intro other rest rest' clear' follows follows' same
    cases other <;> cases kind_eq same
    exact ⟨rfl, List.append_cancel_left same⟩
  | bool value =>
    intro other rest rest' clear' follows follows' same
    cases other <;> cases kind_eq same
    rename_i value'
    simp only [shown] at same
    cases value <;> cases value'
    · exact ⟨rfl, List.append_cancel_left same⟩
    · simp at same
    · simp at same
    · exact ⟨rfl, List.append_cancel_left same⟩
  | int value =>
    intro other rest rest' clear' follows follows' same
    cases other <;> cases kind_eq same
    rename_i value'
    simp only [shown] at same
    have stops {rest : List Char} (follows : Follows rest) : ∀ c ∈ rest.head?, ¬(c.isDigit = true ∨ c = '-') := by
      intro c first
      rcases follows c first with rfl | rfl | rfl <;> decide
    obtain ⟨digits, rests⟩ := eq_of_append_of_stops (fun c => toString_int_mem) (fun c => toString_int_mem)
      (stops follows) (stops follows') same
    exact ⟨congrArg int (Int64.toInt_inj.mp (toString_int_inj digits)), rests⟩
  | text content =>
    intro other rest rest' clear' follows follows' same
    cases other <;> cases kind_eq same
    rename_i content'
    simp only [shown, toList_quotedText, List.cons_append, List.append_assoc, List.nil_append, List.cons.injEq,
      true_and] at same
    obtain ⟨contents, rests⟩ := eq_of_escaped_append same
    exact ⟨congrArg text (String.toList_inj.mp contents), rests⟩
  | tuple items ih =>
    intro other rest rest' clear' follows follows' same
    cases other <;> cases kind_eq same
    rename_i others
    have each : ∀ item ∈ items, Clear item := by
      cases clear
      assumption
    have clears : ∀ other ∈ others, Clear other := by
      cases clear'
      assumption
    simp only [shown] at same
    obtain ⟨equal, rests⟩ := eq_of_tupleText (fun item member => ih item member (each item member)) clears same
    exact ⟨congrArg tuple equal, rests⟩
  | dict entries ih =>
    intro other rest rest' clear' follows follows' same
    cases other <;> cases kind_eq same
    rename_i entries'
    obtain ⟨keys, each⟩ : (∀ entry ∈ entries, '\'' ∉ entry.1.toList) ∧ ∀ entry ∈ entries, entry.2.Clear := by
      cases clear
      exact ⟨‹_›, ‹_›⟩
    obtain ⟨keys', each'⟩ : (∀ entry ∈ entries', '\'' ∉ entry.1.toList) ∧ ∀ entry ∈ entries', entry.2.Clear := by
      cases clear'
      exact ⟨‹_›, ‹_›⟩
    simp only [shown_dict_append] at same
    obtain ⟨equal, rests⟩ := eq_of_separated (Or.inr rfl) (fun entry => ⟨'\'', _, rfl, by decide⟩)
      (fun entry member => readable_entry (keys entry member) (ih entry member (each entry member)))
      (fun entry member => ⟨keys' entry member, each' entry member⟩) (List.cons.inj same).2
    exact ⟨congrArg dict equal, rests⟩

theorem shown_inj {datum other : Datum} (clear : datum.Clear) (clear' : other.Clear) (same : datum.shown = other.shown) :
    datum = other := by
  refine (readable clear other [] [] clear' nofun nofun ?_).1
  simp only [List.append_nil, same]

end Datum

end Guest

end ObjectBridge
