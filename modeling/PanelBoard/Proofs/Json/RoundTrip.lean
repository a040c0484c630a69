import PanelBoard.Json.Parser
import PanelBoard.Json.Printer
import PanelBoard.Proofs.Text.Numerals

/-!
# Reading JSON back

A printed value is read as the value that was printed, in every layout that
puts only blanks between the parts. Every reader is followed with an arbitrary
rest behind what it reads, so that the proofs compose along the grammar.
-/

namespace PanelBoard.Json

open PanelBoard.Text

/-! ## Blanks -/

/-- Is the character skipped between the parts of a value? -/
def isBlankChar (c : Char) : Bool :=
  c == ' ' || c == '\t' || c == '\n' || c == '\r'

/-- A layout that puts only blanks between the parts of a value. -/
structure Layout.IsBlank (layout : Layout) : Prop where
  newLine : ∀ level, ∀ c ∈ layout.newLine level, isBlankChar c = true
  afterColon : ∀ c ∈ layout.afterColon, isBlankChar c = true

theorem Layout.isBlank_compact : Layout.compact.IsBlank where
  newLine _ := nofun
  afterColon := nofun

theorem Layout.isBlank_pretty : Layout.pretty.IsBlank where
  newLine level c member := by
    rcases List.mem_cons.mp member with rfl | indent
    · rfl
    · rw [List.eq_of_mem_replicate indent]
      rfl
  afterColon c member := by
    rw [List.mem_singleton.mp member]
    rfl

theorem skipSpace_append {blanks : List Char} (blank : ∀ c ∈ blanks, isBlankChar c = true)
    (rest : List Char) : skipSpace (blanks ++ rest) = skipSpace rest :=
  List.dropWhile_append_of_pos blank

theorem skipSpace_cons {c : Char} (visible : isBlankChar c = false) (rest : List Char) :
    skipSpace (c :: rest) = c :: rest :=
  List.dropWhile_cons_of_neg (by simpa [isBlankChar] using visible)

/-! ## Strings -/

/-- The code unit of a control character is read back. -/
theorem unit?_control {n : Nat} (small : n < 0x20) (rest : List Char) :
    unit? ('0' :: '0' :: lowerHexDigit (n / 16) :: lowerHexDigit (n % 16) :: rest) =
      some (n, rest) := by
  have units : ∀ n < 0x20,
      numeral? 16 ['0', '0', lowerHexDigit (n / 16), lowerHexDigit (n % 16)] = some n := by decide
  rw [unit?, units n small, Option.map_some]

/-- A control character is read from its code unit. -/
theorem unicodeEscape?_control {c : Char} (control : c.toNat < 0x20) (rest : List Char) :
    unicodeEscape? ('0' :: '0' :: lowerHexDigit (c.toNat / 16) :: lowerHexDigit (c.toNat % 16) ::
      rest) = some (c, rest) := by
  have alone : (decide (c.toNat < 0xD800) || decide (0xE000 ≤ c.toNat)) = true := by
    simp only [Bool.or_eq_true, decide_eq_true_eq]
    omega
  rw [unicodeEscape?, unit?_control control, Option.bind_eq_bind, Option.bind_some]
  refine (if_pos alone).trans ?_
  rw [Char.ofNat_toNat]
  rfl

/-- An escaped character is read as the character. -/
theorem stringFrom?_escapeChar (c : Char) (read : List Char) (fuel : Nat) (rest : List Char) :
    stringFrom? read (fuel + 1) (escapeChar c ++ rest) = stringFrom? (c :: read) fuel rest := by
  unfold escapeChar
  split
  case h_8 noQuote noBackslash _ _ _ _ _ =>
    split
    next control =>
      simp only [List.cons_append, List.nil_append, stringFrom?, escape?,
        unicodeEscape?_control control]
    next printed =>
      rw [List.singleton_append, stringFrom?]
      · rw [if_neg printed]
      · rintro rfl
        exact noQuote rfl
      · rintro rfl
        exact noBackslash rfl
  all_goals rfl

/-- The characters of a printed string are read up to its end. -/
theorem stringFrom?_escaped (cs read : List Char) {fuel : Nat} (enough : cs.length < fuel)
    (rest : List Char) :
    stringFrom? read fuel (cs.flatMap escapeChar ++ '"' :: rest) =
      some (String.ofList (read.reverse ++ cs), rest) := by
  induction cs generalizing read fuel with
  | nil =>
      cases fuel with
      | zero => cases enough
      | succ fuel => simp [stringFrom?]
  | cons c cs ih =>
      cases fuel with
      | zero => cases enough
      | succ fuel =>
          rw [List.flatMap_cons, List.append_assoc, stringFrom?_escapeChar,
            ih _ (Nat.lt_of_succ_lt_succ enough)]
          simp

theorem length_escapeChar_pos (c : Char) : 0 < (escapeChar c).length := by
  unfold escapeChar
  split <;> (try split) <;> simp

theorem length_le_flatMap_escapeChar (cs : List Char) :
    cs.length ≤ (cs.flatMap escapeChar).length := by
  induction cs with
  | nil => simp
  | cons c cs ih =>
      have one := length_escapeChar_pos c
      simp only [List.flatMap_cons, List.length_append, List.length_cons]
      omega

/-- A printed string is read as its text, from behind its quotation mark. -/
theorem string?_printed (text : String) (rest : List Char) :
    string? (text.toList.flatMap escapeChar ++ '"' :: rest) = some (text, rest) := by
  have enough := length_le_flatMap_escapeChar text.toList
  rw [string?, stringFrom?_escaped _ _ (by simp only [List.length_append]; omega)]
  simp

theorem printText_append (text : String) (rest : List Char) :
    printText text ++ rest = '"' :: (text.toList.flatMap escapeChar ++ '"' :: rest) := by
  simp [printText]

/-! ## Numbers -/

/-- Does no digit stand in front, so that a number ends here? -/
def EndsNumber (rest : List Char) : Prop :=
  ∀ c ∈ rest.head?, c.isDigit = false

theorem takeWhile_digits {digits rest : List Char} (all : ∀ c ∈ digits, c.isDigit = true)
    (ends : EndsNumber rest) : (digits ++ rest).takeWhile Char.isDigit = digits := by
  rw [List.takeWhile_append_of_pos all]
  cases rest with
  | nil => simp
  | cons c rest => simp [ends c rfl]

theorem digits?_decimal (n : Nat) {rest : List Char} (ends : EndsNumber rest) :
    digits? (decimal n ++ rest) = some (n, rest) := by
  have taken := takeWhile_digits (fun c member => isDigit_of_mem_decimal (n := n) member) ends
  have padded : ((decimal n).head? == some '0' && decide (1 < (decimal n).length)) = false := by
    rcases Nat.eq_zero_or_pos n with rfl | positive
    · rfl
    · simp [head?_decimal positive]
  simp only [digits?, taken, padded]
  simp

theorem number?_printNumber (n : Int) {rest : List Char} (ends : EndsNumber rest) :
    number? (printNumber n ++ rest) = some (n, rest) := by
  cases n with
  | ofNat n =>
      obtain ⟨first, more, digits⟩ := List.exists_cons_of_ne_nil (decimal_ne_nil n)
      have digit : first.isDigit = true :=
        isDigit_of_mem_decimal (n := n) (digits ▸ List.mem_cons_self)
      have read := digits?_decimal n ends
      rw [printNumber, number?.eq_def]
      split
      next same =>
        rw [digits] at same
        obtain rfl : first = '-' := (List.cons.inj same).1
        cases digit
      next => rw [read]; rfl
  | negSucc n =>
      rw [printNumber, List.cons_append, number?, digits?_decimal _ ends]
      rfl

/-! ## Values -/

/-- Are the parts of a value at most so deep? -/
def Value.Fits : Nat → Value → Prop
  | 0, .list _ => False
  | 0, .object _ => False
  | depth + 1, .list elements => ∀ element ∈ elements, element.Fits depth
  | depth + 1, .object members => ∀ member ∈ members, member.2.Fits depth
  | _, _ => True

/-- A value without parts. -/
def Value.isScalar : Value → Bool
  | .list _ => false
  | .object _ => false
  | _ => true

theorem fits_of_isScalar {value : Value} (scalar : value.isScalar = true) (depth : Nat) :
    value.Fits depth := by
  cases value with
  | list | object => cases scalar
  | _ => cases depth <;> trivial

/-- An object whose values have no parts is one level deep. -/
theorem fits_object {members : List (String × Value)}
    (scalars : members.all (·.2.isScalar) = true) {depth : Nat} :
    (Value.object members).Fits (depth + 1) :=
  fun pair member => fits_of_isScalar (List.all_eq_true.mp scalars pair member) depth

/-- A printed number begins with a digit or its sign. -/
theorem printNumber_begins (n : Int) :
    ∃ first more, printNumber n = first :: more ∧ (first.isDigit = true ∨ first = '-') := by
  cases n with
  | ofNat n =>
      obtain ⟨first, more, digits⟩ := List.exists_cons_of_ne_nil (decimal_ne_nil n)
      exact ⟨first, more, digits, .inl (isDigit_of_mem_decimal (digits ▸ List.mem_cons_self))⟩
  | negSucc n => exact ⟨'-', _, rfl, .inr rfl⟩

theorem scalar?_number (n : Int) {rest : List Char} (ends : EndsNumber rest) :
    scalar? (printNumber n ++ rest) = some (.number n, rest) := by
  have read := number?_printNumber n ends
  obtain ⟨first, more, printed, begins⟩ := printNumber_begins n
  rw [printed, List.cons_append] at read ⊢
  rw [scalar?.eq_def]
  split
  case h_5 => rw [read]; rfl
  all_goals
    next same =>
      obtain ⟨rfl, -⟩ := List.cons.inj same
      simp at begins

/-- A printed value without parts is read as the value. -/
theorem scalar?_printAt {value : Value} (scalar : value.isScalar = true) (layout : Layout)
    (level : Nat) {rest : List Char} (ends : EndsNumber rest) :
    scalar? (printAt layout level value ++ rest) = some (value, rest) := by
  cases value with
  | null => simp [printAt, scalar?, dropWord?]
  | boolean value => cases value <;> simp [printAt, scalar?, dropWord?]
  | number n => simp [printAt, scalar?_number n ends]
  | text value => simp [printAt, printText_append, scalar?, string?_printed]
  | list => cases scalar
  | object => cases scalar

theorem visible_of_isDigit {c : Char} (digit : c.isDigit = true) :
    isBlankChar c = false ∧ c ≠ ']' ∧ c ≠ '[' ∧ c ≠ '\x7b' := by
  have code := Char.isDigit_iff_toNat.mp digit
  have other {d : Char} (outside : d.toNat < '0'.toNat ∨ '9'.toNat < d.toNat) : c ≠ d := by
    rintro rfl
    omega
  refine ⟨?_, other (by decide), other (by decide), other (by decide)⟩
  simp [isBlankChar, other (d := ' ') (by decide), other (d := '\t') (by decide),
    other (d := '\n') (by decide), other (d := '\r') (by decide)]

/-- A printed value begins visibly, and with no bracket that closes; without parts
it begins with no bracket or brace at all. -/
theorem printAt_begins (layout : Layout) (level : Nat) (value : Value) :
    ∃ first more, printAt layout level value = first :: more ∧ isBlankChar first = false ∧
      first ≠ ']' ∧ (value.isScalar = true → first ≠ '[' ∧ first ≠ '\x7b') := by
  cases value with
  | null => exact ⟨_, _, rfl, rfl, by decide⟩
  | boolean value => cases value <;> exact ⟨_, _, rfl, rfl, by decide⟩
  | number n =>
      obtain ⟨first, more, printed, begins⟩ := printNumber_begins n
      refine ⟨first, more, by rw [printAt, printed], ?_⟩
      rcases begins with digit | rfl
      · obtain ⟨visible, open', others⟩ := visible_of_isDigit digit
        exact ⟨visible, open', fun _ => others⟩
      · exact ⟨rfl, by decide, fun _ => by decide⟩
  | text value => exact ⟨_, _, by rw [printAt, printText]; rfl, rfl, by decide, fun _ => by decide⟩
  | list elements =>
      cases elements with
      | nil => exact ⟨_, _, by rw [printAt], rfl, by decide, nofun⟩
      | cons first others => exact ⟨_, _, by rw [printAt]; rfl, rfl, by decide, nofun⟩
  | object members =>
      cases members with
      | nil => exact ⟨_, _, by rw [printAt], rfl, by decide, nofun⟩
      | cons first others => exact ⟨_, _, by rw [printAt]; rfl, rfl, by decide, nofun⟩

/-- Does a reader read a printed value, with blanks in front and any rest that
does not go on with a digit? -/
def Reads (read : Reader Value) (layout : Layout) (level : Nat) (value : Value) : Prop :=
  ∀ blanks rest, (∀ c ∈ blanks, isBlankChar c = true) → EndsNumber rest →
    read (blanks ++ (printAt layout level value ++ rest)) = some (value, rest)

theorem skipSpace_printAt (layout : Layout) (level : Nat) (value : Value) {blanks : List Char}
    (blank : ∀ c ∈ blanks, isBlankChar c = true) (rest : List Char) :
    skipSpace (blanks ++ (printAt layout level value ++ rest)) =
      printAt layout level value ++ rest := by
  obtain ⟨first, more, printed, visible, -⟩ := printAt_begins layout level value
  rw [skipSpace_append blank, printed, List.cons_append, skipSpace_cons visible]

theorem value?_scalar {value : Value} (scalar : value.isScalar = true) (depth : Nat)
    (layout : Layout) (level : Nat) : Reads (value? depth) layout level value := by
  intro blanks rest blank ends
  have read := scalar?_printAt scalar layout level ends
  have skipped := skipSpace_printAt layout level value blank rest
  obtain ⟨first, more, printed, -, -, opens⟩ := printAt_begins layout level value
  obtain ⟨noList, noObject⟩ := opens scalar
  cases depth with
  | zero => rw [value?, skipped, read]
  | succ depth =>
      rw [value?, skipped]
      rw [printed, List.cons_append] at read ⊢
      split
      next same => exact absurd (List.cons.inj same).1 noList
      next same => exact absurd (List.cons.inj same).1 noObject
      next => exact read

/-! ## Lists and objects -/

section Parts

variable {layout : Layout} {level : Nat} {read : Reader Value}

/-- A number ends in front of blanks, and so in front of what closes it behind them. -/
theorem endsNumber_of_blank {blanks : List Char} (blank : ∀ c ∈ blanks, isBlankChar c = true)
    {rest : List Char} (ends : EndsNumber rest) : EndsNumber (blanks ++ rest) := by
  intro first member
  cases blanks with
  | nil => exact ends first member
  | cons b blanks =>
      obtain rfl : b = first := by simpa using member
      cases digit : b.isDigit with
      | false => rfl
      | true =>
          have visible := (visible_of_isDigit digit).1
          rw [blank b List.mem_cons_self] at visible
          cases visible

theorem endsNumber_cons {c : Char} (closes : c.isDigit = false) (rest : List Char) :
    EndsNumber (c :: rest) := by
  rintro first ⟨⟩
  exact closes

/-- The elements of a printed list are read up to its bracket. -/
theorem elements?_printed (blankLayout : layout.IsBlank) {first : Value} {others : List Value}
    (reads : ∀ element ∈ first :: others, Reads read layout (level + 1) element) {fuel : Nat}
    (enough : others.length < fuel) {blanks : List Char}
    (blank : ∀ c ∈ blanks, isBlankChar c = true) (rest : List Char) :
    elements? read fuel (blanks ++ (printAt layout (level + 1) first ++
        (printElements layout (level + 1) others ++ (layout.newLine level ++ ']' :: rest)))) =
      some (first :: others, rest) := by
  induction others generalizing first fuel blanks with
  | nil =>
      cases fuel with
      | zero => cases enough
      | succ fuel =>
          have closed := endsNumber_of_blank (blankLayout.newLine level)
            (endsNumber_cons (c := ']') rfl rest)
          rw [elements?, printElements, List.nil_append,
            reads first List.mem_cons_self _ _ blank closed]
          simp only [Option.bind_eq_bind, Option.bind_some]
          rw [skipSpace_append (blankLayout.newLine level), skipSpace_cons (by rfl)]
          rfl
  | cons second others ih =>
      cases fuel with
      | zero => cases enough
      | succ fuel =>
          have later := ih
            (fun element member => reads element (List.mem_cons_of_mem _ member))
            (Nat.lt_of_succ_lt_succ enough) (blankLayout.newLine (level + 1))
          rw [elements?, printElements]
          simp only [List.append_assoc, List.cons_append]
          rw [reads first List.mem_cons_self _ _ blank (by simp [EndsNumber])]
          simp only [Option.bind_eq_bind, Option.bind_some]
          rw [skipSpace_cons (by rfl)]
          simp only [later]
          rfl

/-- The members of a printed object are read up to its brace. -/
theorem members?_printed (blankLayout : layout.IsBlank) {first : String × Value}
    {others : List (String × Value)}
    (reads : ∀ member ∈ first :: others, Reads read layout (level + 1) member.2) {fuel : Nat}
    (enough : others.length < fuel) {blanks : List Char}
    (blank : ∀ c ∈ blanks, isBlankChar c = true) (rest : List Char) :
    members? read fuel (blanks ++ (printText first.1 ++ (':' :: (layout.afterColon ++
        (printAt layout (level + 1) first.2 ++ (printMembers layout (level + 1) others ++
          (layout.newLine level ++ '\x7d' :: rest))))))) =
      some (first :: others, rest) := by
  induction others generalizing first fuel blanks with
  | nil =>
      cases fuel with
      | zero => cases enough
      | succ fuel =>
          have closed := endsNumber_of_blank (blankLayout.newLine level)
            (endsNumber_cons (c := '\x7d') rfl rest)
          rw [members?, skipSpace_append blank, printText_append, skipSpace_cons (by rfl)]
          simp only [string?_printed, Option.bind_eq_bind, Option.bind_some]
          rw [skipSpace_cons (by rfl)]
          simp only [printMembers, List.nil_append]
          rw [reads first List.mem_cons_self _ _ blankLayout.afterColon closed]
          simp only [Option.bind_some]
          rw [skipSpace_append (blankLayout.newLine level), skipSpace_cons (by rfl)]
          rfl
  | cons second others ih =>
      cases fuel with
      | zero => cases enough
      | succ fuel =>
          have later := ih
            (fun member within => reads member (List.mem_cons_of_mem _ within))
            (Nat.lt_of_succ_lt_succ enough) (blankLayout.newLine (level + 1))
          rw [members?, skipSpace_append blank, printText_append, skipSpace_cons (by rfl)]
          simp only [string?_printed, Option.bind_eq_bind, Option.bind_some]
          rw [skipSpace_cons (by rfl)]
          simp only [printMembers, List.append_assoc, List.cons_append]
          rw [reads first List.mem_cons_self _ _ blankLayout.afterColon (by simp [EndsNumber])]
          simp only [Option.bind_some]
          rw [skipSpace_cons (by rfl)]
          simp only [later]
          rfl

end Parts

theorem length_le_printElements (layout : Layout) (level : Nat) (elements : List Value) :
    elements.length ≤ (printElements layout level elements).length := by
  induction elements with
  | nil => simp
  | cons element rest ih =>
      simp only [printElements, List.length_cons, List.length_append]
      omega

theorem length_le_printMembers (layout : Layout) (level : Nat) (members : List (String × Value)) :
    members.length ≤ (printMembers layout level members).length := by
  induction members with
  | nil => simp
  | cons member rest ih =>
      obtain ⟨key, value⟩ := member
      simp only [printMembers, List.length_cons, List.length_append]
      omega

/-- A printed list is read as the list if its elements are read. -/
theorem value?_list {layout : Layout} (blankLayout : layout.IsBlank) {depth level : Nat}
    {elements : List Value}
    (reads : ∀ element ∈ elements, Reads (value? depth) layout (level + 1) element) :
    Reads (value? (depth + 1)) layout level (.list elements) := by
  intro blanks rest blank ends
  rw [value?, skipSpace_printAt _ _ _ blank]
  cases elements with
  | nil =>
      simp only [printAt, List.cons_append, List.nil_append]
      rw [skipSpace_cons (by rfl)]
      rfl
  | cons first others =>
      have many := length_le_printElements layout (level + 1) others
      obtain ⟨start, more, printed, visible, unclosed, -⟩ :=
        printAt_begins layout (level + 1) first
      have read (fuel : Nat) (enough : others.length < fuel) :=
        elements?_printed blankLayout reads enough (nofun : ∀ c ∈ [], isBlankChar c = true) rest
      have skipped := skipSpace_printAt layout (level + 1) first
        (blankLayout.newLine (level + 1)) (printElements layout (level + 1) others ++
          (layout.newLine level ++ ']' :: rest))
      simp only [printAt, List.cons_append, List.append_assoc, List.nil_append] at read ⊢
      rw [skipped]
      rw [printed, List.cons_append] at read ⊢
      split
      next same => exact absurd (List.cons.inj same).1 unclosed
      next => rw [read _ (by simp only [List.length_cons, List.length_append]; omega)]; rfl

/-- A printed object is read as the object if its values are read. -/
theorem value?_object {layout : Layout} (blankLayout : layout.IsBlank) {depth level : Nat}
    {members : List (String × Value)}
    (reads : ∀ member ∈ members, Reads (value? depth) layout (level + 1) member.2) :
    Reads (value? (depth + 1)) layout level (.object members) := by
  intro blanks rest blank ends
  rw [value?, skipSpace_printAt _ _ _ blank]
  cases members with
  | nil =>
      simp only [printAt, List.cons_append, List.nil_append]
      rw [skipSpace_cons (by rfl)]
      rfl
  | cons first others =>
      have many := length_le_printMembers layout (level + 1) others
      have read (fuel : Nat) (enough : others.length < fuel) :=
        members?_printed blankLayout reads enough (nofun : ∀ c ∈ [], isBlankChar c = true) rest
      simp only [printAt, List.cons_append, List.append_assoc, List.nil_append] at read ⊢
      rw [skipSpace_append (blankLayout.newLine (level + 1))]
      rw [printText_append] at read ⊢
      rw [skipSpace_cons (by rfl)]
      split
      next same => cases same
      next => rw [read _ (by simp only [List.length_cons, List.length_append]; omega)]; rfl

/-- A printed value is read as the value, if its parts are not too deep. -/
theorem value?_printAt {layout : Layout} (blankLayout : layout.IsBlank) {depth : Nat}
    {value : Value} (fits : value.Fits depth) (level : Nat) :
    Reads (value? depth) layout level value := by
  induction depth generalizing value level with
  | zero =>
      cases value with
      | list | object => exact fits.elim
      | _ => exact value?_scalar rfl _ _ _
  | succ depth ih =>
      cases value with
      | list elements =>
          exact value?_list blankLayout fun element member => ih (fits element member) _
      | object members =>
          exact value?_object blankLayout fun pair member => ih (fits pair member) _
      | _ => exact value?_scalar rfl _ _ _

/-- A document in any layout of blanks, with blanks behind it, is read as the value that was
printed. -/
theorem parse?_printAt {layout : Layout} (blankLayout : layout.IsBlank) {value : Value}
    (fits : value.Fits nestingLimit) {blanks : List Char}
    (blank : ∀ c ∈ blanks, isBlankChar c = true) :
    parse? (String.ofList (printAt layout 0 value ++ blanks)) = some value := by
  have ends : EndsNumber blanks := List.append_nil blanks ▸ endsNumber_of_blank blank nofun
  have read := value?_printAt blankLayout fits 0 [] blanks nofun ends
  have skipped : skipSpace blanks = [] := by
    rw [← List.append_nil blanks, skipSpace_append blank]
    rfl
  rw [List.nil_append] at read
  rw [parse?, String.toList_ofList, read, Option.bind_eq_bind, Option.bind_some]
  simp only [skipped, List.isEmpty_nil, if_true]

theorem parse?_compact {value : Value} (fits : value.Fits nestingLimit) :
    parse? value.compact = some value := by
  have read := parse?_printAt Layout.isBlank_compact fits (nofun : ∀ c ∈ [], isBlankChar c = true)
  rwa [List.append_nil] at read

/-- The pretty form is also read with a line break behind it. -/
theorem parse?_pretty {value : Value} (fits : value.Fits nestingLimit) :
    parse? (value.pretty ++ "\n") = some value := by
  have read := parse?_printAt Layout.isBlank_pretty fits
    (List.forall_mem_singleton.mpr rfl : ∀ c ∈ ['\n'], isBlankChar c = true)
  rwa [String.ofList_append] at read

end PanelBoard.Json
