import Multiplex.Toml.Document
import Multiplex.Toml.Writer

/-!
# Tables of numbers are read back as they were written

The writer puts each table under a header and each of its numbers on a line.  Here the reader
is followed over such a text: over the digits of a number, over a key, over the three kinds of
lines that the writer makes, and over the list of all lines.

What may be written so is `NumberTable.IsPlain`: names and keys that need no quotes, no key
twice, and numbers below the bound of integers.  `parse_writeTables` is the main result.

The reader bounds its recursion over the lines by the length of the text.  `Reads` says that a
text is read under every such bound, which is what an induction over the lines can carry.
-/

namespace Multiplex.Toml

/-! ## What is written plainly -/

/-- A name that needs no quotes. -/
def IsBare (name : String) : Prop :=
  name.toList ≠ [] ∧ ∀ c ∈ name.toList, isKeyChar c = true

/-- The numbers below the bound of integers. -/
def IsInteger (number : Nat) : Prop := (number : Int) < integerBound

namespace NumberTable

/-- A table whose text is read back. -/
structure IsPlain (table : NumberTable) : Prop where
  name : IsBare table.name
  keys : ∀ entry ∈ table.numbers, IsBare entry.1
  distinct : (table.numbers.map Prod.fst).Nodup
  numbers : ∀ entry ∈ table.numbers, IsInteger entry.2

/-- The line that a number is written on, as it is read. -/
def assignments (table : NumberTable) : List Assignment :=
  table.numbers.map fun entry => ⟨[], entry.1, .integer entry.2⟩

/-- The entries of a table, as they are read. -/
def entries (table : NumberTable) : Entries :=
  table.numbers.map fun entry => (entry.1, .integer entry.2)

/-- The header of a table, as it is read. -/
def header (table : NumberTable) : Header := ⟨[], table.name, false⟩

/-- The lines of a table, as they are read. -/
def lines (table : NumberTable) : List Line :=
  .header table.header :: table.assignments.map .assignment

end NumberTable

/-- The lines of several tables, as they are read. -/
def linesOf : List NumberTable → List Line
  | [] => []
  | [table] => table.lines
  | table :: tables => table.lines ++ .blank :: linesOf tables

/-- What a document with several tables holds. -/
def entriesOf (tables : List NumberTable) : Entries :=
  tables.map fun table => (table.name, .table .header table.entries)

/-! ## Runs of characters -/

/-- A text that is empty or goes on with a character of another kind. -/
def Stops (kind : Char → Bool) (rest : List Char) : Prop := ∀ c ∈ rest.head?, kind c = false

theorem Stops.takeWhile {kind : Char → Bool} {rest : List Char} (hstops : Stops kind rest) :
    rest.takeWhile kind = [] := by
  cases rest with
  | nil => rfl
  | cons c rest => exact List.takeWhile_cons_of_neg (by simp [hstops c rfl])

theorem Stops.dropWhile {kind : Char → Bool} {rest : List Char} (hstops : Stops kind rest) :
    rest.dropWhile kind = rest := by
  cases rest with
  | nil => rfl
  | cons c rest => exact List.dropWhile_cons_of_neg (by simp [hstops c rfl])

section Run

variable {kind : Char → Bool} {run rest : List Char}

theorem takeWhile_run (hrun : ∀ c ∈ run, kind c = true) (hstops : Stops kind rest) :
    (run ++ rest).takeWhile kind = run := by
  rw [List.takeWhile_append_of_pos hrun, hstops.takeWhile, List.append_nil]

theorem dropWhile_run (hrun : ∀ c ∈ run, kind c = true) (hstops : Stops kind rest) :
    (run ++ rest).dropWhile kind = rest := by
  rw [List.dropWhile_append_of_pos hrun, hstops.dropWhile]

end Run

theorem ne_of_kind {kind : Char → Bool} {c other : Char} (hkind : kind c = true)
    (hother : kind other = false) : c ≠ other := by
  rintro rfl
  rw [hkind] at hother
  exact Bool.noConfusion hother

/-! ## Numbers -/

section Digits

variable {digits : List Char}

private theorem digitRun?_eq_self (hsome : digits ≠ []) (hdigits : ∀ c ∈ digits, c.isDigit = true) :
    digitRun? Char.isDigit digits = some digits := by
  induction digits with
  | nil => exact absurd rfl hsome
  | cons digit rest ih =>
    have hdigit : digit.isDigit = true := hdigits digit List.mem_cons_self
    cases rest with
    | nil => rw [digitRun?, if_pos hdigit]
    | cons next rest =>
      have hnext : next ≠ '_' :=
        ne_of_kind (hdigits next (by simp)) (by decide)
      have hread := ih (List.cons_ne_nil _ _) fun c hmem => hdigits c (List.mem_cons_of_mem _ hmem)
      rw [digitRun?, if_pos hdigit, hread, Option.map_some]
      · exact List.cons_ne_nil _ _
      · rintro cs ⟨⟩
        exact hnext rfl

end Digits

theorem ofDigits_toDigits (number : Nat) : ofDigits (Nat.toDigits 10 number) = number := by
  have hfold : ∀ digits, ofDigits digits = Nat.ofDigitChars 10 digits 0 := fun digits => by
    simp only [ofDigits, Nat.ofDigitChars, Nat.mul_comm]
  rw [hfold, Nat.ofDigitChars_toDigits (by decide) (by decide)]

theorem isDigit_of_mem_toDigits {number : Nat} {c : Char} (hmem : c ∈ Nat.toDigits 10 number) :
    c.isDigit = true :=
  Nat.isDigit_of_mem_toDigits (by decide) (by decide) hmem

theorem not_mem_toDigits {number : Nat} {c : Char} (hother : c.isDigit = false) :
    c ∉ Nat.toDigits 10 number := fun hmem => by
  rw [isDigit_of_mem_toDigits hmem] at hother
  exact Bool.noConfusion hother

private theorem eq_nil_of_toDigits {number : Nat} {rest : List Char}
    (hdigits : Nat.toDigits 10 number = '0' :: rest) : rest = [] := by
  induction number using Nat.strongRecOn generalizing rest with
  | ind number ih =>
    rw [Nat.toDigits_eq_if (by decide)] at hdigits
    by_cases hsmall : number < 10
    · rw [if_pos hsmall] at hdigits
      exact (List.cons.inj hdigits).2.symm
    · -- The digits of the tenth would be a zero alone, so the tenth would be zero.
      rw [if_neg hsmall] at hdigits
      exfalso
      cases htenth : Nat.toDigits 10 (number / 10) with
      | nil => exact Nat.toDigits_ne_nil htenth
      | cons first others =>
        rw [htenth, List.cons_append] at hdigits
        obtain ⟨rfl, -⟩ := List.cons.inj hdigits
        obtain rfl := ih (number / 10) (by omega) htenth
        have hzero : ofDigits ['0'] = number / 10 := htenth ▸ ofDigits_toDigits (number / 10)
        have : ofDigits ['0'] = 0 := rfl
        omega

private theorem decimalDigits?_toDigits (number : Nat) :
    decimalDigits? (Nat.toDigits 10 number) = some (Nat.toDigits 10 number) := by
  unfold decimalDigits?
  split
  · next hdigits => exact absurd (eq_nil_of_toDigits hdigits) (List.cons_ne_nil _ _)
  · exact digitRun?_eq_self Nat.toDigits_ne_nil fun c hmem => isDigit_of_mem_toDigits hmem

private theorem takeSign_toDigits (number : Nat) :
    takeSign (Nat.toDigits 10 number) = (false, Nat.toDigits 10 number) := by
  have hminus : '-' ∉ Nat.toDigits 10 number := not_mem_toDigits rfl
  have hplus : '+' ∉ Nat.toDigits 10 number := not_mem_toDigits rfl
  unfold takeSign
  split
  · next hdigits => exact absurd (hdigits ▸ List.mem_cons_self) hminus
  · next hdigits => exact absurd (hdigits ▸ List.mem_cons_self) hplus
  · rfl

private theorem inRange?_natCast {number : Nat} (hnumber : IsInteger number) :
    inRange? (number : Int) = some (number : Int) := by
  have hnumber : (number : Int) < integerBound := hnumber
  rw [inRange?, if_pos]
  exact ⟨by omega, hnumber⟩

private theorem integer?_toDigits {number : Nat} (hnumber : IsInteger number) :
    integer? (Nat.toDigits 10 number) = some (number : Int) := by
  -- A mark of another base is no digit.
  have hbase : ∀ {mark : Char} {cs : List Char}, mark.isDigit = false →
      Nat.toDigits 10 number ≠ '0' :: mark :: cs := fun {mark cs} hmark hdigits => by
    have hnot : mark ∉ Nat.toDigits 10 number := not_mem_toDigits hmark
    exact hnot (hdigits ▸ by simp)
  rw [integer?]
  · rw [takeSign_toDigits]
    dsimp only
    rw [decimalDigits?_toDigits, Option.bind_some, ofDigits_toDigits, if_neg Bool.false_ne_true]
    exact inRange?_natCast hnumber
  · exact fun _ => hbase rfl
  · exact fun _ => hbase rfl
  · exact fun _ => hbase rfl

private theorem scalarOf?_toDigits {number : Nat} (hnumber : IsInteger number) :
    scalarOf? (Nat.toDigits 10 number) = some (.integer number) := by
  have hword : ∀ {word : List Char}, (∃ c ∈ word, c.isDigit = false) →
      (Nat.toDigits 10 number == word) = false := by
    rintro word ⟨c, hmem, hletter⟩
    rw [beq_eq_false_iff_ne]
    rintro rfl
    exact not_mem_toDigits hletter hmem
  have htrue : (Nat.toDigits 10 number == "true".toList) = false :=
    hword ⟨'t', by decide, by decide⟩
  have hfalse : (Nat.toDigits 10 number == "false".toList) = false :=
    hword ⟨'f', by decide, by decide⟩
  simp only [scalarOf?, htrue, hfalse, integer?_toDigits hnumber, Bool.false_eq_true, if_false]

private theorem isScalarChar_of_isDigit {c : Char} (hdigit : c.isDigit = true) :
    isScalarChar c = true := by
  simp [isScalarChar, Char.isAlphanum, hdigit]

theorem toDigits_append_ne {number : Nat} {rest cs : List Char} {c : Char}
    (hother : c.isDigit = false) : Nat.toDigits 10 number ++ rest ≠ c :: cs := by
  obtain ⟨digit, others, hdigits⟩ :=
    List.exists_cons_of_ne_nil (Nat.toDigits_ne_nil (n := number) (b := 10))
  rw [hdigits, List.cons_append]
  rintro ⟨⟩
  exact not_mem_toDigits hother (hdigits ▸ List.mem_cons_self)

private theorem stops_toDigits (number : Nat) {rest : List Char} {kind : Char → Bool}
    (hkind : ∀ c, kind c = true → c.isDigit = false) :
    Stops kind (Nat.toDigits 10 number ++ rest) := by
  intro c hfirst
  rw [Bool.eq_false_iff]
  intro hyes
  obtain ⟨cs, hcs⟩ := List.head?_eq_some_iff.mp hfirst
  exact toDigits_append_ne (hkind c hyes) hcs

private theorem scalar?_toDigits {number : Nat} (hnumber : IsInteger number) (rest : List Char) :
    scalar? (Nat.toDigits 10 number ++ '\n' :: rest) = some (.integer number, '\n' :: rest) := by
  have hrun : ∀ c ∈ Nat.toDigits 10 number, isScalarChar c = true := fun c hmem =>
    isScalarChar_of_isDigit (isDigit_of_mem_toDigits hmem)
  have hstops : Stops isScalarChar ('\n' :: rest) := by
    rintro c ⟨⟩
    rfl
  unfold scalar?
  split
  · next hcs => exact absurd hcs (toDigits_append_ne rfl)
  · next hcs => exact absurd hcs (toDigits_append_ne rfl)
  · simp only [takeWhile_run hrun hstops, dropWhile_run hrun hstops, timeBehindDate?,
      scalarOf?_toDigits hnumber, Option.map_some]
    rfl

private theorem value?_toDigits {number : Nat} (hnumber : IsInteger number) (limit : Nat)
    (rest : List Char) :
    value? (limit + 1) (Nat.toDigits 10 number ++ '\n' :: rest) =
      some (.integer number, '\n' :: rest) := by
  rw [value?]
  · exact scalar?_toDigits hnumber rest
  · exact fun _ => toDigits_append_ne rfl
  · exact fun _ => toDigits_append_ne rfl

/-! ## Keys -/

theorem IsBare.append_ne {name : String} (hbare : IsBare name) {rest cs : List Char} {c : Char}
    (hother : isKeyChar c = false) : name.toList ++ rest ≠ c :: cs := by
  obtain ⟨hsome, hchars⟩ := hbare
  obtain ⟨first, others, hname⟩ := List.exists_cons_of_ne_nil hsome
  rw [hname, List.cons_append]
  intro hcs
  exact ne_of_kind (hchars first (hname ▸ List.mem_cons_self)) hother (List.cons.inj hcs).1

theorem IsBare.stops {name : String} (hbare : IsBare name) {kind : Char → Bool}
    (hkind : ∀ c, kind c = true → isKeyChar c = false) (rest : List Char) :
    Stops kind (name.toList ++ rest) := by
  intro c hfirst
  rw [Bool.eq_false_iff]
  intro hyes
  obtain ⟨cs, hcs⟩ := List.head?_eq_some_iff.mp hfirst
  exact hbare.append_ne (hkind c hyes) hcs

private theorem isDigit_of_isBlank {c : Char} (hblank : isBlank c = true) : c.isDigit = false := by
  rw [isBlank, Bool.or_eq_true, beq_iff_eq, beq_iff_eq] at hblank
  rcases hblank with rfl | rfl <;> decide

theorem isKeyChar_of_isBlank {c : Char} (hblank : isBlank c = true) : isKeyChar c = false := by
  rw [isBlank, Bool.or_eq_true, beq_iff_eq, beq_iff_eq] at hblank
  rcases hblank with rfl | rfl <;> decide

private theorem keyPart?_bare {name : String} (hbare : IsBare name) {rest : List Char}
    (hstops : Stops isKeyChar rest) :
    keyPart? (name.toList ++ rest) = some (name, rest) := by
  unfold keyPart?
  split
  · next hcs => exact absurd hcs (hbare.append_ne rfl)
  · next hcs => exact absurd hcs (hbare.append_ne rfl)
  · rw [takeWhile_run hbare.2 hstops, dropWhile_run hbare.2 hstops]
    split
    · next hnone => exact absurd hnone hbare.1
    · rw [String.ofList_toList]

theorem keyPath?_bare {name : String} (hbare : IsBare name) {rest behind : List Char} {c : Char}
    (hstops : Stops isKeyChar rest) (hrest : skipBlanks rest = c :: behind) (hdot : c ≠ '.')
    (limit : Nat) : keyPath? (limit + 1) (name.toList ++ rest) = some ([name], c :: behind) := by
  have hskip : skipBlanks (name.toList ++ rest) = name.toList ++ rest :=
    (hbare.stops (fun _ => isKeyChar_of_isBlank) rest).dropWhile
  rw [keyPath?, hskip, keyPart?_bare hbare hstops]
  simp only [hrest]
  split
  · next hcs => exact absurd (List.cons.inj hcs).1 hdot
  · rfl

/-! ## Lines -/

private theorem content?_header {name : String} (hbare : IsBare name) (rest : List Char) :
    content? ('[' :: (name.toList ++ ']' :: '\n' :: rest)) =
      some (.header ⟨[], name, false⟩, '\n' :: rest) := by
  have hpath : keyPath? nestingLimit (name.toList ++ ']' :: '\n' :: rest) =
      some ([name], ']' :: '\n' :: rest) := by
    refine keyPath?_bare hbare ?_ rfl (by decide) 78
    rintro c ⟨⟩
    rfl
  have hheader : header? false (name.toList ++ ']' :: '\n' :: rest) =
      some (⟨[], name, false⟩, '\n' :: rest) := by
    rw [header?, hpath]
    rfl
  rw [content?, hheader]
  · rfl
  · exact fun _ => hbare.append_ne rfl

private theorem content?_number {key : String} {number : Nat} (hbare : IsBare key)
    (hnumber : IsInteger number) (rest : List Char) :
    content? (key.toList ++ (" = ".toList ++ (Nat.toDigits 10 number ++ '\n' :: rest))) =
      some (.assignment ⟨[], key, .integer number⟩, '\n' :: rest) := by
  have hpath : keyPath? nestingLimit
      (key.toList ++ (" = ".toList ++ (Nat.toDigits 10 number ++ '\n' :: rest))) =
        some ([key], '=' :: ' ' :: (Nat.toDigits 10 number ++ '\n' :: rest)) := by
    refine keyPath?_bare hbare ?_ rfl (by decide) 78
    rintro c ⟨⟩
    rfl
  have hskip : skipBlanks (' ' :: (Nat.toDigits 10 number ++ '\n' :: rest)) =
      Nat.toDigits 10 number ++ '\n' :: rest :=
    (stops_toDigits number fun _ => isDigit_of_isBlank).dropWhile
  have hassignment : assignment? (value? nestingLimit)
      (key.toList ++ (" = ".toList ++ (Nat.toDigits 10 number ++ '\n' :: rest))) =
        some (⟨[], key, .integer number⟩, '\n' :: rest) := by
    rw [assignment?, hpath]
    simp only [List.getLast?_singleton, hskip]
    rw [show nestingLimit = 78 + 1 from rfl, value?_toDigits hnumber 78 rest]
    rfl
  rw [content?, hassignment]
  · rfl
  all_goals exact fun _ => hbare.append_ne rfl

/-- A text is read as a list of lines under every bound that its length allows. -/
def Reads (cs : List Char) (lines : List Line) : Prop :=
  ∀ bound, cs.length < bound → lines? bound cs = some lines

namespace Reads

theorem nil : Reads [] [] := by
  intro bound hbound
  obtain ⟨more, rfl⟩ : ∃ more, bound = more + 1 := ⟨bound - 1, by omega⟩
  rfl

/-- A line and its line end in front of a text that is read. -/
theorem line (written : List Char) {rest : List Char} {line : Line} {lines : List Line}
    (hfirst : Stops isBlank (written ++ '\n' :: rest))
    (hcontent : content? (written ++ '\n' :: rest) = some (line, '\n' :: rest))
    (hrest : Reads rest lines) : Reads (written ++ '\n' :: rest) (line :: lines) := by
  intro bound hbound
  obtain ⟨more, rfl⟩ : ∃ more, bound = more + 1 := ⟨bound - 1, by omega⟩
  have hshorter : rest.length < more := by
    rw [List.length_append, List.length_cons] at hbound
    omega
  have hend : lineEnd? ('\n' :: rest) = some rest := rfl
  rw [lines?, skipBlanks, hfirst.dropWhile]
  split
  · next hnone => exact absurd hnone (by simp)
  · simp only [hcontent, hend, hrest more hshorter, Option.map_some]

theorem blank {rest : List Char} {lines : List Line} (hrest : Reads rest lines) :
    Reads ('\n' :: rest) (.blank :: lines) := by
  refine line [] ?_ rfl hrest
  rintro c ⟨⟩
  rfl

theorem numbers {numbers : List (String × Nat)} {rest : List Char} {lines : List Line}
    (hkeys : ∀ entry ∈ numbers, IsBare entry.1) (hnumbers : ∀ entry ∈ numbers, IsInteger entry.2)
    (hrest : Reads rest lines) :
    Reads ((numbers.flatMap fun (key, number) => writeNumber key number) ++ rest)
      ((numbers.map fun entry => .assignment ⟨[], entry.1, .integer entry.2⟩) ++ lines) := by
  induction numbers with
  | nil => exact hrest
  | cons entry others ih =>
    have hbare : IsBare entry.1 := hkeys entry List.mem_cons_self
    have hothers := ih (fun other hmem => hkeys other (List.mem_cons_of_mem _ hmem))
      fun other hmem => hnumbers other (List.mem_cons_of_mem _ hmem)
    have hcontent := content?_number hbare (hnumbers entry List.mem_cons_self)
      ((others.flatMap fun (key, number) => writeNumber key number) ++ rest)
    have hread := line (entry.1.toList ++ (" = ".toList ++ Nat.toDigits 10 entry.2))
      (by rw [List.append_assoc]; exact hbare.stops (fun _ => isKeyChar_of_isBlank) _)
      (by simpa only [List.append_assoc] using hcontent) hothers
    simpa only [List.flatMap_cons, List.map_cons, writeNumber, List.append_assoc,
      List.cons_append, List.nil_append] using hread

theorem table {table : NumberTable} (hplain : table.IsPlain) {rest : List Char}
    {lines : List Line} (hrest : Reads rest lines) :
    Reads (table.write ++ rest) (table.lines ++ lines) := by
  have hnumbers := hrest.numbers hplain.keys hplain.numbers
  have hfirst : Stops isBlank ('[' :: (table.name.toList ++ [']']) ++ '\n' ::
      ((table.numbers.flatMap fun (key, number) => writeNumber key number) ++ rest)) := by
    rintro c ⟨⟩
    rfl
  have hread := line _ hfirst (by
    simpa only [List.cons_append, List.append_assoc, List.nil_append] using
      content?_header hplain.name _) hnumbers
  have hclose : "]\n".toList = [']', '\n'] := rfl
  simpa only [NumberTable.write, NumberTable.lines, NumberTable.assignments, NumberTable.header,
    hclose, List.map_map, Function.comp_def, List.cons_append, List.append_assoc,
    List.nil_append] using hread

theorem tables {tables : List NumberTable} (hplain : ∀ table ∈ tables, table.IsPlain) :
    Reads (writeTables tables) (linesOf tables) := by
  induction tables with
  | nil => exact nil
  | cons first others ih =>
    have hfirst : first.IsPlain := hplain first List.mem_cons_self
    have hothers := ih fun table hmem => hplain table (List.mem_cons_of_mem _ hmem)
    cases others with
    | nil => simpa only [writeTables, linesOf, List.append_nil] using nil.table hfirst
    | cons second more => exact hothers.blank.table hfirst

end Reads

/-! ## Tables -/

/-- A header with the assignments below it, as they are gathered. -/
def NumberTable.part (table : NumberTable) : Section := ⟨table.header, table.assignments⟩

private theorem gather_assignments (assignments : List Assignment) (lines : List Line) :
    gather (assignments.map .assignment ++ lines) =
      (assignments ++ (gather lines).1, (gather lines).2) := by
  induction assignments with
  | nil => rfl
  | cons assignment others ih => rw [List.map_cons, List.cons_append, gather, ih]; rfl

theorem gather_table (table : NumberTable) (lines : List Line) :
    gather (table.lines ++ lines) =
      ([], ⟨table.header, table.assignments ++ (gather lines).1⟩ :: (gather lines).2) := by
  rw [NumberTable.lines, List.cons_append, gather, gather_assignments]

private theorem gather_linesOf (tables : List NumberTable) :
    gather (linesOf tables) = ([], tables.map NumberTable.part) := by
  induction tables with
  | nil => rfl
  | cons first others ih =>
    cases others with
    | nil =>
      have htable := gather_table first []
      rw [List.append_nil, gather, List.append_nil] at htable
      exact htable
    | cons second more =>
      rw [linesOf, gather_table, gather, ih, List.append_nil]
      · rfl
      · exact List.cons_ne_nil _ _

theorem get?_eq_none {entries : Entries} {key : String} (hnew : key ∉ entries.map Prod.fst) :
    entries.get? key = none := by
  rw [Entries.get?, List.lookup_eq_none_iff]
  intro entry hmem
  rw [bne_iff_ne]
  rintro rfl
  exact hnew (List.mem_map_of_mem hmem)

private theorem assignAll_numbers (entries : Entries) (numbers : List (String × Nat))
    (hdistinct : (entries.map Prod.fst ++ numbers.map Prod.fst).Nodup) :
    entries.assignAll (numbers.map fun entry => ⟨[], entry.1, .integer entry.2⟩) =
      some (entries ++ numbers.map fun entry => (entry.1, .integer entry.2)) := by
  induction numbers generalizing entries with
  | nil => rw [List.map_nil, List.map_nil, List.append_nil]; rfl
  | cons entry others ih =>
    have hnew : entry.1 ∉ entries.map Prod.fst := fun hmem =>
      (List.nodup_append.mp hdistinct).2.2 _ hmem _ (by simp) rfl
    have hassign : entries.assign entry.1 (.integer entry.2) [] =
        some (entries ++ [(entry.1, .integer entry.2)]) := by
      rw [Entries.assign, get?_eq_none hnew]
    have hothers := ih (entries ++ [(entry.1, .integer entry.2)])
      (by simpa [List.append_assoc] using hdistinct)
    rw [Entries.assignAll, List.map_cons, List.foldlM_cons, hassign]
    rw [Entries.assignAll] at hothers
    simpa [List.append_assoc] using hothers

private theorem addSection_table {entries : Entries} {table : NumberTable} (hplain : table.IsPlain)
    (hnew : table.name ∉ entries.map Prod.fst) :
    entries.addSection table.part =
      some (entries ++ [(table.name, .table .header table.entries)]) := by
  have hinner : Entries.assignAll [] table.assignments = some table.entries :=
    assignAll_numbers [] table.numbers hplain.distinct
  rw [Entries.addSection]
  simp only [NumberTable.part, NumberTable.header, Entries.within, Entries.addTable,
    get?_eq_none hnew, hinner, Option.map_some, Bool.false_eq_true, if_false]

theorem foldlM_addSection (entries : Entries) (tables : List NumberTable)
    (hplain : ∀ table ∈ tables, table.IsPlain)
    (hdistinct : (entries.map Prod.fst ++ tables.map NumberTable.name).Nodup) :
    (tables.map NumberTable.part).foldlM Entries.addSection entries =
      some (entries ++ entriesOf tables) := by
  induction tables generalizing entries with
  | nil => rw [entriesOf, List.map_nil, List.map_nil, List.append_nil]; rfl
  | cons table others ih =>
    have hnew : table.name ∉ entries.map Prod.fst := fun hmem =>
      (List.nodup_append.mp hdistinct).2.2 _ hmem _ (by simp) rfl
    have hothers := ih (entries ++ [(table.name, .table .header table.entries)])
      (fun other hmem => hplain other (List.mem_cons_of_mem _ hmem))
      (by simpa [List.append_assoc] using hdistinct)
    rw [List.map_cons, List.foldlM_cons, addSection_table (hplain table List.mem_cons_self) hnew]
    simpa [entriesOf, List.append_assoc] using hothers

private theorem dropByteOrderMark_writeTables (tables : List NumberTable) :
    dropByteOrderMark (writeTables tables) = writeTables tables := by
  match tables with
  | [] => rfl
  | [_] => rfl
  | _ :: _ :: _ => rfl

/-- Plain tables with different names are read back as they were written. -/
theorem parse_writeTables {tables : List NumberTable} (hplain : ∀ table ∈ tables, table.IsPlain)
    (hdistinct : (tables.map NumberTable.name).Nodup) :
    parse (String.ofList (writeTables tables)) = some (entriesOf tables) := by
  have hlines := Reads.tables hplain _ (Nat.lt_succ_self _)
  have hsections := foldlM_addSection [] tables hplain hdistinct
  rw [parse, String.toList_ofList]
  simp only [dropByteOrderMark_writeTables, hlines, gather_linesOf, Entries.ofSections]
  exact hsections

end Multiplex.Toml
