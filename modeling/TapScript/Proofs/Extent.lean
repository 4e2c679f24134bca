import TapScript.Proofs.Program

/-! # Extents of blocks

Blocks are found by counting braces line by line. Among the lines of a program, the block behind a
header reaches exactly as far as the program says, however deep blocks nest in it; so the
definitions that are collected and the branches that follow an `if` are those of the program.

* `Block.cut_lines` says what is cut out behind a header.
* `Function.definitions_lines` says which definitions are found.
* `Line.alternative?_lines` says that no node behind an `if` is taken for one of its branches. -/

namespace TapScript

/-! ## Counting braces -/

/-- The part of a header in front of its parameters is a phrase. -/
def Heading.frontPhrase (h : Heading) : Phrase where
  text := h.front
  closed := (Text.marks_of_forall_not_isQuote h.front_plain.1).1
  braceless := Text.isBraceless_of_forall h.front_plain.1 h.front_plain.2

namespace Block

/-- A header that ends with `) {` opens one block. -/
theorem delta_opening (front inner : Phrase) :
    delta (front.text ++ inner.text ++ ") \x7b".toList) = 1 := by
  rw [delta_append (Text.isClosed_append front.closed inner.closed), delta_append front.closed,
    delta_phrase, delta_phrase]
  rfl

/-- The header of a loop or a branch opens one block. -/
theorem delta_header (keyword : Text) (c : Phrase)
    (hk : keyword ∈ ["while".toList, "if".toList, "else if".toList]) :
    delta (c.header keyword) = 1 := by
  have hfront : Text.isClosed (keyword ++ [' ', '(']) ∧
      Text.isBraceless (keyword ++ [' ', '(']) := by
    simp only [List.mem_cons, List.not_mem_nil, or_false] at hk
    rcases hk with rfl | rfl | rfl <;> exact ⟨rfl, rfl⟩
  have heq : c.header keyword = (keyword ++ [' ', '(']) ++ c.text ++ ") \x7b".toList := by
    simp [Phrase.header, Phrase.wrapped]
  rw [heq]
  exact delta_opening ⟨_, hfront.1, hfront.2⟩ c

/-- The heading of a function opens one block. -/
theorem delta_heading (h : Heading) : delta h.text = 1 := delta_opening h.frontPhrase h.params

/-- Lines that are passed over one after the other are passed over together. -/
theorem map_passed (o : Option Nat) {a b c : Nat} (h : a + b = c) :
    (o.map (· + a)).map (· + b) = o.map (· + c) := by
  subst h
  cases o with
  | none => rfl
  | some k => simp only [Option.map_some, Nat.add_assoc]

/-- A phrase opens and closes nothing, so the search goes on behind it. -/
theorem closedAt?_phrase (p : Phrase) {opened : Int} (h : 0 < opened) (n : Nat) (rest : List Line) :
    closedAt? opened (⟨n, p.text⟩ :: rest) = (closedAt? opened rest).map (· + 1) := by
  simp only [closedAt?, delta_phrase, Int.add_zero]
  rw [if_neg (by omega)]

/-- A block inside another one is passed over, once it is known that its body is. -/
theorem closedAt?_block {header : Text} (hd : delta header = 1) {body : List Line} {opened : Int}
    (h : 0 < opened) (n m : Nat) (rest : List Line)
    (hbody : ∀ rest, closedAt? (opened + 1) (body ++ rest) =
      (closedAt? (opened + 1) rest).map (· + body.length)) :
    closedAt? opened (⟨n, header⟩ :: (body ++ .closing m :: rest)) =
      (closedAt? opened rest).map (· + (body.length + 2)) := by
  have hclose : closedAt? (opened + 1) (Line.closing m :: rest) =
      (closedAt? opened rest).map (· + 1) := by
    have hdelta : delta (Line.closing m).text = -1 := rfl
    simp only [closedAt?, hdelta]
    rw [if_neg (by omega), show opened + 1 + -1 = opened by omega]
  simp only [closedAt?, hd]
  rw [if_neg (by omega), hbody, hclose, map_passed _ rfl]
  exact map_passed _ (by omega)

mutual

/-- Counting braces passes over the lines of a program, however deep blocks nest in it. -/
theorem closedAt?_lines (p : Program) {opened : Int} (h : 0 < opened) (rest : List Line) :
    closedAt? opened (p.lines ++ rest) = (closedAt? opened rest).map (· + p.lines.length) := by
  cases p with
  | nil => simp [Program.lines]
  | cons item p =>
    rw [Program.lines, List.append_assoc, closedAt?_itemLines item h, closedAt?_lines p h,
      List.length_append]
    exact map_passed _ (Nat.add_comm _ _)

/-- The search for the end of a block passes over the lines of an item. -/
theorem closedAt?_itemLines (item : Item) {opened : Int} (h : 0 < opened) (rest : List Line) :
    closedAt? opened (item.lines ++ rest) = (closedAt? opened rest).map
      (· + item.lines.length) := by
  cases item with
  | leaf n t => exact closedAt?_phrase t.toPhrase h n rest
  | leave n word => exact closedAt?_phrase word.phrase h n rest
  | quit n value => exact closedAt?_phrase (Phrase.quit value) h n rest
  | loop n c body m =>
    have hblock := closedAt?_block (delta_header "while".toList c (by simp)) h n m rest
      fun rest => closedAt?_lines body (by omega) rest
    simpa [Item.lines] using hblock
  | choice n c body m others =>
    -- the first block of the chain, then its other branches
    have hblock := closedAt?_block (delta_header "if".toList c (by simp)) h n m
      (others.lines ++ rest) fun rest => closedAt?_lines body (by omega) rest
    rw [closedAt?_branchLines others h] at hblock
    simp only [Item.lines, List.cons_append, List.append_assoc, hblock, List.length_cons,
      List.length_append]
    exact map_passed _ (by omega)
  | define n heading body m =>
    have hblock := closedAt?_block (delta_heading heading) h n m rest
      fun rest => closedAt?_lines body (by omega) rest
    simpa [Item.lines] using hblock

/-- The search for the end of a block passes over the lines of further branches. -/
theorem closedAt?_branchLines (b : Branches) {opened : Int} (h : 0 < opened) (rest : List Line) :
    closedAt? opened (b.lines ++ rest) = (closedAt? opened rest).map (· + b.lines.length) := by
  cases b with
  | done => simp [Branches.lines]
  | otherwise n body m =>
    have hblock := closedAt?_block (show delta "else \x7b".toList = 1 from rfl) h n m rest
      fun rest => closedAt?_lines body (by omega) rest
    simpa [Branches.lines] using hblock
  | orElse n c body m others =>
    have hblock := closedAt?_block (delta_header "else if".toList c (by simp)) h n m
      (others.lines ++ rest) fun rest => closedAt?_lines body (by omega) rest
    rw [closedAt?_branchLines others h] at hblock
    simp only [Branches.lines, List.cons_append, List.append_assoc, hblock, List.length_cons,
      List.length_append]
    exact map_passed _ (by omega)

end

/-- The block behind a header ends at the line that closes it. -/
theorem finish_lines {header : Text} (hd : delta header = 1) (n m : Nat) (body : Program)
    (rest : List Line) :
    finish (⟨n, header⟩ :: (body.lines ++ .closing m :: rest)) 0 = body.lines.length + 1 := by
  have hclosed : closedAt? 1 (body.lines ++ .closing m :: rest) = some body.lines.length := by
    -- the brace brings the count back to zero
    have hclose : closedAt? 1 (Line.closing m :: rest) = some 0 := rfl
    rw [closedAt?_lines body (by omega), hclose, Option.map_some, Nat.zero_add]
  simp only [finish, List.drop_zero, hd, hclosed]
  omega

/-- The body of a block is what stands between its header and its closing brace. -/
theorem body_lines (header : Line) (m : Nat) (body : Program) (rest : List Line) :
    Block.body (header :: (body.lines ++ .closing m :: rest)) 0 (body.lines.length + 1) =
      body.lines := by
  have hlast : (header :: (body.lines ++ Line.closing m :: rest))[body.lines.length + 1]? =
      some (.closing m) := by simp
  rw [Block.body, if_neg (by omega), hlast]
  simp [Line.closing]

/-- What is cut out behind a header is the body that was written there. -/
theorem cut_lines {header : Text} (hd : delta header = 1) (n m : Nat) (body : Program)
    (rest : List Line) :
    cut (⟨n, header⟩ :: (body.lines ++ .closing m :: rest)) = (body.lines, rest) := by
  rw [cut, finish_lines hd, body_lines]
  simp [List.drop_append]

end Block

/-! ## Definitions -/

/-- A definition of a program. -/
structure Definition where
  heading : Heading
  body : Program

/-- The function that a definition defines. -/
def Definition.function (d : Definition) : Function :=
  ⟨d.heading.name, Function.parameters d.heading.params.text, d.body.lines⟩

mutual

/-- The definitions of a program, with the numbers of their first lines. Those inside another
definition do not count. -/
def Program.definitions : Program → List (Nat × Definition)
  | .nil => []
  | .cons item rest => item.definitions ++ rest.definitions

/-- The functions that an item defines, outside all other functions, and in which line. -/
def Item.definitions : Item → List (Nat × Definition)
  | .leaf _ _ | .leave _ _ | .quit _ _ => []
  | .loop _ _ body _ => body.definitions
  | .choice _ _ body _ others => body.definitions ++ others.definitions
  | .define n h body _ => [(n, ⟨h, body⟩)]

/-- The functions that are defined in further branches. -/
def Branches.definitions : Branches → List (Nat × Definition)
  | .done => []
  | .otherwise _ body _ => body.definitions
  | .orElse _ _ body _ others => body.definitions ++ others.definitions

end

namespace Function

/-- The definitions as they are found among lines. -/
def found (ds : List (Nat × Definition)) : List (Nat × Function) :=
  ds.map fun (n, d) => (n, d.function)

/-- Lines that are passed over define nothing. -/
theorem definitions_skip (lines rest : List Line) :
    definitions lines.length (lines ++ rest) = definitions 0 rest := by
  induction lines with
  | nil => rfl
  | cons line lines ih => exact ih

/-- A line without a heading defines nothing. -/
theorem definitions_cons_of_header?_eq_none {t : Text} (h : header? t = none) (n : Nat)
    (rest : List Line) : definitions 0 (⟨n, t⟩ :: rest) = definitions 0 rest := by
  simp only [definitions, h]

/-- A phrase defines nothing. -/
theorem definitions_phrase (p : Phrase) (n : Nat) (rest : List Line) :
    definitions 0 (⟨n, p.text⟩ :: rest) = definitions 0 rest :=
  definitions_cons_of_header?_eq_none (header?_phrase p) n rest

/-- A header that is no definition and the closing brace behind its block add nothing. -/
theorem definitions_block {header : Text} (h : header? header = none) {body : List Line}
    {ds : List (Nat × Function)} (n m : Nat) (rest : List Line)
    (hbody : ∀ rest, definitions 0 (body ++ rest) = ds ++ definitions 0 rest) :
    definitions 0 (⟨n, header⟩ :: (body ++ .closing m :: rest)) = ds ++ definitions 0 rest := by
  rw [definitions_cons_of_header?_eq_none h, hbody, Line.closing,
    definitions_cons_of_header?_eq_none (show header? Line.closer = none from rfl)]

mutual

/-- The definitions of a program are found among its lines. -/
theorem definitions_lines (p : Program) (rest : List Line) :
    definitions 0 (p.lines ++ rest) = found p.definitions ++ definitions 0 rest := by
  cases p with
  | nil => rfl
  | cons item p =>
    rw [Program.lines, Program.definitions, List.append_assoc, definitions_itemLines item,
      definitions_lines p]
    simp [found]

/-- In the lines of an item, its definitions are found. -/
theorem definitions_itemLines (item : Item) (rest : List Line) :
    definitions 0 (item.lines ++ rest) = found item.definitions ++ definitions 0 rest := by
  cases item with
  | leaf n t =>
    rw [Item.lines, List.singleton_append, definitions_phrase]
    rfl
  | leave n word =>
    rw [Item.lines, List.singleton_append, definitions_phrase]
    rfl
  | quit n value =>
    rw [Item.lines, List.singleton_append, definitions_phrase]
    rfl
  | loop n c body m =>
    have hblock := definitions_block (header?_loop c) n m rest (definitions_lines body)
    simpa [Item.lines, Item.definitions] using hblock
  | choice n c body m others =>
    have hblock := definitions_block (header?_branch c) n m (others.lines ++ rest)
      (definitions_lines body)
    rw [definitions_branchLines others] at hblock
    simpa [Item.lines, Item.definitions, found] using hblock
  | define n heading body m =>
    have hdelta := Block.delta_heading heading
    simp only [Item.lines, List.cons_append, List.append_assoc, List.nil_append, definitions,
      heading.header?_text, Block.finish_lines hdelta, Block.body_lines]
    -- the lines of the block are skipped, and with them the definitions inside
    have hskip := definitions_skip (body.lines ++ [Line.closing m]) rest
    rw [List.length_append, List.append_assoc] at hskip
    exact congrArg _ hskip

/-- In the lines of further branches, their definitions are found. -/
theorem definitions_branchLines (b : Branches) (rest : List Line) :
    definitions 0 (b.lines ++ rest) = found b.definitions ++ definitions 0 rest := by
  cases b with
  | done => rfl
  | otherwise n body m =>
    have hblock := definitions_block header?_otherwise n m rest (definitions_lines body)
    simpa [Branches.lines, Branches.definitions] using hblock
  | orElse n c body m others =>
    have hblock := definitions_block (header?_alternative c) n m (others.lines ++ rest)
      (definitions_lines body)
    rw [definitions_branchLines others] at hblock
    simpa [Branches.lines, Branches.definitions, found] using hblock

end

end Function

/-! ## Branches -/

namespace Line

/-- The header of an alternative with a condition is read back. -/
theorem alternative?_header (c : Phrase) :
    alternative? (c.header "else if".toList) = some (some c.wrapped) := by
  have hafter : Text.after? "else".toList (c.header "else if".toList) =
      some (' ' :: c.header "if".toList) := rfl
  have hstart : Text.trimStart (' ' :: c.header "if".toList) = c.header "if".toList := rfl
  rw [alternative?, hafter]
  simp only [Option.bind_eq_bind, Option.bind_some, hstart, condition?_header]
  rfl

/-- The first line of a program is not taken for the next branch of an `if` in front of it. -/
theorem alternative?_lines (p : Program) :
    (p.lines.head?.bind fun next => alternative? next.text) = none := by
  cases p with
  | nil => rfl
  | cons item rest =>
    cases item with
    | leaf n t => exact alternative?_eq_none t.toPhrase.getLast?
    | leave n word => exact alternative?_eq_none word.phrase.getLast?
    | quit n value => exact alternative?_eq_none (Phrase.quit value).getLast?
    -- `while` and `if` do not start with `else`
    | loop n c body m => rfl
    | choice n c body m others => rfl
    | define n h body m => exact h.alternative?_text

end Line

end TapScript
