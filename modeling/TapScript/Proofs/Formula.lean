import TapScript.Proofs.LoopTest
import TapScript.Proofs.Separation

/-! # Formulas

A **formula** is a condition as a tree: constants, the stop flag, comparisons, and `!`, `&&` and
`||` above them. It is written with parentheses around every part that is not an atom, and read back
by cutting the text again and again.

* `Condition.read_eq_all`, `Condition.read_eq_any` and `Condition.read_simple` say how a text is
  read, with no bound on its depth.
* `Environment.holds_link_and` and `Environment.holds_link_or` decide two conditions with a sign
  between them.
* `Formula.render` writes a formula, `Formula.value` is its value; `holds_follows_formula` says that
  the text has the value of the tree. -/

namespace TapScript

/-! ## Verdicts -/

/-- How something is decided: from the dice before it, whether it holds, and the dice behind it. -/
abbrev Verdict := Dice → Bool × Dice

namespace Verdict

/-- The verdict turned around. -/
def not (x : Verdict) : Verdict := fun d =>
  let (b, d) := x d
  (!b, d)

/-- Both hold; the second is looked at only if the first holds. -/
def and (x y : Verdict) : Verdict := fun d =>
  let (b, d) := x d
  if b then y d else (false, d)

/-- One of them holds; the second is looked at only if the first does not hold. -/
def or (x y : Verdict) : Verdict := fun d =>
  let (b, d) := x d
  if b then (true, d) else y d

/-- A conjunction of three verdicts may be grouped either way, also as to which dice are rolled. -/
theorem and_assoc (x y z : Verdict) : (x.and y).and z = x.and (y.and z) := by
  funext d
  by_cases hx : (x d).1 = true
  · simp [and, hx]
  · simp [and, hx]

/-- A disjunction of three verdicts may be grouped either way, also as to which dice are rolled. -/
theorem or_assoc (x y z : Verdict) : (x.or y).or z = x.or (y.or z) := by
  funext d
  by_cases hx : (x d).1 = true
  · simp [or, hx]
  · simp [or, hx]

end Verdict

/-- Equality and its opposite compare texts, the other signs compare numbers. -/
def Environment.compares (env : Environment) (op : Comparison) (left right : Text) :
    Verdict := fun d =>
  match op with
  | .eq =>
    let (l, d) := env.resolve left d
    let (r, d) := env.resolve right d
    (l.toText == r.toText, d)
  | .ne =>
    let (l, d) := env.resolve left d
    let (r, d) := env.resolve right d
    (l.toText != r.toText, d)
  | op =>
    let (l, d) := env.resolveNumber left d
    let (r, d) := env.resolveNumber right d
    (op.onNumbers l r, d)

/-- Blanks around the sides of a comparison do not matter. -/
theorem Environment.compares_congr (env : Environment) (op : Comparison) {l l' r r' : Text}
    (hl : Text.trim l = Text.trim l') (hr : Text.trim r = Text.trim r') :
    env.compares op l r = env.compares op l' r' := by
  funext d
  cases op <;> simp only [compares, resolveNumber, resolve, hl, hr]

namespace Condition

variable (env : Environment)

/-- A comparison holds if its sides compare so. -/
theorem holds_compare (op : Comparison) (l r : Text) :
    (compare op l r).holds env = env.compares op l r := by
  cases op <;> rfl

/-- Conditions that are joined one after the other can be joined in two groups. -/
theorem holds_append {join : List Condition → Condition} {op : Verdict → Verdict → Verdict}
    (hone : ∀ c, join [c] = c)
    (hcons : ∀ c c' cs,
      (join (c :: c' :: cs)).holds env = op (c.holds env) ((join (c' :: cs)).holds env))
    (hassoc : ∀ x y z, op (op x y) z = op x (op y z)) {cs ds : List Condition} (hcs : cs ≠ [])
    (hds : ds ≠ []) :
    (join (cs ++ ds)).holds env = op ((join cs).holds env) ((join ds).holds env) := by
  induction cs with
  | nil => exact absurd rfl hcs
  | cons c cs ih =>
    cases cs with
    | nil =>
      cases ds with
      | nil => exact absurd rfl hds
      | cons d ds => rw [List.singleton_append, hcons, hone]
    | cons c' cs =>
      have ih := ih (by simp)
      rw [List.cons_append] at ih
      rw [List.cons_append, List.cons_append, hcons, ih, ← hassoc, ← hcons]

/-- A conjunction of two groups is that of the conjunctions. -/
theorem holds_all_append {cs ds : List Condition} (hcs : cs ≠ []) (hds : ds ≠ []) :
    (all (cs ++ ds)).holds env = Verdict.and ((all cs).holds env) ((all ds).holds env) :=
  holds_append env (fun _ => rfl) (fun _ _ _ => rfl) Verdict.and_assoc hcs hds

/-- A disjunction of two groups is that of the disjunctions. -/
theorem holds_any_append {cs ds : List Condition} (hcs : cs ≠ []) (hds : ds ≠ []) :
    (any (cs ++ ds)).holds env = Verdict.or ((any cs).holds env) ((any ds).holds env) :=
  holds_append env (fun _ => rfl) (fun _ _ _ => rfl) Verdict.or_assoc hcs hds

/-! ## Reading without a bound -/

/-- If there are several parts, then each is shorter than the text. -/
theorem length_lt_of_mem_split {p t part : Text} (h : 1 < (Text.split p t).length)
    (hpart : part ∈ Text.split p t) : part.length < t.length := by
  have hle := Text.Mark.length_add_length_parts_le 0 0 (Text.marks t) part hpart
  rw [Text.length_marks, ← Text.split_eq_parts] at hle
  omega

/-- What stands in the parentheses of a text is shorter than the text. -/
theorem length_lt_of_unwrap? {t inner : Text} (h : Text.unwrap? t = some inner) :
    inner.length < t.length := by
  unfold Text.unwrap? at h
  split at h
  · rename_i r
    split at h
    · rename_i inner' hclosing
      cases h
      have hchars := congrArg List.length (Text.Mark.chars_of_closing? hclosing)
      rw [Text.chars_marks, List.length_append] at hchars
      simp only [List.length_cons, List.length_nil] at hchars ⊢
      omega
    · cases h
  · cases h

/-- What stands behind a negation is shorter than the text. -/
theorem length_lt_of_negated? {t rest : Text} (h : negated? t = some rest) :
    rest.length < t.length := by
  unfold negated? at h
  split at h
  · split at h
    · cases h
    · cases h
      simp
  · cases h

/-- Every bound beyond the length of the text gives the same reading. -/
theorem readUpTo_eq_readUpTo {fuel fuel' : Nat} {t : Text} (h : t.length < fuel)
    (h' : t.length < fuel') : readUpTo fuel t = readUpTo fuel' t := by
  induction fuel generalizing fuel' t with
  | zero => cases h
  | succ fuel ih =>
    cases fuel' with
    | zero => cases h'
    | succ fuel' =>
      have hle := Text.trim_length_le t
      -- everything that is read next is shorter than the trimmed text
      have hread : ∀ s : Text, s.length < (Text.trim t).length →
          readUpTo fuel s = readUpTo fuel' s :=
        fun s hs => ih (by omega) (by omega)
      simp only [readUpTo]
      split
      · rename_i hsplit
        rw [List.map_congr_left fun s hs => hread s (length_lt_of_mem_split hsplit hs)]
      · split
        · rename_i hsplit
          rw [List.map_congr_left fun s hs => hread s (length_lt_of_mem_split hsplit hs)]
        · cases hunwrap : Text.unwrap? (Text.trim t) with
          | some inner => exact hread inner (length_lt_of_unwrap? hunwrap)
          | none =>
            cases hneg : negated? (Text.trim t) with
            | some rest => exact congrArg not (hread rest (length_lt_of_negated? hneg))
            | none => rfl

/-- All readings with enough fuel for the length of the text agree. -/
theorem readUpTo_eq_read {fuel : Nat} {t : Text} (h : t.length < fuel) : readUpTo fuel t = read t :=
  readUpTo_eq_readUpTo h (Nat.lt_succ_self _)

/-- Blanks around a condition are not read. -/
theorem read_trim (t : Text) : read (Text.trim t) = read t := by
  have hle := Text.trim_length_le t
  have hbound : readUpTo (t.length + 1) (Text.trim t) = read (Text.trim t) :=
    readUpTo_eq_read (by omega)
  rw [← hbound, read]
  exact readUpTo_congr (Text.trim_trim t) t.length

/-- Nor are blanks around the parts of a condition. -/
theorem map_read_trim (xs : List Text) : (xs.map Text.trim).map read = xs.map read := by
  rw [List.map_map]
  refine List.map_congr_left fun t _ => ?_
  rw [Function.comp_apply, read_trim]

/-- A text is in one part exactly if its trimmed form is. -/
theorem length_split_trim_le_one_iff {p : Text} (hp : Text.isSymbol p) {t : Text} :
    ¬1 < (Text.split p (Text.trim t)).length ↔ Text.split p t = [t] := by
  have hlength := congrArg List.length (Text.map_trim_split_trim hp t)
  rw [List.length_map, List.length_map] at hlength
  rw [hlength, Nat.not_lt]
  constructor
  · exact Text.split_eq_singleton_of_length_le
  · intro h
    exact Nat.le_of_eq (by rw [h, List.length_singleton])

/-- The parts of the trimmed form are read as the parts of the text are. -/
theorem map_readUpTo_split_trim {p : Text} (hp : Text.isSymbol p) {t : Text}
    (h : 1 < (Text.split p (Text.trim t)).length) :
    (Text.split p (Text.trim t)).map (readUpTo t.length) = (Text.split p t).map read := by
  have hread : ∀ s ∈ Text.split p (Text.trim t), readUpTo t.length s = read s := by
    intro s hs
    have hle := Text.trim_length_le t
    have hlt := length_lt_of_mem_split h hs
    exact readUpTo_eq_read (by omega)
  rw [List.map_congr_left hread, ← map_read_trim, Text.map_trim_split_trim hp, map_read_trim]

/-- A text is the conjunction of its parts between `&&`, be there one or more. -/
theorem read_eq_all (t : Text) : read t = all ((Text.split ['&', '&'] t).map read) := by
  by_cases hmany : 1 < (Text.split ['&', '&'] (Text.trim t)).length
  · rw [read, readUpTo, if_pos hmany, map_readUpTo_split_trim rfl hmany]
  · rw [(length_split_trim_le_one_iff rfl).1 hmany]
    rfl

/-- A text that is not cut at `&&` is the disjunction of its parts between `||`. -/
theorem read_eq_any {t : Text} (h : Text.split ['&', '&'] t = [t]) :
    read t = any ((Text.split ['|', '|'] t).map read) := by
  by_cases hmany : 1 < (Text.split ['|', '|'] (Text.trim t)).length
  · rw [read, readUpTo, if_neg ((length_split_trim_le_one_iff rfl).2 h), if_pos hmany,
      map_readUpTo_split_trim rfl hmany]
  · rw [(length_split_trim_le_one_iff rfl).1 hmany]
    rfl

/-- A text that is not cut is what stands in its parentheses, a negation or an atom. -/
theorem read_simple {t : Text} (hand : Text.split ['&', '&'] t = [t])
    (hor : Text.split ['|', '|'] t = [t]) : read t = match Text.unwrap? (Text.trim t) with
      | some inner => read inner
      | none => match negated? (Text.trim t) with
        | some rest => not (read rest)
        | none => atom (Text.trim t) := by
  have hle := Text.trim_length_le t
  rw [read, readUpTo, if_neg ((length_split_trim_le_one_iff rfl).2 hand),
    if_neg ((length_split_trim_le_one_iff rfl).2 hor)]
  cases hunwrap : Text.unwrap? (Text.trim t) with
  | some inner =>
    have hlt := length_lt_of_unwrap? hunwrap
    exact readUpTo_eq_read (by omega)
  | none =>
    cases hneg : negated? (Text.trim t) with
    | some rest =>
      have hlt := length_lt_of_negated? hneg
      exact congrArg not (readUpTo_eq_read (by omega))
    | none => rfl

end Condition

/-! ## Signs between conditions -/

namespace Environment

variable (env : Environment)

/-- `&&` between two conditions is their conjunction. -/
theorem holds_link_and {s : Text} (hs : Text.IsWhole s) (t : Text) :
    env.holds (Text.link ['&', '&'] s t) = Verdict.and (env.holds s) (env.holds t) := by
  have hread : Condition.read (Text.link ['&', '&'] s t) = Condition.all
      ((Text.split ['&', '&'] s).map Condition.read ++
        (Text.split ['&', '&'] t).map Condition.read) := by
    rw [Condition.read_eq_all, ← Condition.map_read_trim, Text.map_trim_split_link rfl hs,
      Condition.map_read_trim, List.map_append]
  funext d
  rw [holds, hread, Condition.holds_all_append env (by simp [Text.split]) (by simp [Text.split]),
    ← Condition.read_eq_all, ← Condition.read_eq_all]
  rfl

/-- `||` between two conditions is their disjunction, unless one of them has to be cut at `&&`
first. -/
theorem holds_link_or {s t : Text} (hs : Text.IsWhole s) (h : ¬Text.OccursAtTop ['&', '&'] s)
    (h' : ¬Text.OccursAtTop ['&', '&'] t) :
    env.holds (Text.link ['|', '|'] s t) = Verdict.or (env.holds s) (env.holds t) := by
  have h : Text.split ['&', '&'] s = [s] := Text.split_eq_singleton rfl h
  have h' : Text.split ['&', '&'] t = [t] := Text.split_eq_singleton rfl h'
  have hother : ∀ c ∈ ['|', '|'], c ∉ ['&', '&'] := by simp
  have hlink := Text.split_link_eq_singleton (p := ['&', '&']) (q := ['|', '|']) rfl rfl
    hother hs h h'
  have hread : Condition.read (Text.link ['|', '|'] s t) = Condition.any
      ((Text.split ['|', '|'] s).map Condition.read ++
        (Text.split ['|', '|'] t).map Condition.read) := by
    rw [Condition.read_eq_any hlink, ← Condition.map_read_trim, Text.map_trim_split_link rfl hs,
      Condition.map_read_trim, List.map_append]
  -- neither side is cut at `&&`, so each of them is what its parts between `||` are
  funext d
  rw [holds, hread, Condition.holds_any_append env (by simp [Text.split]) (by simp [Text.split]),
    ← Condition.read_eq_any h, ← Condition.read_eq_any h']
  rfl

/-- Parentheses around a condition do not matter. -/
theorem holds_wrap {t : Text} (ht : Text.IsWhole t) : env.holds (Text.wrap t) = env.holds t := by
  have hread : Condition.read (Text.wrap t) = Condition.read t := by
    rw [Condition.read_simple (Text.split_eq_singleton rfl (Text.not_occursAtTop_wrap rfl ht))
      (Text.split_eq_singleton rfl (Text.not_occursAtTop_wrap rfl ht)), Text.trim_wrap,
        ht.unwrap?_wrap]
  funext d
  rw [holds, holds, hread]

/-- A `!` negates what follows, if that is neither cut nor starts with `=`. -/
theorem holds_cons_not {t : Text} (hand : ¬Text.OccursAtTop ['&', '&'] t)
    (hor : ¬Text.OccursAtTop ['|', '|'] t) (hhead : t.head? ≠ some '=') :
    env.holds ('!' :: t) = Verdict.not (env.holds t) := by
  obtain ⟨right, htext, -⟩ := Text.exists_eq_trimEnd t
  have hneg : Condition.negated? ('!' :: Text.trimEnd t) = some (Text.trimEnd t) := by
    have hne : (Text.trimEnd t).head? ≠ some '=' := by
      intro heq
      rw [htext, List.head?_append, heq] at hhead
      exact hhead rfl
    rw [Condition.negated?, if_neg hne]
  have hrest : Condition.read (Text.trimEnd t) = Condition.read t := by
    rw [← Condition.read_trim, Text.trim_trimEnd, Condition.read_trim]
  have hread : Condition.read ('!' :: t) = Condition.not (Condition.read t) := by
    have hsingle : ∀ p, Text.isSymbol p → '!' ∉ p → ¬Text.OccursAtTop p t →
        Text.split p ('!' :: t) = ['!' :: t] := fun p hp hmem h =>
      Text.split_eq_singleton hp
        (Text.not_occursAtTop_cons rfl (by decide) hmem (Text.ne_nil_of_isSymbol hp) h)
    rw [Condition.read_simple (hsingle _ rfl (by decide) hand) (hsingle _ rfl (by decide) hor),
      Text.trim_cons rfl, ← hrest]
    show (match Condition.negated? ('!' :: Text.trimEnd t) with
      | some rest => Condition.not (Condition.read rest)
      | none => Condition.atom ('!' :: Text.trimEnd t)) = _
    rw [hneg]
  funext d
  rw [holds, hread]
  rfl

end Environment

/-! ## Comparisons -/

/-- The signs at which a condition is cut. -/
def Condition.connectives : List Text := [['&', '&'], ['|', '|']]

/-- The signs that a condition is searched for. -/
def Condition.signs : List Text := connectives ++ Comparison.all.map Comparison.sign

/-- The signs of conditions can be searched for in texts. -/
theorem Condition.isSymbol_of_mem_signs {p : Text} (h : p ∈ signs) : Text.isSymbol p :=
  List.all_eq_true.1 (show signs.all Text.isSymbol = true from rfl) p h

/-- The sign of a comparison is one of the signs of conditions. -/
theorem Comparison.sign_mem_signs (op : Comparison) : op.sign ∈ Condition.signs := by
  cases op <;> decide

/-- The sign of a comparison can be searched for in texts. -/
theorem Comparison.isSymbol_sign (op : Comparison) : Text.isSymbol op.sign :=
  Condition.isSymbol_of_mem_signs op.sign_mem_signs

/-- A side of a comparison: a visible text that leaves nothing open, has no signs of its own outside
its literals, and does not start with a `!`. -/
structure Comparand where
  text : Text
  visible : Text.trim text ≠ []
  whole : Text.IsWhole text
  unsigned : ∀ p ∈ Condition.signs, ¬Text.Occurs p text
  unnegated : (Text.trim text).head? ≠ some '!'

namespace Comparand

variable (x : Comparand)

/-- Without the blanks in front of it, a side of a comparison is still whole. -/
theorem isWhole_trimStart : Text.IsWhole (Text.trimStart x.text) := by
  obtain ⟨left, htext, hleft⟩ := Text.exists_eq_trimStart x.text
  have hwhole := x.whole
  rw [htext] at hwhole
  exact ((Text.isWhole_of_blank hleft).isWhole_append_iff _).1 hwhole

/-- A side of a comparison begins with something other than a negation. -/
theorem head?_trimStart : ∃ c t, Text.trimStart x.text = c :: t ∧ c ≠ '!' := by
  obtain ⟨right, htext, -⟩ := Text.exists_eq_trimEnd (Text.trimStart x.text)
  have hhead := x.unnegated
  cases htrim : Text.trim x.text with
  | nil => exact absurd htrim x.visible
  | cons c t =>
    rw [htrim, List.head?_cons] at hhead
    rw [Text.trim] at htrim
    rw [htrim] at htext
    exact ⟨c, t ++ right, htext, fun hc => hhead (by rw [hc])⟩

/-- A side of a comparison is more than blanks. -/
theorem trimEnd_ne_nil : Text.trimEnd x.text ≠ [] := by
  intro hnil
  have htrim := Text.trim_trimEnd x.text
  rw [hnil] at htrim
  exact x.visible htrim.symm

/-- Without the blanks in front of it, a side has no sign of a condition. -/
theorem not_occurs_trimStart {p : Text} (hp : p ∈ Condition.signs) :
    ¬Text.Occurs p (Text.trimStart x.text) := by
  intro h
  obtain ⟨left, htext, hleft⟩ := Text.exists_eq_trimStart x.text
  refine x.unsigned p hp ?_
  rw [htext]
  exact h.append_left (Text.isWhole_of_blank hleft).closed

/-- Without the blanks at its end, a side has no sign of a condition. -/
theorem not_occurs_trimEnd {p : Text} (hp : p ∈ Condition.signs) :
    ¬Text.Occurs p (Text.trimEnd x.text) := by
  intro h
  obtain ⟨right, htext, -⟩ := Text.exists_eq_trimEnd x.text
  refine x.unsigned p hp ?_
  rw [htext]
  exact h.append_right right

/-- Trimming a comparison trims its sides on the outside. -/
theorem trim_link (op : Comparison) (l r : Comparand) :
    Text.trim (Text.link op.sign l.text r.text) = Text.link op.sign (Text.trimStart l.text)
    (Text.trimEnd r.text) := by
  have hstart : Text.trimStart l.text ≠ [] := by
    obtain ⟨c, t, htext, -⟩ := l.head?_trimStart
    simp [htext]
  have hend : ∀ s : Text, Text.trimEnd (s ++ r.text) = s ++ Text.trimEnd r.text :=
    Text.trimEnd_append r.trimEnd_ne_nil
  have hlink : ∀ s t : Text, Text.link op.sign s t = s ++ (' ' :: op.sign ++ [' ']) ++ t := by
    intro s t
    simp [Text.link]
  rw [hlink, hlink, Text.trim, List.append_assoc, Text.trimStart_append hstart, ← List.append_assoc,
    hend]

/-- There is no `&&` and no `||` in a comparison. -/
theorem not_occurs_link (op : Comparison) (l r : Comparand) {p : Text}
    (hp : p ∈ Condition.connectives) : ¬Text.Occurs p (Text.link op.sign l.text r.text) := by
  have hsigns : p ∈ Condition.signs := List.mem_append_left _ hp
  have hsymbol := Condition.isSymbol_of_mem_signs hsigns
  have hall : ∀ p ∈ Condition.connectives, Text.find? p op.sign = none := by
    cases op <;> decide
  exact Text.not_occurs_link hsymbol op.isSymbol_sign l.whole.closed (l.unsigned p hsigns)
    (r.unsigned p hsigns) ((Text.find?_eq_none_iff hsymbol).1 (hall p hp))

end Comparand

/-- No sign that is searched for earlier stands in a sign. -/
theorem Comparison.exists_all_eq_append (op : Comparison) : ∃ earlier later : List Comparison,
    Comparison.all = earlier ++ op :: later ∧ ∀ op' ∈ earlier,
      Text.find? op'.sign op.sign = none := by
  cases op with
  | ge => exact ⟨[], _, rfl, by decide⟩
  | le => exact ⟨[ge], _, rfl, by decide⟩
  | ne => exact ⟨[ge, le], _, rfl, by decide⟩
  | eq => exact ⟨[ge, le, ne], _, rfl, by decide⟩
  | gt => exact ⟨[ge, le, ne, eq], _, rfl, by decide⟩
  | lt => exact ⟨[ge, le, ne, eq, gt], _, rfl, by decide⟩

/-- Texts without signs are compared by the sign between them. -/
theorem Condition.comparison?_link (op : Comparison) {s t : Text} (hs : Text.isClosed s)
    (h : ∀ p ∈ signs, ¬Text.Occurs p s) (h' : ∀ p ∈ signs, ¬Text.Occurs p t) :
    comparison? (Text.link op.sign s t) = some (compare op (s ++ [' ']) (' ' :: t)) := by
  obtain ⟨earlier, later, hall, hearlier⟩ := op.exists_all_eq_append
  -- the signs are tried in a fixed order over the whole text
  have hnone : ∀ op' ∈ earlier, Text.find? op'.sign (Text.link op.sign s t) = none := by
    intro op' hop'
    have hsymbol := op'.isSymbol_sign
    have hlink := Text.not_occurs_link hsymbol op.isSymbol_sign hs (h _ op'.sign_mem_signs)
      (h' _ op'.sign_mem_signs) ((Text.find?_eq_none_iff hsymbol).1 (hearlier op' hop'))
    exact (Text.find?_eq_none_iff hsymbol).2 hlink
  rw [comparison?, hall, List.findSome?_append, List.findSome?_eq_none_iff.2, Option.none_or,
    List.findSome?_cons, Text.find?_link op.isSymbol_sign hs (h _ op.sign_mem_signs)]
  · rfl
  · intro op' hop'
    rw [hnone op' hop', Option.map_none]

/-- A text with a sign between blanks in it is none of the words, so the sign decides what it is. -/
theorem Condition.atom_link (op : Comparison) {s t : Text} (hs : Text.isClosed s)
    (h : ∀ p ∈ signs, ¬Text.Occurs p s) (h' : ∀ p ∈ signs, ¬Text.Occurs p t) :
    atom (Text.link op.sign s t) = compare op (s ++ [' ']) (' ' :: t) := by
  have hempty : (Text.link op.sign s t).isEmpty = false := by
    simp [Text.link]
  have hword : ∀ w : Text, ' ' ∉ w → (Text.link op.sign s t == w) = false := by
    intro w hw
    rw [beq_eq_false_iff_ne]
    rintro rfl
    exact hw (by simp [Text.link])
  rw [atom, hempty, hword _ (by decide), hword _ (by decide), hword _ (by decide),
    comparison?_link op hs h h']
  rfl

/-- A comparison is neither cut, nor in parentheses, nor negated. -/
theorem Comparand.read_link (op : Comparison) (l r : Comparand) :
    Condition.read (Text.link op.sign l.text r.text) =
      .compare op (Text.trimStart l.text ++ [' ']) (' ' :: Text.trimEnd r.text) := by
  have hsingle : ∀ p ∈ Condition.connectives,
      Text.split p (Text.link op.sign l.text r.text) = [Text.link op.sign l.text r.text] := by
    intro p hp
    refine Text.split_eq_singleton (Condition.isSymbol_of_mem_signs (List.mem_append_left _ hp)) ?_
    exact fun h => not_occurs_link op l r hp h.occurs
  obtain ⟨c, t, hstart, hc⟩ := l.head?_trimStart
  have hunwrap : Text.unwrap? (Text.link op.sign (Text.trimStart l.text) (Text.trimEnd r.text)) =
      none := by
    rw [Text.link, List.append_assoc]
    exact l.isWhole_trimStart.unwrap?_append (by simp [hstart]) (by simp)
  have hneg : Condition.negated? (Text.link op.sign (Text.trimStart l.text) (Text.trimEnd r.text)) =
      none := by
    rw [Text.link, hstart, List.cons_append, List.cons_append, Condition.negated?]
    exact fun _ h => hc (List.cons.inj h).1
  rw [Condition.read_simple (hsingle _ (by decide)) (hsingle _ (by decide)), trim_link, hunwrap]
  show (match Condition.negated? (Text.link op.sign (Text.trimStart l.text)
    (Text.trimEnd r.text)) with
    | some rest => Condition.not (Condition.read rest)
    | none => _) = _
  rw [hneg, Condition.atom_link op l.isWhole_trimStart.closed (fun _ => l.not_occurs_trimStart)
    fun _ => r.not_occurs_trimEnd]

/-- A comparison is decided by its sign. -/
theorem Environment.holds_link_compare (env : Environment) (op : Comparison) (l r : Comparand) :
    env.holds (Text.link op.sign l.text r.text) = env.compares op l.text r.text := by
  have hblank : ∀ c ∈ [' '], Text.isBlank c := by simp [Text.isBlank]
  have hleft : Text.trim (Text.trimStart l.text ++ [' ']) = Text.trim l.text := by
    rw [Text.trim_append_blank hblank, Text.trim_trimStart]
  have hright : Text.trim (' ' :: Text.trimEnd r.text) = Text.trim r.text := by
    rw [← List.singleton_append, Text.trim_blank_append hblank, Text.trim_trimEnd]
  funext d
  rw [holds, Comparand.read_link, Condition.holds_compare, env.compares_congr op hleft hright]

/-! ## Formulas -/

/-- A condition as a tree. -/
inductive Formula where
  | const (b : Bool)
  /-- Whether a stop has been requested. -/
  | exit
  | compare (op : Comparison) (left right : Comparand)
  | not (f : Formula)
  | and (f g : Formula)
  | or (f g : Formula)

namespace Formula

/-- The value of the tree, from left to right and no further than needed. -/
def value (env : Environment) : Formula → Verdict
  | const b => fun d => (b, d)
  | exit => fun d => (env.exit, d)
  | compare op l r => env.compares op l.text r.text
  | not f => (f.value env).not
  | and f g => (f.value env).and (g.value env)
  | or f g => (f.value env).or (g.value env)

/-- Everything but an atom. -/
def isCompound : Formula → Bool
  | const _ => false
  | exit => false
  | compare _ _ _ => false
  | not _ => true
  | and _ _ => true
  | or _ _ => true

/-- The text, in parentheses if need be. -/
def guarded (needed : Bool) (t : Text) : Text := if needed then Text.wrap t else t

/-- The formula as a text. Parts that are not atoms stand in parentheses; so does what follows a `!`
if it starts with `=`, for `!=` is a sign. -/
def render : Formula → Text
  | const true => "true".toList
  | const false => "false".toList
  | exit => "EXIT".toList
  | compare op l r => Text.link op.sign l.text r.text
  | not f => '!' :: guarded (f.isCompound || f.render.head? == some '=') f.render
  | and f g => Text.link ['&', '&'] (guarded f.isCompound f.render) (guarded g.isCompound g.render)
  | or f g => Text.link ['|', '|'] (guarded f.isCompound f.render) (guarded g.isCompound g.render)

/-- Parentheses around a whole text leave it whole. -/
theorem isWhole_guarded {t : Text} (h : Text.IsWhole t) (needed : Bool) :
    Text.IsWhole (guarded needed t) := by
  cases needed with
  | true => exact h.wrap
  | false => exact h

/-- A formula is written without an open literal or parenthesis. -/
theorem isWhole_render (f : Formula) : Text.IsWhole f.render := by
  induction f with
  | const b => cases b <;> decide
  | exit => decide
  | compare op l r => exact Text.IsWhole.link op.isSymbol_sign l.whole r.whole
  | not f ih =>
    have hsign : Text.IsWhole ['!'] := by decide
    exact hsign.append (isWhole_guarded ih _)
  | and f g ihf ihg => exact Text.IsWhole.link rfl (isWhole_guarded ihf _) (isWhole_guarded ihg _)
  | or f g ihf ihg => exact Text.IsWhole.link rfl (isWhole_guarded ihf _) (isWhole_guarded ihg _)

/-- A part of a formula is not cut, whether it is an atom or stands in parentheses. -/
theorem not_occursAtTop_guarded (f : Formula) {needed : Bool} (h : f.isCompound → needed) {p : Text}
    (hp : p ∈ Condition.connectives) : ¬Text.OccursAtTop p (guarded needed f.render) := by
  have hsymbol := Condition.isSymbol_of_mem_signs (List.mem_append_left _ hp)
  have hword : ∀ w ∈ ["true".toList, "false".toList, "EXIT".toList], ¬Text.OccursAtTop p w := by
    intro w hw h
    have hall : ∀ p ∈ Condition.connectives, ∀ w ∈ ["true".toList, "false".toList, "EXIT".toList],
        Text.find? p w = none := by decide
    exact (Text.find?_eq_none_iff hsymbol).1 (hall p hp w hw) h.occurs
  cases needed with
  | true => exact Text.not_occursAtTop_wrap hsymbol f.isWhole_render
  | false =>
    cases f with
    | const b =>
      cases b with
      | true => exact hword "true".toList (by simp)
      | false => exact hword "false".toList (by simp)
    | exit => exact hword "EXIT".toList (by simp)
    | compare op l r => exact fun h => Comparand.not_occurs_link op l r hp h.occurs
    | not f => exact absurd (h rfl) (by simp)
    | and f g => exact absurd (h rfl) (by simp)
    | or f g => exact absurd (h rfl) (by simp)

variable (env : Environment)

/-- Parentheses around a formula do not change its verdict. -/
theorem holds_guarded (f : Formula) (needed : Bool) :
    env.holds (guarded needed f.render) = env.holds f.render := by
  cases needed with
  | true => exact env.holds_wrap f.isWhole_render
  | false => rfl

/-- The text of a formula is decided as the tree is. -/
theorem holds_render (f : Formula) : env.holds f.render = f.value env := by
  induction f with
  | const b => cases b <;> rfl
  | exit => rfl
  | compare op l r => exact env.holds_link_compare op l r
  | not f ih =>
    have hneeded : f.isCompound → (f.isCompound || f.render.head? == some '=') := by
      intro h
      rw [h, Bool.true_or]
    -- without the guard a `=` in front would make the sign `!=`
    have hhead : (guarded (f.isCompound || f.render.head? == some '=') f.render).head? ≠
        some '=' := by
      by_cases hguard : (f.isCompound || f.render.head? == some '=') = true
      · rw [guarded, if_pos hguard, Text.wrap, List.cons_append, List.head?_cons]
        decide
      · rw [guarded, if_neg hguard]
        intro h
        rw [h] at hguard
        exact hguard (by simp)
    show env.holds ('!' :: guarded _ f.render) = (f.value env).not
    rw [env.holds_cons_not (f.not_occursAtTop_guarded hneeded (by decide))
      (f.not_occursAtTop_guarded hneeded (by decide)) hhead, holds_guarded, ih]
  | and f g ihf ihg =>
    show env.holds (Text.link ['&', '&'] (guarded _ f.render) (guarded _ g.render)) =
      (f.value env).and (g.value env)
    rw [env.holds_link_and (isWhole_guarded f.isWhole_render _), holds_guarded,
      holds_guarded, ihf, ihg]
  | or f g ihf ihg =>
    show env.holds (Text.link ['|', '|'] (guarded _ f.render) (guarded _ g.render)) =
      (f.value env).or (g.value env)
    rw [env.holds_link_or (isWhole_guarded f.isWhole_render _)
      (f.not_occursAtTop_guarded id (by decide)) (g.not_occursAtTop_guarded id (by decide)),
      holds_guarded, holds_guarded, ihf, ihg]

end Formula

/-- **Conditions are read by their grammar.** The text of every formula, with or without parentheses
around it, is decided as its tree is. Behind a text that leaves nothing open, `&&` makes a
conjunction with whatever follows, and `||` makes a disjunction if neither side has a `&&` outside
its parentheses; so `||` binds tighter. -/
theorem holds_follows_formula (env : Environment) :
    (∀ f : Formula,
      env.holds f.render = f.value env ∧ env.holds (Text.wrap f.render) = f.value env) ∧
    (∀ s t : Text, Text.IsWhole s →
      env.holds (Text.link "&&".toList s t) = Verdict.and (env.holds s) (env.holds t)) ∧
    ∀ s t : Text, Text.IsWhole s → ¬Text.OccursAtTop "&&".toList s →
      ¬Text.OccursAtTop "&&".toList t → env.holds (Text.link "||".toList s t) =
      Verdict.or (env.holds s) (env.holds t) := by
  refine ⟨fun f => ⟨f.holds_render env, ?_⟩, fun s t hs => env.holds_link_and hs t,
    fun s t hs h h' => env.holds_link_or hs h h'⟩
  rw [env.holds_wrap f.isWhole_render, f.holds_render env]

/-- A text that leaves nothing open is not misled by the signs in its literals and parentheses. -/
theorem holds_follows_formula_literals :
    Text.IsWhole "(a == 'x && y')".toList ∧ ¬Text.OccursAtTop "&&".toList "(a == 'x && y')".toList ∧
      ¬Text.OccursAtTop "&&".toList "(b && c)".toList ∧
      Environment.holds ⟨Frame.empty, false⟩ "(a == 'x && y') || (b && c)".toList =
        Verdict.or (Environment.holds ⟨Frame.empty, false⟩ "(a == 'x && y')".toList)
          (Environment.holds ⟨Frame.empty, false⟩ "(b && c)".toList) := by
  have hleft : ¬Text.OccursAtTop "&&".toList "(a == 'x && y')".toList :=
    Text.not_occursAtTop_wrap (t := "a == 'x && y'".toList) rfl (by decide)
  have hright : ¬Text.OccursAtTop "&&".toList "(b && c)".toList :=
    Text.not_occursAtTop_wrap (t := "b && c".toList) rfl (by decide)
  have hlink : "(a == 'x && y') || (b && c)".toList =
      Text.link "||".toList "(a == 'x && y')".toList "(b && c)".toList := rfl
  refine ⟨by decide, hleft, hright, ?_⟩
  rw [hlink]
  exact (holds_follows_formula ⟨Frame.empty, false⟩).2.2 _ _ (by decide) hleft hright

/-- An atom that starts with `=` is not negated by a `!` right in front of it. -/
theorem exists_negation_not_read :
    ∃ (f : Formula) (env : Environment) (d : Dice), f.isCompound = false ∧
      (env.holds ('!' :: f.render) d).1 ≠ (f.not.value env d).1 := by
  let x : Comparand :=
    { text := "=a".toList
      visible := by decide
      whole := by decide
      unsigned := by
        intro p hp
        have hnone : ∀ p ∈ Condition.signs, Text.find? p "=a".toList = none := by decide
        exact (Text.find?_eq_none_iff (Condition.isSymbol_of_mem_signs hp)).1 (hnone p hp)
      unnegated := by decide }
  exact ⟨.compare .eq x x, ⟨Frame.empty, false⟩, ⟨0⟩, rfl, by decide +kernel⟩

end TapScript
