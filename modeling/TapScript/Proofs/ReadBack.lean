import TapScript.Expression.Resolve
import TapScript.Proofs.Written

/-! # Reading literals back

A value is written into a text as a literal and read again when the text is resolved. Quotes and
backslashes in the value do no harm, whatever their mix. But draws are made before the text is read,
in literals too, so a value that spells a draw is not read back.

* `Environment.holdsDraw` says that a draw stands somewhere in a text.
* `Environment.drawFrom_closing` says what draws do to the contents of a literal.
* `literal_reads_back_iff` says which values are read back. -/

namespace TapScript

namespace Text.Literal

/-- Two texts are escaped one after the other. -/
theorem escape_append (s t : Text) : escape (s ++ t) = escape s ++ escape t := by
  induction s with
  | nil => rfl
  | cons c s ih =>
    rw [List.cons_append, escape, escape, ih]
    split <;> rfl

/-- A text without double quotes and backslashes is written as it is. -/
theorem escape_eq_self {t : Text} (h : ∀ c ∈ t, c ≠ '"' ∧ c ≠ '\\') : escape t = t := by
  induction t with
  | nil => rfl
  | cons c t ih =>
    have hc := h c (by simp)
    rw [escape, if_neg (by simpa using hc), ih fun d hd => h d (by simp [hd])]

/-- Escapes add nothing but backslashes. -/
theorem mem_escape_iff {c : Char} (hc : c ≠ '\\') {t : Text} : c ∈ escape t ↔ c ∈ t := by
  induction t with
  | nil => rfl
  | cons d t ih =>
    rw [escape]
    split
    · rw [List.mem_cons, List.mem_cons, List.mem_cons, ih, or_iff_right hc]
    · rw [List.mem_cons, List.mem_cons, ih]

/-- The contents of a literal up to its closing quote, as they are written. -/
def closing (t : Text) : Text := escape t ++ ['"']

/-- A literal is a quote, and then its contents up to the closing quote. -/
theorem encode_eq_cons (t : Text) : encode t = '"' :: closing t := rfl

/-- The contents of a literal are escaped part by part. -/
theorem closing_append (s t : Text) : closing (s ++ t) = escape s ++ closing t := by
  rw [closing, closing, escape_append, List.append_assoc]

/-- Characters other than quotes and backslashes are written as they are. -/
theorem closing_cons_plain {c : Char} (h : c ≠ '"' ∧ c ≠ '\\') (t : Text) :
    closing (c :: t) = c :: closing t := by
  rw [closing, escape, if_neg (by simpa using h)]
  rfl

/-- What stands at the start of the written contents stands there unwritten too, if it has neither
quotes nor backslashes. -/
theorem eq_append_of_closing {p s t : Text} (hp : ∀ c ∈ p, c ≠ '"' ∧ c ≠ '\\')
    (h : closing t = p ++ s) : ∃ t', t = p ++ t' ∧ s = closing t' := by
  induction p generalizing t with
  | nil => exact ⟨t, rfl, h.symm⟩
  | cons c p ih =>
    have hc := hp c (by simp)
    cases t with
    | nil =>
      simp only [closing, escape_nil, List.nil_append, List.cons_append, List.cons.injEq] at h
      exact absurd h.1.symm hc.1
    | cons d t =>
      by_cases hd : d = '"' ∨ d = '\\'
      · rw [closing, escape, if_pos (by simpa using hd)] at h
        simp only [List.cons_append, List.cons.injEq] at h
        exact absurd h.1.symm hc.2
      · rw [closing_cons_plain (not_or.1 hd), List.cons_append, List.cons.injEq] at h
        obtain ⟨rfl, h⟩ := h
        obtain ⟨t', rfl, hs⟩ := ih (fun c hc => hp c (by simp [hc])) h
        exact ⟨t', rfl, hs⟩

/-- The contents are cut at the same parenthesis, written or not. -/
theorem exists_of_closing_eq {b s t : Text} (hb : ')' ∉ b) (h : closing t = b ++ ')' :: s) :
    ∃ b' t', t = b' ++ ')' :: t' ∧ b = escape b' ∧ s = closing t' := by
  induction t generalizing b with
  | nil =>
    -- the closing quote is no parenthesis
    cases b with
    | nil => exact absurd h (by simp [closing])
    | cons c b => exact absurd (congrArg List.length h) (by simp [closing])
  | cons d t ih =>
    by_cases hd : d = '"' ∨ d = '\\'
    · have hwritten : closing (d :: t) = '\\' :: d :: closing t := by
        rw [closing, escape, if_pos (by simpa using hd)]
        rfl
      rw [hwritten] at h
      rcases b with _ | ⟨b₁, _ | ⟨b₂, b⟩⟩
      · exact absurd h (by simp)
      · simp only [List.cons_append, List.nil_append, List.cons.injEq] at h
        rw [h.2.1] at hd
        exact absurd hd (by decide)
      · simp only [List.cons_append, List.cons.injEq] at h
        obtain ⟨rfl, rfl, h⟩ := h
        obtain ⟨b', t', rfl, rfl, hs⟩ := ih (fun hmem => hb (by simp [hmem])) h
        refine ⟨d :: b', t', rfl, ?_, hs⟩
        rw [escape, if_pos (by simpa using hd)]
    · rw [closing_cons_plain (not_or.1 hd)] at h
      cases b with
      | nil =>
        simp only [List.nil_append, List.cons.injEq] at h
        exact ⟨[], t, by rw [h.1]; rfl, rfl, h.2.symm⟩
      | cons c b =>
        simp only [List.cons_append, List.cons.injEq] at h
        obtain ⟨rfl, h⟩ := h
        obtain ⟨b', t', rfl, rfl, hs⟩ := ih (fun hmem => hb (by simp [hmem])) h
        refine ⟨d :: b', t', rfl, ?_, hs⟩
        rw [escape, if_neg (by simpa using hd)]

end Text.Literal

/-! ## Draws -/

/-- An integer is written with digits and a minus sign at most. -/
theorem Integer.isDigit_of_mem_render {n : Int} {c : Char} (h : c ∈ Integer.render n) :
    c = '-' ∨ c.isDigit := by
  have hdigits : c ∈ Nat.toDigits 10 n.natAbs → c.isDigit :=
    Nat.isDigit_of_mem_toDigits (by decide) (by decide)
  unfold Integer.render at h
  split at h
  · rcases List.mem_cons.1 h with rfl | h
    · exact .inl rfl
    · exact .inr (hdigits h)
  · exact .inr (hdigits h)

/-- Every integer is written with at least one character. -/
theorem Integer.render_ne_nil (n : Int) : Integer.render n ≠ [] := by
  unfold Integer.render
  split
  · exact List.cons_ne_nil _ _
  · exact Nat.toDigits_ne_nil

namespace Environment

open Text.Literal (escape closing)

/-- The text starts with a draw between the bounds, and `rest` follows it. -/
def StartsDraw (t bounds rest : Text) : Prop :=
  ∃ blanks, t = "random".toList ++ (blanks ++ '(' :: (bounds ++ ')' :: rest)) ∧
    (∀ c ∈ blanks, Text.isBlank c) ∧ ∀ c ∈ bounds, c ≠ '(' ∧ c ≠ ')'

/-- A draw is found exactly where one starts. -/
theorem drawCall?_eq_some_iff {t bounds : Text} {n : Nat} :
    drawCall? t = some (bounds, n) ↔ ∃ rest, StartsDraw t bounds rest ∧
      n = t.length - rest.length := by
  simp only [drawCall?, Option.bind_eq_bind, Option.bind_eq_some_iff, Text.after?_eq_some,
    Option.some.injEq, Prod.mk.injEq]
  constructor
  · rintro ⟨behind, rfl, opened, hopened, rest, hrest, rfl, rfl⟩
    refine ⟨rest, ⟨behind.takeWhile Text.isBlank, ?_, ?_, ?_⟩, rfl⟩
    · have hbounds := List.prefix_iff_eq_append.1
        (List.takeWhile_prefix (l := opened) fun c => c != '(' && c != ')')
      have hblanks := List.takeWhile_append_dropWhile (p := Text.isBlank) (l := behind)
      rw [hrest] at hbounds
      rw [hopened, ← hbounds] at hblanks
      exact congrArg _ hblanks.symm
    · exact fun c hc => List.all_eq_true.1 List.all_takeWhile c hc
    · intro c hc
      simpa using List.all_eq_true.1 List.all_takeWhile c hc
  · rintro ⟨rest, ⟨blanks, rfl, hblanks, hbounds⟩, rfl⟩
    refine ⟨_, rfl, bounds ++ ')' :: rest, ?_, rest, ?_, ?_, rfl⟩
    · rw [List.dropWhile_append_of_pos hblanks]
      rfl
    · rw [List.takeWhile_append_of_pos (by simpa using hbounds)]
      simp
    · rw [List.takeWhile_append_of_pos (by simpa using hbounds)]
      simp

/-- Whether a draw is found does not depend on its bounds. -/
theorem isSome_drawCall?_iff {t : Text} :
    (drawCall? t).isSome ↔ ∃ bounds rest, StartsDraw t bounds rest := by
  rw [Option.isSome_iff_exists]
  constructor
  · rintro ⟨⟨bounds, n⟩, h⟩
    obtain ⟨rest, hrest, -⟩ := drawCall?_eq_some_iff.1 h
    exact ⟨bounds, rest, hrest⟩
  · rintro ⟨bounds, rest, h⟩
    exact ⟨_, drawCall?_eq_some_iff.2 ⟨rest, h, rfl⟩⟩

/-- Whether a draw starts somewhere in the text at the start of a word, behind a word character or
not. -/
def holdsDraw : (afterWord : Bool) → Text → Bool
  | _, [] => false
  | afterWord, c :: r =>
    (!afterWord && (drawCall? (c :: r)).isSome) || holdsDraw (Text.isWordChar c) r

/-- A draw begins with its first letter. -/
theorem drawCall?_eq_none_of_ne {c : Char} (h : c ≠ 'r') (r : Text) :
    drawCall? (c :: r) = none := by
  cases hdraw : drawCall? (c :: r) with
  | none => rfl
  | some found =>
    obtain ⟨rest, ⟨blanks, htext, -, -⟩, -⟩ := drawCall?_eq_some_iff.1 hdraw
    exact absurd (List.cons.inj htext).1 h

/-- A character at which no draw starts is kept. -/
theorem drawFrom_cons (env : Environment) {afterWord : Bool} {c : Char} {r : Text}
    (h : (!afterWord && (drawCall? (c :: r)).isSome) = false) (d : Dice) :
    env.drawFrom afterWord 0 (c :: r) d =
      (c :: (env.drawFrom (Text.isWordChar c) 0 r d).1,
        (env.drawFrom (Text.isWordChar c) 0 r d).2) := by
  have hnone : (if afterWord = true then none else drawCall? (c :: r)) = none := by
    cases afterWord with
    | true => rfl
    | false => simpa using h
  rw [drawFrom, hnone]

/-- A text without a draw stays as it is. -/
theorem drawFrom_eq_self (env : Environment) {afterWord : Bool} {t : Text}
    (h : holdsDraw afterWord t = false) (d : Dice) : env.drawFrom afterWord 0 t d = (t, d) := by
  induction t generalizing afterWord with
  | nil => rfl
  | cons c t ih =>
    rw [holdsDraw, Bool.or_eq_false_iff] at h
    rw [env.drawFrom_cons h.1, ih h.2]

/-- Behind a draw that has been made, the rest of the text has its turn. -/
theorem drawFrom_skip (env : Environment) (afterWord : Bool) (u : Text) (c : Char) (r : Text)
    (d : Dice) :
    env.drawFrom afterWord (u.length + 1) (u ++ c :: r) d =
      env.drawFrom (Text.isWordChar c) 0 r d := by
  induction u generalizing afterWord with
  | nil => rfl
  | cons b u ih => exact ih (Text.isWordChar b)

/-- What is drawn is a number in digits. -/
theorem isDigit_of_mem_drawText {env : Environment} {bounds : Text} {d : Dice} {c : Char}
    (h : c ∈ (env.drawText bounds d).1) : c = '-' ∨ c.isDigit := by
  unfold drawText at h
  split at h
  · exact Integer.isDigit_of_mem_render h
  · rw [List.mem_singleton.1 h]
    exact .inr rfl

/-- The value of a draw is written with at least one character. -/
theorem drawText_ne_nil (env : Environment) (bounds : Text) (d : Dice) :
    (env.drawText bounds d).1 ≠ [] := by
  unfold drawText
  split
  · exact Integer.render_ne_nil _
  · exact List.cons_ne_nil _ _

/-! ## Draws inside literals -/

/-- A draw that starts a text starts the contents of its literal, with escaped bounds. -/
theorem startsDraw_closing {t bounds rest : Text} (h : StartsDraw t bounds rest) :
    StartsDraw (closing t) (escape bounds) (closing rest) := by
  obtain ⟨blanks, rfl, hblanks, hbounds⟩ := h
  have hplain : ∀ c ∈ blanks, c ≠ '"' ∧ c ≠ '\\' := fun c hc =>
    ⟨Text.ne_of_isBlank (hblanks c hc) rfl, Text.ne_of_isBlank (hblanks c hc) rfl⟩
  refine ⟨blanks, ?_, hblanks, fun c hc => ⟨?_, ?_⟩⟩
  · have hword : escape "random".toList = "random".toList := rfl
    rw [Text.Literal.closing_append, hword, Text.Literal.closing_append,
      Text.Literal.escape_eq_self hplain, Text.Literal.closing_cons_plain (by decide),
      Text.Literal.closing_append, Text.Literal.closing_cons_plain (by decide)]
  · rintro rfl
    exact (hbounds _ ((Text.Literal.mem_escape_iff (by decide)).1 hc)).1 rfl
  · rintro rfl
    exact (hbounds _ ((Text.Literal.mem_escape_iff (by decide)).1 hc)).2 rfl

/-- A draw at the start of a literal's contents is one of the text. -/
theorem exists_startsDraw_of_closing {t bounds rest : Text}
    (h : StartsDraw (closing t) bounds rest) : ∃ bounds' rest', StartsDraw t bounds' rest' := by
  obtain ⟨blanks, htext, hblanks, hbounds⟩ := h
  have hword : ∀ c ∈ "random".toList, c ≠ '"' ∧ c ≠ '\\' := by
    have hall : "random".toList.all (fun c => c != '"' && c != '\\') = true := rfl
    intro c hc
    simpa using List.all_eq_true.1 hall c hc
  have hplain : ∀ c ∈ blanks, c ≠ '"' ∧ c ≠ '\\' := fun c hc =>
    ⟨Text.ne_of_isBlank (hblanks c hc) rfl, Text.ne_of_isBlank (hblanks c hc) rfl⟩
  -- the word, the blanks and the parenthesis are written as they are
  obtain ⟨t₁, rfl, h₁⟩ := Text.Literal.eq_append_of_closing hword htext
  obtain ⟨t₂, rfl, h₂⟩ := Text.Literal.eq_append_of_closing hplain h₁.symm
  obtain ⟨t₃, rfl, h₃⟩ := Text.Literal.eq_append_of_closing (p := ['('])
    (by simp) (h₂.symm.trans rfl)
  obtain ⟨bounds', rest', rfl, rfl, -⟩ := Text.Literal.exists_of_closing_eq
    (fun hmem => (hbounds _ hmem).2 rfl) h₃.symm
  refine ⟨bounds', rest', blanks, rfl, hblanks, fun c hc => ⟨?_, ?_⟩⟩
  · rintro rfl
    exact (hbounds _ ((Text.Literal.mem_escape_iff (by decide)).2 hc)).1 rfl
  · rintro rfl
    exact (hbounds _ ((Text.Literal.mem_escape_iff (by decide)).2 hc)).2 rfl

/-- A draw is found in the written contents of a literal exactly where one starts in the
contents. -/
theorem isSome_drawCall?_closing (t : Text) :
    (drawCall? (closing t)).isSome = (drawCall? t).isSome := by
  rw [Bool.eq_iff_iff, isSome_drawCall?_iff, isSome_drawCall?_iff]
  constructor
  · rintro ⟨bounds, rest, h⟩
    exact exists_startsDraw_of_closing h
  · rintro ⟨bounds, rest, h⟩
    exact ⟨escape bounds, closing rest, startsDraw_closing h⟩

/-- A draw at the start of a text is made, and then the rest has its turn. -/
theorem drawFrom_of_startsDraw (env : Environment) {t bounds rest : Text}
    (h : StartsDraw t bounds rest) (d : Dice) :
    env.drawFrom false 0 t d =
      ((env.drawText bounds d).1 ++ (env.drawFrom false 0 rest (env.drawText bounds d).2).1,
        (env.drawFrom false 0 rest (env.drawText bounds d).2).2) := by
  have hdraw := drawCall?_eq_some_iff.2 ⟨rest, h, rfl⟩
  obtain ⟨blanks, rfl, -, -⟩ := h
  -- the call ends with its parenthesis, which is no word character
  have hskip := env.drawFrom_skip (Text.isWordChar 'r')
    ("andom".toList ++ (blanks ++ '(' :: bounds)) ')' rest (env.drawText bounds d).2
  have htext : "random".toList ++ (blanks ++ '(' :: (bounds ++ ')' :: rest)) =
      'r' :: ("andom".toList ++ (blanks ++ '(' :: bounds) ++ ')' :: rest) := by
    simp
  have hlength : ("random".toList ++ (blanks ++ '(' :: (bounds ++ ')' :: rest))).length -
      rest.length - 1 = ("andom".toList ++ (blanks ++ '(' :: bounds)).length + 1 := by
    simp
    omega
  rw [htext] at hdraw
  rw [htext, drawFrom, if_neg (by decide), hdraw]
  dsimp only
  rw [← htext, hlength, hskip]
  rfl

/-- **Draws inside a literal.** The draws leave the contents of a literal written as they should be,
and leave them unchanged exactly if there is no draw in them. -/
theorem drawFrom_closing (env : Environment) (afterWord : Bool) (t : Text) (d : Dice) :
    ∃ t' d', env.drawFrom afterWord 0 (closing t) d = (closing t', d') ∧
      (t' = t ↔ holdsDraw afterWord t = false) := by
  -- a draw takes several characters at once, so the induction is on the length
  induction hn : t.length using Nat.strongRecOn generalizing t afterWord d with
  | _ n ih =>
    subst hn
    rcases t with _ | ⟨c, t⟩
    · refine ⟨[], d, ?_, by simp [holdsDraw]⟩
      cases afterWord <;> rfl
    cases hdraw : !afterWord && (drawCall? (c :: t)).isSome with
    | true =>
      -- a draw is made here, so the contents change from this character on
      rw [Bool.and_eq_true, Bool.not_eq_true'] at hdraw
      obtain ⟨rfl, hsome⟩ := hdraw
      obtain ⟨bounds, rest, hstarts⟩ := isSome_drawCall?_iff.1 hsome
      have hshorter : rest.length < (c :: t).length := by
        obtain ⟨blanks, htext, -, -⟩ := hstarts
        rw [htext]
        simp
        omega
      rw [env.drawFrom_of_startsDraw (startsDraw_closing hstarts)]
      generalize hdrawn : env.drawText (escape bounds) d = drawn
      obtain ⟨rest', d', hrest, -⟩ := ih rest.length hshorter false rest drawn.2 rfl
      have hdigits : ∀ b ∈ drawn.1, b = '-' ∨ b.isDigit := by
        intro b hb
        rw [← hdrawn] at hb
        exact isDigit_of_mem_drawText hb
      have hplain : escape drawn.1 = drawn.1 := by
        refine Text.Literal.escape_eq_self fun b hb => ⟨?_, ?_⟩ <;>
          · rintro rfl
            exact absurd (hdigits _ hb) (by decide)
      refine ⟨drawn.1 ++ rest', d', ?_, ?_⟩
      · rw [hrest, Text.Literal.closing_append, hplain]
      · rw [holdsDraw, hsome]
        refine iff_of_false (fun heq => ?_) (by simp)
        obtain ⟨blanks, htext, -, -⟩ := hstarts
        have hne : drawn.1 ≠ [] := by
          rw [← hdrawn]
          exact drawText_ne_nil _ _ _
        obtain ⟨b, digits, hb⟩ := List.exists_cons_of_ne_nil hne
        rw [hb, htext] at heq
        have hr : b = 'r' := (List.cons.inj heq).1
        exact absurd (hdigits b (by simp [hb])) (by rw [hr]; decide)
    | false =>
      obtain ⟨t', d', ht, hiff⟩ := ih t.length (by simp) (Text.isWordChar c) t d rfl
      have hhead : (c :: t' = c :: t) ↔ holdsDraw afterWord (c :: t) = false := by
        rw [holdsDraw, hdraw, Bool.false_or, ← hiff]
        simp
      refine ⟨c :: t', d', ?_, hhead⟩
      by_cases hc : c = '"' ∨ c = '\\'
      · -- the character is written behind a backslash, and neither of the two starts a draw
        have hwritten : ∀ r, closing (c :: r) = '\\' :: c :: closing r := by
          intro r
          rw [Text.Literal.closing, escape, if_pos (by simpa using hc)]
          rfl
        have hr : c ≠ 'r' := by
          rintro rfl
          exact absurd hc (by decide)
        rw [hwritten, hwritten, env.drawFrom_cons
          (by rw [drawCall?_eq_none_of_ne (by decide)]; simp),
          env.drawFrom_cons (by rw [drawCall?_eq_none_of_ne hr]; simp), ht]
      · have hwritten := Text.Literal.closing_cons_plain (not_or.1 hc)
        rw [← isSome_drawCall?_closing, hwritten] at hdraw
        rw [hwritten, hwritten, env.drawFrom_cons hdraw, ht]

/-! ## Values -/

/-- A text without blanks around it that is an expression has the expression's value. -/
theorem plain_eq {env : Environment} {t : Text} {v : Value} (ht : Text.trim t = t)
    (h : env.expression? t = some v) : env.plain t = v := by
  simp only [plain, ht, h]

/-- A text without draws is resolved to what it is as an expression, and no dice are rolled. -/
theorem resolve_eq {env : Environment} {t : Text} {v : Value} (ht : Text.trim t = t)
    (hdraw : holdsDraw false t = false) (h : env.expression? t = some v) (d : Dice) :
    env.resolve t d = (v, d) := by
  simp only [resolve, draw, ht, env.drawFrom_eq_self hdraw, plain_eq ht h]

/-- There are no blanks around a literal. -/
theorem trim_encode (t : Text) : Text.trim (Text.Literal.encode t) = Text.Literal.encode t := by
  refine Text.trim_eq_self (fun c hc => ?_) fun c hc => ?_
  · cases hc
    rfl
  · rw [Text.Literal.encode, ← List.cons_append, List.getLast?_concat] at hc
    cases hc
    rfl

/-- A literal is resolved to a text, and to its own exactly if there is no draw in it. -/
theorem resolve_encode (env : Environment) (t : Text) (d : Dice) :
    ∃ t', (env.resolve (Text.Literal.encode t) d).1 = .text t' ∧
      (t' = t ↔ holdsDraw false t = false) := by
  obtain ⟨t', d', hdraw, hiff⟩ := env.drawFrom_closing false t d
  refine ⟨t', ?_, hiff⟩
  have hdrawn : env.draw (Text.Literal.encode t) d = (Text.Literal.encode t', d') := by
    rw [Text.Literal.encode_eq_cons, draw,
      env.drawFrom_cons (by rw [drawCall?_eq_none_of_ne (by decide)]; rfl)]
    simp only [show Text.isWordChar '"' = false from rfl, hdraw, Text.Literal.encode_eq_cons]
  have hplain : env.plain (Text.Literal.encode t') = .text t' :=
    plain_eq (trim_encode t') (Written.expression?_render (.literal t'))
  simp only [resolve, trim_encode, hdrawn, hplain]

/-- A word of the language that names no variable is resolved to its value. -/
theorem resolve_word {env : Environment} (x : Identifier) {v : Value}
    (hx : env.frame.get? x.text = none) (hv : (x.text, v) ∈ env.words)
    (ht : Text.trim x.text = x.text)
    (hdraw : holdsDraw false x.text = false) (d : Dice) : env.resolve x.text d = (v, d) :=
  resolve_eq ht hdraw (Written.expression?_render (e := .name x) (.word hx hv)) d

end Environment

/-- The coordinates of a point are written without quotes and backslashes. -/
theorem Point.plain_text (p : Point) {c : Char} (h : c ∈ p.text) : c ≠ '"' ∧ c ≠ '\\' := by
  have hdigits : c = ',' ∨ c = '-' ∨ c.isDigit := by
    simp only [Point.text, List.mem_append, List.mem_cons] at h
    rcases h with h | rfl | h
    · exact .inr (Integer.isDigit_of_mem_render h)
    · exact .inl rfl
    · exact .inr (Integer.isDigit_of_mem_render h)
  constructor <;>
    · rintro rfl
      exact absurd hdigits (by decide)

/-- The coordinates of a point need no escapes. -/
theorem Value.literal_point (p : Point) : (Value.point p).literal = Text.Literal.encode p.text := by
  rw [Value.literal, Text.Literal.encode, Text.Literal.escape_eq_self fun c hc => p.plain_text hc]

/-- **A literal is read back unless there is a draw in it.** Whatever the text of a value is,
resolving its literal gives the text again exactly if no draw stands in it. The words for truth
values and for nothing found must not be names of variables. -/
theorem literal_reads_back_iff (env : Environment)
    (hwords : ∀ w ∈ ["true".toList, "false".toList, "null".toList], env.frame.get? w = none)
    (v : Value) (hv : v.kind ≠ "number") (d : Dice) :
    (env.resolve v.literal d).1.toText = v.toText ↔
      Environment.holdsDraw false v.toText = false := by
  -- a text and a point are written in quotes, and the other values as words
  have hencode : ∀ t : Text, (env.resolve (Text.Literal.encode t) d).1.toText = t ↔
      Environment.holdsDraw false t = false := by
    intro t
    obtain ⟨t', ht', hiff⟩ := env.resolve_encode t d
    rw [ht', Value.toText_text]
    exact hiff
  cases v with
  | text t => exact hencode t
  | number x => exact absurd rfl hv
  | bool b =>
    cases b with
    | true =>
      have hread := env.resolve_word ⟨"true".toList, rfl⟩ (v := .bool true) (hwords _ (by simp))
        (by simp [Environment.words]) rfl rfl d
      exact iff_of_true (by rw [show (Value.bool true).literal = "true".toList from rfl, hread]) rfl
    | false =>
      have hread := env.resolve_word ⟨"false".toList, rfl⟩ (v := .bool false) (hwords _ (by simp))
        (by simp [Environment.words]) rfl rfl d
      exact iff_of_true (by rw [show (Value.bool false).literal = "false".toList from rfl, hread])
        rfl
  | point p =>
    rw [Value.literal_point]
    exact hencode p.text
  | null =>
    have hread := env.resolve_word ⟨"null".toList, rfl⟩ (v := .null) (hwords _ (by simp))
      (by simp [Environment.words]) rfl rfl d
    exact iff_of_true (by rw [show Value.null.literal = "null".toList from rfl, hread]) rfl

/-- Both kinds of quotes, a backslash at the end and the name of the draw do no harm. -/
theorem literal_reads_back_quotes :
    (∀ w ∈ ["true".toList, "false".toList, "null".toList], Frame.empty.get? w = none) ∧
      (Value.text "it's \"random\" (1,2)\\".toList).kind ≠ "number" ∧
      ((⟨Frame.empty, false⟩ : Environment).resolve
        (Value.text "it's \"random\" (1,2)\\".toList).literal ⟨0⟩).1.toText =
          "it's \"random\" (1,2)\\".toList :=
  ⟨fun _ _ => rfl, by decide,
    (literal_reads_back_iff ⟨Frame.empty, false⟩ (fun _ _ => rfl) _ (by decide) ⟨0⟩).2 rfl⟩

/-- A text that spells a draw is not read back. -/
theorem literal_not_read_back :
    ((⟨Frame.empty, false⟩ : Environment).resolve (Value.text "random(7,7)".toList).literal
      ⟨0⟩).1.toText ≠ "random(7,7)".toList := by
  obtain ⟨t', ht', hiff⟩ :=
    Environment.resolve_encode ⟨Frame.empty, false⟩ "random(7,7)".toList ⟨0⟩
  have hdraw : Environment.holdsDraw false "random(7,7)".toList = true := rfl
  rw [Value.literal_text, ht', Value.toText_text]
  intro heq
  rw [hiff.1 heq] at hdraw
  cases hdraw

end TapScript
