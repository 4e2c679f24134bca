import TapScript.Gateway.Device
import TapScript.Proofs.ColorLiterals
import TapScript.Proofs.Expansion
import TapScript.Proofs.Formula

/-! # Colors in texts

A color is printed in the shorter of its two hexadecimal forms. Nothing is lost by that: the digits
are filled up with zeros to six or to eight, and how many there are tells whether the alpha channel
is left out because it is full.

* `Color.spells_hexText` and `Color.length_hexText` say what the digits are, and
  `Color.isLiteral_text` that the text is a written form of the color; so it is read back
  (`Color.read_text`).
* `Environment.holds_compare_colors` compares two colors inside a condition, where they stand as
  literals.
* `Color.text_reads_back` puts this together with the query that asks for the color of a pixel. -/

namespace TapScript

namespace Integer

/-- The digits of a number are read back as the number. The induction follows the division by the
base. -/
theorem digits?_toDigits {digit? : Char → Option Nat} {base : Nat} (hbase : 1 < base)
    (hdigit : ∀ d < base, digit? (Nat.digitChar d) = some d) (n : Nat) :
    digits? digit? base (Nat.toDigits base n) = some n := by
  induction n using Nat.strongRecOn with
  | ind n ih =>
    rw [Nat.toDigits_eq_if hbase]
    split
    · rename_i hlt
      simp [digits?, hdigit n hlt]
    · rename_i hle
      have hrest := ih (n / base) (Nat.div_lt_self (by omega) hbase)
      have hlast := hdigit (n % base) (Nat.mod_lt n (by omega))
      rw [digits?_concat, hrest, hlast, Option.bind_some, Option.map_some, Nat.mul_comm,
        Nat.div_add_mod]

/-- Zeros in front do not count. -/
theorem digits?_replicate_append {digit? : Char → Option Nat} (hzero : digit? '0' = some 0)
    (base k : Nat) (t : Text) :
    digits? digit? base (List.replicate k '0' ++ t) = digits? digit? base t := by
  induction k with
  | zero => rfl
  | succ k ih =>
    rw [← ih, List.replicate_succ, List.cons_append]
    simp [digits?, hzero]

/-- All characters of a number are digits. -/
theorem Spells.exists_of_mem {isDigit : Char → Nat → Prop} {base : Nat} {t : Text} {n : Nat}
    (h : Spells isDigit base t n) {c : Char} (hc : c ∈ t) : ∃ d, isDigit c d := by
  obtain ⟨ds, hds, -⟩ := h
  obtain ⟨k, hk, rfl⟩ := List.getElem_of_mem hc
  exact ⟨_, hds.get hk (hds.length_eq ▸ hk)⟩

/-- A hexadecimal digit is neither a blank nor the first letter of a draw. -/
theorem IsHexDigit.plain {c : Char} {d : Nat} (h : IsHexDigit c d) :
    Text.isBlank c = false ∧ c ≠ 'r' := by
  have hall : ("0123456789abcdef".toList ++ "0123456789ABCDEF".toList).all
      (fun c => !Text.isBlank c && c != 'r') = true := rfl
  have hmem := List.mem_append.2 (h.imp List.mem_of_getElem? List.mem_of_getElem?)
  simpa using List.all_eq_true.1 hall c hmem

end Integer

namespace Color

open Integer (IsHexDigit Spells)

/-! ## The text of a color -/

/-- A number that fits is written with as many digits as asked for. -/
theorem length_hexText {width n : Nat} (hwidth : 0 < width) (hn : n < 16 ^ width) :
    (hexText width n).length = width := by
  have hle : (Nat.toDigits 16 n).length ≤ width :=
    (Nat.length_toDigits_le_iff (by decide) hwidth).2 hn
  rw [hexText, List.length_append, List.length_replicate, List.length_map]
  omega

/-- The digits that are written spell the number. -/
theorem spells_hexText (width n : Nat) : Spells IsHexDigit 16 (hexText width n) n := by
  have hdigit : ∀ d < 16, Integer.hexDigit? (Nat.digitChar d).toUpper = some d := by decide
  rw [← Integer.digits?_eq_some_iff Integer.hexDigit?_eq_some_iff, hexText,
    Integer.digits?_replicate_append rfl, Integer.digits?, List.foldl_map]
  exact Integer.digits?_toDigits (by decide) hdigit n

/-- The alpha channel is full, so that nothing shines through. -/
def IsOpaque (c : Color) : Prop := c.argb.toNat / 2 ^ 24 = 0xFF

instance (c : Color) : Decidable c.IsOpaque := inferInstanceAs (Decidable (_ = _))

/-- The text is the `#` and three channels for an opaque color, and the `#` and four channels for
any other. -/
theorem text_eq (c : Color) :
    c.text = '#' ::
      if c.IsOpaque then hexText 6 (c.argb.toNat % 2 ^ 24) else hexText 8 c.argb.toNat := by
  have halpha : (c.argb >>> 24 == 0xFF) = decide c.IsOpaque := by
    rw [Bool.eq_iff_iff, beq_iff_eq, decide_eq_true_eq, IsOpaque, ← UInt32.toNat_inj,
      UInt32.toNat_shiftRight, Nat.shiftRight_eq_div_pow]
    rfl
  have hchannels : (c.argb &&& 0xFFFFFF).toNat = c.argb.toNat % 2 ^ 24 := by
    rw [UInt32.toNat_and]
    exact Nat.and_two_pow_sub_one_eq_mod _ 24
  rw [text, halpha, hchannels]
  by_cases hfull : c.IsOpaque
  · simp [hfull]
  · simp [hfull]

/-- The text of an opaque color is the `#` and six digits, which spell its channels. -/
theorem exists_text_of_isOpaque {c : Color} (h : c.IsOpaque) :
    ∃ t n, c.text = '#' :: t ∧ t.length = 6 ∧ Spells IsHexDigit 16 t n ∧
      c.argb.toNat = 0xFF000000 + n := by
  have hlt : c.argb.toNat % 2 ^ 24 < 16 ^ 6 := Nat.mod_lt _ (by decide)
  have hlength := length_hexText (by decide) hlt
  refine ⟨_, c.argb.toNat % 2 ^ 24, by rw [text_eq, if_pos h], hlength, spells_hexText _ _, ?_⟩
  have hsplit := Nat.div_add_mod c.argb.toNat (2 ^ 24)
  rw [IsOpaque] at h
  omega

/-- The text of any other color is the `#` and eight digits, which spell the color. -/
theorem exists_text_of_not_isOpaque {c : Color} (h : ¬c.IsOpaque) :
    ∃ t, c.text = '#' :: t ∧ t.length = 8 ∧ Spells IsHexDigit 16 t c.argb.toNat :=
  ⟨_, by rw [text_eq, if_neg h], length_hexText (by decide) c.argb.toNat_lt, spells_hexText _ _⟩

/-- The text is a written form of the color. -/
theorem isLiteral_text (c : Color) : IsLiteral c.text c := by
  by_cases hfull : c.IsOpaque
  · obtain ⟨t, n, htext, hlength, hspells, hn⟩ := exists_text_of_isOpaque hfull
    exact htext ▸ .rgb hspells hlength hn
  · obtain ⟨t, htext, hlength, hspells⟩ := exists_text_of_not_isOpaque hfull
    exact htext ▸ .argb hspells hlength rfl

/-- The text of a color has no blanks, and no letter by which a draw could begin. -/
theorem plain_of_mem_text {c : Color} {x : Char} (hx : x ∈ c.text) :
    Text.isBlank x = false ∧ x ≠ 'r' := by
  have hdigits : ∃ t n, c.text = '#' :: t ∧ Spells IsHexDigit 16 t n := by
    by_cases hfull : c.IsOpaque
    · obtain ⟨t, n, htext, -, hspells, -⟩ := exists_text_of_isOpaque hfull
      exact ⟨t, n, htext, hspells⟩
    · obtain ⟨t, htext, -, hspells⟩ := exists_text_of_not_isOpaque hfull
      exact ⟨t, _, htext, hspells⟩
  obtain ⟨t, n, htext, hspells⟩ := hdigits
  rw [htext, List.mem_cons] at hx
  rcases hx with rfl | hx
  · exact ⟨rfl, by decide⟩
  · obtain ⟨d, hd⟩ := hspells.exists_of_mem hx
    exact hd.plain

/-- The text of a color has no blanks around it. -/
theorem trim_text (c : Color) : Text.trim c.text = c.text :=
  Text.trim_eq_self (fun _ hx => (plain_of_mem_text (List.mem_of_mem_head? hx)).1)
    fun _ hx => (plain_of_mem_text (List.mem_of_getLast? hx)).1

/-- The text of a color begins with a hash. -/
theorem head?_text (c : Color) : ∃ t, c.text = '#' :: t := ⟨_, c.text_eq⟩

/-- What is printed is read back. -/
theorem read_text (c : Color) : read c.text = .ok c := by
  obtain ⟨t, htext⟩ := c.head?_text
  have hliteral : IsLiteral ('#' :: t) c := htext ▸ c.isLiteral_text
  exact (read_eq_ok_iff_of_hash (c.trim_text.trans htext)).2 (isHexColor_iff.2 (.inl hliteral))

/-- Colors that are printed alike are the same. -/
theorem text_injective : Function.Injective text := by
  intro c d h
  have hread := c.read_text
  rw [h, read_text] at hread
  exact (Except.ok.inj hread).symm

end Color

/-! ## Comparing colors in a condition -/

/-- Without its first letter, no draw stands in a text. -/
theorem Environment.holdsDraw_eq_false {t : Text} (h : 'r' ∉ t) (afterWord : Bool) :
    holdsDraw afterWord t = false := by
  induction t generalizing afterWord with
  | nil => rfl
  | cons c t ih =>
    rw [List.mem_cons, not_or] at h
    rw [holdsDraw, drawCall?_eq_none_of_ne (Ne.symm h.1), ih h.2]
    simp

/-- A literal can stand at either side of a comparison. -/
def Comparand.ofLiteral (t : Text) : Comparand where
  text := Text.Literal.encode t
  visible := by
    rw [Environment.trim_encode]
    exact List.cons_ne_nil _ _
  whole := Text.isWhole_encode t
  unsigned := by
    intro p hp
    have hnone : Text.find? p (Text.Literal.encode t) = none := by
      rw [Text.find?, Text.Mark.find?_eq_none]
      intro ms₁ m ms₂ hms hout
      rw [Text.outside_of_mem_marks_encode
        (hms ▸ by simp : m ∈ Text.marks (Text.Literal.encode t))] at hout
      cases hout
    exact (Text.find?_eq_none_iff (Condition.isSymbol_of_mem_signs hp)).1 hnone
  unnegated := by
    rw [Environment.trim_encode]
    simp [Text.Literal.encode]

namespace Environment

/-- The literal of a color's text stands for that text: there is no draw in it. -/
theorem resolve_color (env : Environment) (c : Color) (dice : Dice) :
    env.resolve (Text.Literal.encode c.text) dice = (.text c.text, dice) := by
  have hdraw : 'r' ∉ Text.Literal.encode c.text := by
    intro h
    simp only [Text.Literal.encode, List.mem_cons, List.mem_append, List.not_mem_nil, or_false] at h
    rcases h with h | h | h
    · exact absurd h (by decide)
    · exact (Color.plain_of_mem_text ((Text.Literal.mem_escape_iff (by decide)).1 h)).2 rfl
    · exact absurd h (by decide)
  exact resolve_eq (trim_encode _) (holdsDraw_eq_false hdraw false)
    (Written.expression?_render (.literal c.text)) dice

/-- Two colors that are compared as texts inside a condition are compared as packed numbers. -/
theorem holds_compare_colors (env : Environment) (c d : Color) (dice : Dice) :
    env.holds (Text.link Comparison.eq.sign (Text.Literal.encode c.text)
      (Text.Literal.encode d.text)) dice =
        (decide (c.argb = d.argb), dice) ∧
      env.holds (Text.link Comparison.ne.sign (Text.Literal.encode c.text)
        (Text.Literal.encode d.text)) dice = (decide (c.argb ≠ d.argb), dice) := by
  have htexts : (c.text == d.text) = decide (c.argb = d.argb) := by
    rw [Bool.eq_iff_iff, beq_iff_eq, decide_eq_true_eq, Color.text_injective.eq_iff,
      Color.eq_mk_iff (x := d.argb), UInt32.toNat_inj]
  have hcompare : ∀ op : Comparison,
      env.holds (Text.link op.sign (Text.Literal.encode c.text) (Text.Literal.encode d.text)) dice =
        env.compares op (Text.Literal.encode c.text) (Text.Literal.encode d.text) dice :=
    fun op => congrFun (env.holds_link_compare op (.ofLiteral c.text) (.ofLiteral d.text)) dice
  constructor
  · simp only [hcompare .eq, compares, resolve_color, Value.toText_text, htexts]
  · simp only [hcompare .ne, compares, resolve_color, Value.toText_text, bne, htexts,
      ne_eq, decide_not]

end Environment

namespace Color

open Integer (IsHexDigit Spells)

/-- **The text of a color is read back.** It is `#` and six digits if the color is opaque, `#` and
eight digits if it is not, and two colors with the same text are the same. So the query for the
color of a pixel returns a text that tells any two colors apart, and a condition that compares two
such texts compares the packed numbers. -/
theorem text_reads_back (c : Color) :
    read c.text = .ok c ∧
    (c.IsOpaque → ∃ t n, c.text = '#' :: t ∧ t.length = 6 ∧ Spells IsHexDigit 16 t n ∧
      c.argb.toNat = 0xFF000000 + n) ∧
    (¬c.IsOpaque → ∃ t, c.text = '#' :: t ∧ t.length = 8 ∧ Spells IsHexDigit 16 t c.argb.toNat) ∧
    ∀ d : Color, (c.text = d.text ↔ c = d) ∧
      ∀ {ω : Type} (g : Gateway ω) (config : Config) (fuel line : Nat) (p q : Point)
        {s s' u u' : Station ω},
        ask g (.pixel p) s = .done (.ok c) s' → ask g (.pixel q) u = .done (.ok d) u' →
        ∃ v w : Value, (Command.getColor p).perform g config fuel line s = .done (.ok (some v)) s' ∧
          (Command.getColor q).perform g config fuel line u = .done (.ok (some w)) u' ∧
          (v.toText = w.toText ↔ c.argb = d.argb) ∧
          ∀ (env : Environment) (dice : Dice),
            env.holds (Text.link Comparison.eq.sign v.literal w.literal) dice =
              (decide (c.argb = d.argb), dice) ∧
            env.holds (Text.link Comparison.ne.sign v.literal w.literal) dice =
              (decide (c.argb ≠ d.argb), dice) := by
  refine ⟨c.read_text, exists_text_of_isOpaque, exists_text_of_not_isOpaque,
    fun d => ⟨text_injective.eq_iff, ?_⟩⟩
  intro ω g config fuel line p q s s' u u' hs hu
  refine ⟨.text c.text, .text d.text, Exec.bind_done hs, Exec.bind_done hu, ?_,
    fun env => env.holds_compare_colors c d⟩
  rw [Value.toText_text, Value.toText_text, text_injective.eq_iff, eq_mk_iff (x := d.argb),
    UInt32.toNat_inj]

/-- Two pixels whose colors differ in the last digit, with zeros in front of it and an alpha channel
just below the full one, beside a color with the full one. -/
theorem text_reads_back_translucent : ∃ st : Station Device,
    (⟨0xFF000012⟩ : Color).IsOpaque ∧
    (∃ t n, (⟨0xFF000012⟩ : Color).text = '#' :: t ∧ t.length = 6 ∧ Spells IsHexDigit 16 t n ∧
      (⟨0xFF000012⟩ : Color).argb.toNat = 0xFF000000 + n) ∧
    ¬(⟨0xFE000012⟩ : Color).IsOpaque ∧
    (∃ t, (⟨0xFE000012⟩ : Color).text = '#' :: t ∧ t.length = 8 ∧
      Spells IsHexDigit 16 t (⟨0xFE000012⟩ : Color).argb.toNat) ∧
    ask Device.gateway (.pixel ⟨1, 1⟩) st = .done (.ok ⟨0xFE000012⟩) st ∧
    ask Device.gateway (.pixel ⟨2, 2⟩) st = .done (.ok ⟨0xFE000013⟩) st ∧
    ∃ v w : Value,
      (Command.getColor ⟨1, 1⟩).perform Device.gateway {} 0 1 st = .done (.ok (some v)) st ∧
      (Command.getColor ⟨2, 2⟩).perform Device.gateway {} 0 1 st = .done (.ok (some w)) st ∧
      v.toText ≠ w.toText := by
  let st : Station Device :=
    { state := { pixels := [(⟨1, 1⟩, ⟨0xFE000012⟩), (⟨2, 2⟩, ⟨0xFE000013⟩)] } }
  have hfull : (⟨0xFF000012⟩ : Color).IsOpaque := by decide
  have hnot : ¬(⟨0xFE000012⟩ : Color).IsOpaque := by decide
  have hfirst : ask Device.gateway (.pixel ⟨1, 1⟩) st = .done (.ok ⟨0xFE000012⟩) st := rfl
  have hsecond : ask Device.gateway (.pixel ⟨2, 2⟩) st = .done (.ok ⟨0xFE000013⟩) st := rfl
  obtain ⟨v, w, hv, hw, hiff, -⟩ :=
    ((text_reads_back ⟨0xFE000012⟩).2.2.2 ⟨0xFE000013⟩).2 Device.gateway {} 0 1 _ _ hfirst hsecond
  exact ⟨st, hfull, (text_reads_back _).2.1 hfull, hnot, (text_reads_back _).2.2.1 hnot, hfirst,
    hsecond, v, w, hv, hw, fun h => absurd (hiff.1 h) (by decide)⟩

end Color

end TapScript
