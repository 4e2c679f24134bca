import TapScript.Expression.Eval
import TapScript.Proofs.Grammar
import TapScript.Proofs.Scan

/-! # Written expressions

An expression in a script is a text. Here it is a tree first, which is then written down with a
blank on either side of an operator and with parentheses only where the grouping needs them. The
tree has its value by rules of its own, one for each way to calculate; reading the text gives the
same value, and gives none where no rule applies.

* `Written` are the trees, `Written.render` writes them down.
* `Written.Means` are the rules for their values.
* `expression?_follows_grammar` says that texts are read so, and that nothing else is accepted. -/

namespace TapScript

/-- An expression as it is written: its numbers and names are those of the text. -/
inductive Written where
  | number (n : Numeral)
  | literal (t : Text)
  | name (x : Identifier)
  | negate (e : Written)
  | binary (op : Operator) (left right : Written)

namespace Written

/-- The expression that is written. -/
def expression : Written → Expression
  | number n => .number n.value
  | literal t => .literal t
  | name x => .name x.text
  | negate e => .negate e.expression
  | binary op left right => .binary op left.expression right.expression

/-! ## Writing -/

/-- The text of the expression in a place of the given rank. An operator that binds less tightly
than the place asks for stands in parentheses. -/
def render (place : Nat) : Written → Text
  | number n => n.digits
  | literal t => Text.Literal.encode t
  | name x => x.text
  | negate e => '-' :: e.render 2
  | binary op left right =>
    let text := left.render op.rank ++ ' ' :: op.sign :: ' ' :: right.render (op.rank + 1)
    if place ≤ op.rank then text else '(' :: text ++ [')']

/-- The tokens of that text. -/
def tokens (place : Nat) : Written → List Token
  | number n => [.number n.value]
  | literal t => [.literal t]
  | name x => [.name x.text]
  | negate e => .sign '-' :: e.tokens 2
  | binary op left right =>
    let ts := left.tokens op.rank ++ .sign op.sign :: right.tokens (op.rank + 1)
    if place ≤ op.rank then ts else .sign '(' :: ts ++ [.sign ')']

/-- The tokens write the expression. -/
theorem renders_tokens (place : Nat) (e : Written) :
    Expression.Renders place e.expression (e.tokens place) := by
  induction e generalizing place with
  | number n => exact .number n.value
  | literal t => exact .literal t
  | name x => exact .name x.text
  | negate e ih => exact .negate (ih 2)
  | binary op left right ihl ihr =>
    rw [tokens, expression]
    by_cases hplace : place ≤ op.rank
    · rw [if_pos hplace]
      exact .binary hplace (ihl _) (ihr _)
    · rw [if_neg hplace]
      exact .wrap (.binary (Nat.zero_le _) (ihl _) (ihr _))

/-- The signs of operators are signs. -/
theorem isSign_sign (op : Operator) : Token.isSign op.sign := by
  cases op <;> rfl

/-- Scanning the text gives the tokens, if nothing behind it could belong to its last one. -/
theorem scanFrom?_render (e : Written) (place : Nat) {rest : Text} (hrest : Token.Breaks rest) :
    Token.scanFrom? .none (e.render place ++ rest) =
      (Token.scanFrom? .none rest).map (e.tokens place ++ ·) := by
  induction e generalizing place rest with
  | number n => exact Token.scanFrom?_numeral n fun c hc => (hrest c hc).2
  | literal t => exact Token.scanFrom?_literal t rest
  | name x => exact Token.scanFrom?_name x fun c hc => (hrest c hc).1
  | negate e ih =>
    rw [render, tokens, List.cons_append, Token.scanFrom?_sign rfl, ih 2 hrest, Option.map_map]
    rfl
  | binary op left right ihl ihr =>
    -- the operator stands between two blanks, and a blank breaks off what is in front of it
    have hbinary : ∀ {rest : Text}, Token.Breaks rest →
        Token.scanFrom? .none
            (left.render op.rank ++ ' ' :: op.sign :: ' ' :: right.render (op.rank + 1) ++ rest) =
          (Token.scanFrom? .none rest).map
            (left.tokens op.rank ++ .sign op.sign :: right.tokens (op.rank + 1) ++ ·) := by
      intro rest hrest
      rw [List.append_assoc, List.cons_append, List.cons_append, List.cons_append,
        ihl _ (Token.breaks_cons rfl rfl _), Token.scanFrom?_blank rfl,
        Token.scanFrom?_sign (isSign_sign op), Token.scanFrom?_blank rfl, ihr _ hrest,
        Option.map_map, Option.map_map]
      congr 1
      funext ts
      simp
    rw [render, tokens]
    by_cases hplace : place ≤ op.rank
    · rw [if_pos hplace, if_pos hplace]
      exact hbinary hrest
    · rw [if_neg hplace, if_neg hplace, List.append_assoc, List.cons_append,
        Token.scanFrom?_sign rfl, List.singleton_append, hbinary (Token.breaks_cons rfl rfl _),
        Token.scanFrom?_sign rfl, Option.map_map, Option.map_map]
      congr 1
      funext ts
      simp

/-- An expression has at least one token. -/
theorem tokens_ne_nil (e : Written) (place : Nat) : e.tokens place ≠ [] := by
  cases e with
  | binary op left right =>
    rw [tokens]
    split <;> simp
  | _ => exact List.cons_ne_nil _ _

/-- A written expression is scanned as its tokens. -/
theorem scan?_render (e : Written) : Token.scan? (e.render 0) = some (e.tokens 0) := by
  have hscan := e.scanFrom?_render 0 Token.breaks_nil
  rw [List.append_nil, Token.scanFrom?, Token.Pending.finish?, Option.map_some,
    List.append_nil] at hscan
  rw [Token.scan?, hscan, Option.filter_some, if_pos (by simp [e.tokens_ne_nil 0])]

end Written

/-! ## Meaning -/

/-- The operator makes the third number of the first two. A division has no result by zero. -/
inductive Operator.Yields : Operator → Float → Float → Float → Prop
  | add (a b : Float) : Yields .add a b (a + b)
  | sub (a b : Float) : Yields .sub a b (a - b)
  | mul (a b : Float) : Yields .mul a b (a * b)
  | div (a b : Float) (h : (b == 0.0) = false) : Yields .div a b (a / b)
  | rem (a b : Float) (h : (b == 0.0) = false) : Yields .rem a b (Number.remainder a b)

/-- An operator computes what it yields, and nothing where it yields nothing. -/
theorem Operator.compute?_eq_some_iff {op : Operator} {a b c : Float} :
    op.compute? a b = some c ↔ op.Yields a b c := by
  constructor
  · intro h
    cases op with
    | add => cases h; exact .add a b
    | sub => cases h; exact .sub a b
    | mul => cases h; exact .mul a b
    | div =>
      rw [compute?] at h
      split at h
      · cases h
      · cases h
        exact .div a b (by simp_all)
    | rem =>
      rw [compute?] at h
      split at h
      · cases h
      · cases h
        exact .rem a b (by simp_all)
  · intro h
    cases h with
    | add => rfl
    | sub => rfl
    | mul => rfl
    | div _ _ h => rw [compute?, h]; rfl
    | rem _ _ h => rw [compute?, h]; rfl

/-- The words of the language and their values. -/
def Environment.words (env : Environment) : List (Text × Value) :=
  [("true".toList, .bool true), ("false".toList, .bool false), ("EXIT".toList, .bool env.exit),
    ("null".toList, .null)]

namespace Written

/-- The expression has the value; a value that is `fixed` is a text that arithmetic does not use,
whatever it spells. A name stands for the variable of that name, else for a word of the language,
else for itself. A sum of two numbers is added up, every other sum puts two texts behind each
other. -/
inductive Means (env : Environment) : Written → Value → (fixed : Bool) → Prop
  | number (n : Numeral) : Means env (.number n) (.number n.value) false
  | literal (t : Text) : Means env (.literal t) (.text t) true
  | bound {x : Identifier} {v : Value} (h : env.frame.get? x.text = some v) :
    Means env (.name x) v false
  | word {x : Identifier} {v : Value} (h : env.frame.get? x.text = none)
    (hw : (x.text, v) ∈ env.words) : Means env (.name x) v false
  | self {x : Identifier} (h : env.frame.get? x.text = none)
    (hw : ∀ v, (x.text, v) ∉ env.words) : Means env (.name x) (.text x.text) false
  | negate {e : Written} {v : Value} {a : Float} (h : Means env e v false)
    (ha : v.number? = some a) : Means env (.negate e) (.number (-a)) false
  | calculate {op : Operator} {left right : Written} {v w : Value} {a b c : Float}
    (hl : Means env left v false) (hr : Means env right w false) (ha : v.number? = some a)
    (hb : w.number? = some b) (hc : op.Yields a b c) :
    Means env (.binary op left right) (.number c) false
  | join {left right : Written} {v w : Value} {fixed fixed' : Bool} (hl : Means env left v fixed)
    (hr : Means env right w fixed')
    (h : ¬ (fixed = false ∧ v.number?.isSome ∧ fixed' = false ∧ w.number?.isSome)) :
    Means env (.binary .add left right) (.text (v.toText ++ w.toText)) true

/-- A name means what the evaluation takes it for, and that is never fixed. -/
theorem means_name_iff {env : Environment} {x : Identifier} {v : Value} {fixed : Bool} :
    Means env (.name x) v fixed ↔ v = env.word x.text ∧ fixed = false := by
  have hword : ∀ {w}, env.frame.get? x.text = none → (x.text, w) ∈ env.words →
      env.word x.text = w := by
    intro w hx hw
    rw [Environment.words] at hw
    simp only [List.mem_cons, Prod.mk.injEq, List.not_mem_nil, or_false] at hw
    rcases hw with ⟨ht, rfl⟩ | ⟨ht, rfl⟩ | ⟨ht, rfl⟩ | ⟨ht, rfl⟩ <;>
      · rw [Environment.word, hx, ht]
        rfl
  have hself : env.frame.get? x.text = none → (∀ w, (x.text, w) ∉ env.words) →
      env.word x.text = .text x.text := by
    intro hx hw
    rw [Environment.words] at hw
    simp only [List.mem_cons, Prod.mk.injEq, List.not_mem_nil, or_false, not_or] at hw
    have htrue := (hw (.bool true)).1
    have hfalse := (hw (.bool false)).2.1
    have hexit := (hw (.bool env.exit)).2.2.1
    have hnull := (hw .null).2.2.2
    simp only [and_true] at htrue hfalse hexit hnull
    rw [Environment.word, hx]
    simp only [htrue, hfalse, hexit, hnull, if_false]
  constructor
  · intro h
    cases h with
    | bound h => exact ⟨by rw [Environment.word, h], rfl⟩
    | word h hw => exact ⟨(hword h hw).symm, rfl⟩
    | self h hw => exact ⟨(hself h hw).symm, rfl⟩
  · rintro ⟨rfl, rfl⟩
    cases hx : env.frame.get? x.text with
    | some v =>
      rw [Environment.word, hx]
      exact .bound hx
    | none =>
      by_cases hw : ∃ w, (x.text, w) ∈ env.words
      · obtain ⟨w, hw⟩ := hw
        rw [hword hx hw]
        exact .word hx hw
      · rw [hself hx (not_exists.1 hw)]
        exact .self hx (not_exists.1 hw)

/-- An operand is a number if its value is one and it is not quoted. -/
theorem number?_eq_some_iff {v : Value} {fixed : Bool} {a : Float} :
    (⟨v, fixed⟩ : Operand).number? = some a ↔ fixed = false ∧ v.number? = some a := by
  cases fixed <;> simp [Operand.number?]

/-- The evaluation of an expression gives the value that the expression has. -/
theorem eval?_eq_some_iff {env : Environment} {e : Written} {v : Value} {fixed : Bool} :
    e.expression.eval? env = some ⟨v, fixed⟩ ↔ Means env e v fixed := by
  constructor
  · intro h
    induction e generalizing v fixed with
    | number n =>
      cases h
      exact .number n
    | literal t =>
      cases h
      exact .literal t
    | name x =>
      cases h
      exact means_name_iff.2 ⟨rfl, rfl⟩
    | negate e ih =>
      simp only [expression, Expression.eval?, Option.bind_eq_bind, Option.bind_eq_some_iff] at h
      obtain ⟨⟨w, fixed'⟩, he, a, ha, hv⟩ := h
      cases hv
      obtain ⟨rfl, ha⟩ := number?_eq_some_iff.1 ha
      exact .negate (ih he) ha
    | binary op left right ihl ihr =>
      simp only [expression, Expression.eval?, Option.bind_eq_bind, Option.bind_eq_some_iff] at h
      obtain ⟨⟨v₁, fixed₁⟩, hl, ⟨v₂, fixed₂⟩, hr, hcombine⟩ := h
      rw [Operator.combine?] at hcombine
      split at hcombine
      · -- both sides are numbers
        rename_i a b ha hb
        obtain ⟨rfl, ha⟩ := number?_eq_some_iff.1 ha
        obtain ⟨rfl, hb⟩ := number?_eq_some_iff.1 hb
        obtain ⟨c, hc, hv⟩ := Option.map_eq_some_iff.1 hcombine
        cases hv
        exact .calculate (ihl hl) (ihr hr) ha hb (Operator.compute?_eq_some_iff.1 hc)
      · -- one side is no number, or is fixed: only a sum is left
        rename_i hnone
        split at hcombine
        · rename_i hadd
          subst hadd
          cases hcombine
          refine .join (ihl hl) (ihr hr) ?_
          rintro ⟨rfl, ha, rfl, hb⟩
          obtain ⟨a, ha⟩ := Option.isSome_iff_exists.1 ha
          obtain ⟨b, hb⟩ := Option.isSome_iff_exists.1 hb
          exact hnone a b (number?_eq_some_iff.2 ⟨rfl, ha⟩) (number?_eq_some_iff.2 ⟨rfl, hb⟩)
        · cases hcombine
  · intro h
    induction h with
    | number n => rfl
    | literal t => rfl
    | @bound x v h =>
      rw [(means_name_iff.1 (.bound h)).1]
      rfl
    | @word x v h hw =>
      rw [(means_name_iff.1 (.word h hw)).1]
      rfl
    | @self x h hw =>
      rw [(means_name_iff.1 (.self h hw)).1]
      rfl
    | negate h ha ih =>
      simp only [expression, Expression.eval?, ih, Option.bind_eq_bind, Option.bind_some,
        number?_eq_some_iff.2 ⟨rfl, ha⟩]
      rfl
    | calculate hl hr ha hb hc ihl ihr =>
      simp only [expression, Expression.eval?, ihl, ihr, Option.bind_eq_bind, Option.bind_some,
        Operator.combine?, number?_eq_some_iff.2 ⟨rfl, ha⟩, number?_eq_some_iff.2 ⟨rfl, hb⟩,
        Operator.compute?_eq_some_iff.2 hc]
      rfl
    | join hl hr h ihl ihr =>
      simp only [expression, Expression.eval?, ihl, ihr, Option.bind_eq_bind, Option.bind_some,
        Operator.combine?]
      split
      · rename_i a b ha hb
        obtain ⟨hfree, ha⟩ := number?_eq_some_iff.1 ha
        obtain ⟨hfree', hb⟩ := number?_eq_some_iff.1 hb
        exact absurd ⟨hfree, by simp [ha], hfree', by simp [hb]⟩ h
      · rfl

/-- The text of a tree has the value of the tree. -/
theorem expression?_render {env : Environment} {e : Written} {v : Value} {fixed : Bool}
    (h : Means env e v fixed) : env.expression? (e.render 0) = some v := by
  simp only [Environment.expression?, e.scan?_render,
    Expression.parse?_eq_some_iff.2 (e.renders_tokens 0), eval?_eq_some_iff.2 h,
    Option.bind_eq_bind, Option.bind_some]

end Written

/-- **Expressions are read by their grammar.** The text of a tree has a value exactly if the tree
has one, and it is the same. A list of tokens is accepted exactly if it writes some expression,
parentheses more than needed included; so any text that is accepted consists of such tokens, and its
value is that of the expression that they write. -/
theorem expression?_follows_grammar (env : Environment) :
    (∀ (e : Written) (v : Value),
      env.expression? (e.render 0) = some v ↔ ∃ fixed, e.Means env v fixed) ∧
    (∀ ts : List Token, Expression.parse? ts = none ↔ ∀ e, ¬ Expression.Renders 0 e ts) ∧
    ∀ (t : Text) (v : Value), env.expression? t = some v ↔
      ∃ ts e, Token.scan? t = some ts ∧ Expression.Renders 0 e ts ∧
        (e.eval? env).map Operand.value = some v := by
  have hread : ∀ (t : Text) (v : Value), env.expression? t = some v ↔
      ∃ ts e, Token.scan? t = some ts ∧ Expression.Renders 0 e ts ∧
        (e.eval? env).map Operand.value = some v := by
    intro t v
    simp only [Environment.expression?, Option.bind_eq_bind, Option.bind_eq_some_iff,
      Option.map_eq_some_iff, Expression.parse?_eq_some_iff, Option.some.injEq]
    constructor
    · rintro ⟨ts, hts, e, he, o, ho, hv⟩
      exact ⟨ts, e, hts, he, o, ho, hv⟩
    · rintro ⟨ts, e, hts, he, o, ho, hv⟩
      exact ⟨ts, hts, e, he, o, ho, hv⟩
  refine ⟨?_, ?_, hread⟩
  · intro e v
    constructor
    · intro h
      obtain ⟨ts, f, hts, hf, hv⟩ := (hread _ v).1 h
      -- of the tokens of the tree only the tree's own expression is made
      rw [e.scan?_render, Option.some.injEq] at hts
      subst hts
      rw [← Expression.parse?_eq_some_iff, Expression.parse?_eq_some_iff.2 (e.renders_tokens 0),
        Option.some.injEq] at hf
      subst hf
      obtain ⟨⟨w, fixed⟩, ho, rfl⟩ := Option.map_eq_some_iff.1 hv
      exact ⟨fixed, Written.eval?_eq_some_iff.1 ho⟩
    · rintro ⟨fixed, hmeans⟩
      exact Written.expression?_render hmeans
  · intro ts
    rw [Option.eq_none_iff_forall_ne_some]
    simp only [ne_eq, Expression.parse?_eq_some_iff]

end TapScript
